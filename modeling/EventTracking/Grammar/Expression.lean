import EventTracking.Grammar.Pattern

/-!
# Expressions

Expressions are read by operator precedence. Where a brace has to begin a block, as in the condition
of a branch, a path is not followed by the fields of a struct. An expression that ends in a block
may end a statement without a semicolon.
-/

namespace EventTracking.Grammar

open Code

/-! ## Operators -/

/-- The binary operators with their precedences, longer ones before their beginnings. -/
def operators : List (String × Precedence) :=
  [("+=", 1), ("-=", 1), ("*=", 1), ("/=", 1), ("%=", 1), ("^=", 1), ("&=", 1), ("|=", 1),
   ("<<=", 1), (">>=", 1), ("&&", 4), ("||", 3), ("<<", 10), (">>", 10), ("==", 6), ("<=", 6),
   ("!=", 6), (">=", 6), ("+", 11), ("-", 11), ("*", 12), ("/", 12), ("%", 12), ("^", 8),
   ("&", 9), ("|", 7), ("<", 6), (">", 6)]

/-- The binary operator that lies ahead. -/
def operatorAt (tokens : List Token) : Option (String × Precedence) :=
  operators.find? fun operator => (Form.mark operator.1).startsAt tokens

/-- How tightly the operator that lies ahead binds; the lowest precedence if there is none. -/
def precedenceAt (tokens : List Token) : Precedence :=
  match operatorAt tokens with
  | some (_, precedence) => precedence
  | none =>
    if assignAt tokens then .assign
    else if (Form.mark "..").startsAt tokens then .range
    else if (Form.word "as").startsAt tokens then .cast
    else .lowest

/-- Whether an expression lies ahead. -/
def expressionAt (tokens : List Token) : Bool :=
  let markBut (text : String) (longer : List String) : Bool :=
    (Form.mark text).startsAt tokens && !anyMarkAt longer tokens
  match tokens with
  | .word identifier _ :: _ => !identifier.isPlain "as"
  | .group _ _ _ _ :: _ => true
  | _ =>
    Form.anyLiteral.startsAt tokens || markBut "!" ["!="] || markBut "-" ["-=", "->"] ||
      markBut "*" ["*="] || markBut "|" ["|="] || markBut "&" ["&="] || markBut "<" ["<=", "<<="] ||
      anyMarkAt ["..", "::", "#"] tokens || Form.lifetime.startsAt tokens

/-- Whether the dot of a field or a method lies ahead. -/
def dotAt (tokens : List Token) : Bool :=
  (Form.mark ".").startsAt tokens && !(Form.mark "..").startsAt tokens

/-! ## Operands after operators -/

/-- Reads at most `fuel` times the operators after an operand that bind more tightly than
`precedence`, or as tightly if they assign. -/
def climbFrom (rules : Rules) (structs : Bool) (precedence : Precedence) :
    Nat → Shape → Parser Shape
  | 0, left => return left
  | fuel + 1, left => do
    let tokens ← ahead
    let next := precedenceAt tokens
    if precedence < next || next = precedence && precedence = Precedence.assign then
      let shape ← rules (.operation structs left next)
      if (← ahead).length = tokens.length then return shape
      climbFrom rules structs precedence fuel shape
    else return left

/-- Reads the right operand of an operator. -/
def rightOperand (rules : Rules) (structs : Bool) (precedence : Precedence) : Parser Shape := do
  let left ← rules (.operand structs)
  climbFrom rules structs precedence ((← ahead).length + 1) left

/-- Whether a range that leaves its upper end open ends here. -/
def rangeEndsAt (structs : Bool) (tokens : List Token) : Bool :=
  tokens.isEmpty ||
    anyMarkAt [",", ";", "?", "=>", "=", "+", "/", "%", "^", ">", "<=", "!=", "-=", "*=", "&=",
      "|=", "<<="] tokens ||
    dotAt tokens || !structs && (Form.group .brace).startsAt tokens ||
    (Form.word "as").startsAt tokens

/-- Reads the dots of a range and its upper end. -/
def upperRange (rules : Rules) (structs : Bool) : Parser Unit := do
  let closed ← rangeDots false
  unless !closed && rangeEndsAt structs (← ahead) do
    let _ ← rightOperand rules structs .range

/-- Refuses what may not follow a cast. -/
def afterCast : Parser Unit := do
  let tokens ← ahead
  if dotAt tokens then
    let third := tokens.drop 2
    if (Form.word "await").startsAt (tokens.drop 1) then stop (.afterCast "`.await`")
    else if Form.name.startsAt (tokens.drop 1) &&
        ((Form.group .parenthesis).startsAt third || (Form.mark "::").startsAt third) then
      stop (.afterCast "a method call")
    else stop (.afterCast "a field access")
  else if (Form.mark "?").startsAt tokens then stop (.afterCast "`?`")
  else if (Form.group .bracket).startsAt tokens then stop (.afterCast "indexing")
  else if (Form.group .parenthesis).startsAt tokens then stop (.afterCast "a function call")

/-- Reads the operators after an expression that bind at least as tightly as `base`. A range is no
left operand, and a comparison is none of another comparison. -/
def operationRule (rules : Rules) (structs : Bool) (left : Shape) (base : Precedence) :
    Parser Shape := do
  if left = .range then return left
  let tokens ← ahead
  match operatorAt tokens with
  | some (text, precedence) =>
    if precedence < base then return left
    if precedence = Precedence.compare && left = .comparison then stop .chainedComparison
    mark text
    let _ ← rightOperand rules structs precedence
    let shape := if precedence = Precedence.compare then .comparison else .other
    rules (.operation structs shape base)
  | none =>
    if base ≤ Precedence.assign && assignAt tokens then
      mark "="
      let _ ← rightOperand rules structs .assign
      rules (.operation structs .other base)
    else if base ≤ Precedence.range && (Form.mark "..").startsAt tokens then
      upperRange rules structs
      return .range
    else if base ≤ Precedence.cast && (Form.word "as").startsAt tokens then
      word "as"
      let _ ← rules (.type false)
      afterCast
      rules (.operation structs .other base)
    else return left

/-! ## Blocks, loops and branches -/

/-- Reads an expression before a block. -/
def head (rules : Rules) : Parser Unit := do
  let _ ← rules (.expression false)

/-- Reads a branch with its alternatives. -/
def branchFrom (rules : Rules) : Nat → Parser Unit
  | 0 => return
  | fuel + 1 => do
    word "if"
    head rules
    block rules
    if ← optional (.word "else") then
      if ← sees (.word "if") then branchFrom rules fuel
      else if ← sees (.group .brace) then block rules
      else wrong [.word "if", .group .brace]

/-- Reads a branch. -/
def branch (rules : Rules) : Parser Unit := do
  branchFrom rules ((← ahead).length + 1)

/-- Reads a loop over a condition. -/
def whileLoop (rules : Rules) : Parser Unit := do
  word "while"
  head rules
  let _ ← body rules

/-- Reads a loop over a sequence. -/
def forLoop (rules : Rules) : Parser Unit := do
  word "for"
  let _ ← alternatives rules
  word "in"
  head rules
  let _ ← body rules

/-- Reads a loop without an end of its own. -/
def endlessLoop (rules : Rules) : Parser Unit := do
  word "loop"
  let _ ← body rules

/-- Reads an arm of a match; a comma has to follow unless the arm ends in a block or is the last. -/
def arm (rules : Rules) : Parser Unit := do
  let _ ← outerAttributes rules
  let _ ← alternatives rules
  if ← optional (.word "if") then
    let _ ← rules (.expression true)
  mark "=>"
  let shape ← rules .boundary
  if shape ≠ .block && !(← atEnd) then mark ","
  else
    let _ ← optional (.mark ",")

/-- Reads a match. -/
def matching (rules : Rules) : Parser Unit := do
  word "match"
  head rules
  within .brace do
    let _ ← innerAttributes rules
    let _ ← toEnd (arm rules)

/-- Reads an expression after a label. -/
def labelled (rules : Rules) : Parser Shape := do
  expect .lifetime
  mark ":"
  let tokens ← ahead
  if (Form.word "while").startsAt tokens then whileLoop rules
  else if (Form.word "for").startsAt tokens then forLoop rules
  else if (Form.word "loop").startsAt tokens then endlessLoop rules
  else if (Form.group .brace).startsAt tokens then
    let _ ← body rules
  else stop (.missing "loop or block expression")
  return .block

/-! ## Atoms -/

/-- Reads a field of a struct expression: its value may be left out if it has a name. -/
def fieldValue (rules : Rules) : Parser Unit := do
  let _ ← outerAttributes rules
  let named ← member
  if colonAt (← ahead) || !named then
    mark ":"
    let _ ← rules (.expression true)

/-- Reads at most `fuel` fields of a struct expression, up to `..` and what it stands for. -/
def fieldValues (rules : Rules) : Nat → Parser Unit
  | 0 => return
  | fuel + 1 => do
    if ← atEnd then return
    if ← optional (.mark "..") then
      unless ← atEnd do
        let _ ← rules (.expression true)
      return
    fieldValue rules
    if ← atEnd then return
    mark ","
    fieldValues rules fuel

/-- Reads an expression that begins with a path. -/
def pathExpression (rules : Rules) (structs : Bool) : Parser Shape := do
  let (qualified, shape) ← qualifiedPath rules true
  let tokens ← ahead
  if !qualified && callAt shape tokens then
    mark "!"
    let delimiter ← anyGroup
    return .macroCall (delimiter = .brace)
  if structs && (Form.group .brace).startsAt tokens then
    within .brace do fieldValues rules ((← ahead).length + 1)
  return .other

/-- Reads a parameter of a closure. -/
def closureParameter (rules : Rules) : Parser Unit := do
  let _ ← outerAttributes rules
  let _ ← rules .pattern
  if ← optional (.mark ":") then
    let _ ← rules (.type true)

/-- Reads a closure. -/
def closure (rules : Rules) (structs : Bool) : Parser Unit := do
  let _ ← optionalBinder rules
  let _ ← optional (.word "const")
  let _ ← optional (.word "static")
  let _ ← optional (.word "async")
  let _ ← optional (.word "move")
  mark "|"
  let _ ← items ⟨(Form.mark "|").startsAt, (Form.mark "|").startsAt, .mark ","⟩
    (closureParameter rules)
  mark "|"
  if ← optional (.mark "->") then
    let _ ← rules (.type true)
    block rules
  else
    let _ ← rules (.expression structs)

/-- Reads an expression, or several, in parentheses. -/
def parenthesized (rules : Rules) : Parser Unit :=
  within .parenthesis do
    let _ ← commaSeparated (rules (.expression true))

/-- Reads a list in brackets, or a value and how often it is repeated. -/
def list (rules : Rules) : Parser Unit :=
  within .bracket do
    unless ← atEnd do
      let _ ← rules (.expression true)
      if (← atEnd) || (← sees (.mark ",")) then
        if ← optional (.mark ",") then
          let _ ← commaSeparated (rules (.expression true))
      else if ← optional (.mark ";") then
        let _ ← rules (.expression true)
      else stop (.missing "`,` or `;`")

/-- Reads `break` with its label and its value. -/
def breaking (rules : Rules) (structs : Bool) : Parser Unit := do
  word "break"
  let tokens ← ahead
  let line := (← get).line
  if Form.lifetime.startsAt tokens && (Form.mark ":").startsAt (tokens.drop 1) then
    let _ ← rules (.expression true)
    stopAt .unparenthesized line
  let _ ← optional .lifetime
  let tokens ← ahead
  if expressionAt tokens && (structs || !(Form.group .brace).startsAt tokens) then
    let _ ← rules (.expression true)

/-- Reads an expression if one lies ahead. -/
def optionalExpression (rules : Rules) : Parser Unit := do
  if expressionAt (← ahead) then
    let _ ← rules (.expression true)

/-- Reads a pattern that is matched against an expression. -/
def letCondition (rules : Rules) (structs : Bool) : Parser Unit := do
  word "let"
  let _ ← alternatives rules
  mark "="
  let left ← rules (.operand structs)
  let _ ← rules (.operation structs left .compare)

/-- Whether a closure lies ahead. -/
def closureAt (tokens : List Token) : Bool :=
  let second := tokens.drop 1
  let third := tokens.drop 2
  let isWord (text : String) : Bool := (Form.word text).startsAt tokens
  (Form.mark "|").startsAt tokens || isWord "move" || isWord "static" ||
    isWord "for" && (Form.mark "<").startsAt second &&
      (Form.lifetime.startsAt third || (Form.mark ">").startsAt third) ||
    isWord "const" && !(Form.group .brace).startsAt second ||
    isWord "async" && ((Form.mark "|").startsAt second || (Form.word "move").startsAt second)

/-- Reads an expression without operators or anything after it. -/
def atom (rules : Rules) (structs : Bool) : Parser Shape := do
  let tokens ← ahead
  let second := tokens.drop 1
  let isWord (text : String) : Bool := (Form.word text).startsAt tokens
  let braceAt (tokens : List Token) : Bool := (Form.group .brace).startsAt tokens
  if Form.anyLiteral.startsAt tokens then
    let _ ← literal
    return .other
  else if isWord "async" && (braceAt second ||
      (Form.word "move").startsAt second && braceAt (tokens.drop 2)) then
    word "async"
    let _ ← optional (.word "move")
    block rules
    return .other
  else if isWord "try" && braceAt second then
    word "try"
    block rules
    return .block
  else if closureAt tokens then
    closure rules structs
    return .other
  else if isWord "builtin" && (Form.mark "#").startsAt second then
    word "builtin"
    mark "#"
    let _ ← name
    withinThen .parenthesis (do skip (← ahead).length) pure
    return .other
  else if pathWordAt tokens || anyMarkAt ["::", "<"] tokens ||
      isWord "try" && anyMarkAt ["!", "::"] second then
    pathExpression rules structs
  else if (Form.group .parenthesis).startsAt tokens then
    parenthesized rules
    return .other
  else if isWord "break" then
    breaking rules structs
    return .other
  else if isWord "continue" then
    word "continue"
    let _ ← optional .lifetime
    return .other
  else if isWord "return" then
    word "return"
    optionalExpression rules
    return .other
  else if isWord "become" then
    word "become"
    let _ ← rules (.expression true)
    return .other
  else if (Form.group .bracket).startsAt tokens then
    list rules
    return .other
  else if isWord "let" then
    letCondition rules structs
    return .other
  else if isWord "if" then
    branch rules
    return .block
  else if isWord "while" then
    whileLoop rules
    return .block
  else if isWord "for" then
    forLoop rules
    return .block
  else if isWord "loop" then
    endlessLoop rules
    return .block
  else if isWord "match" then
    matching rules
    return .block
  else if isWord "yield" then
    word "yield"
    optionalExpression rules
    return .other
  else if isWord "unsafe" then
    word "unsafe"
    let _ ← body rules
    return .block
  else if isWord "const" then
    word "const"
    let _ ← body rules
    return .block
  else if braceAt tokens then
    let _ ← body rules
    return .block
  else if (Form.mark "..").startsAt tokens then
    upperRange rules structs
    return .range
  else if isWord "_" then
    word "_"
    return .other
  else if Form.lifetime.startsAt tokens then labelled rules
  else stop (.missing "an expression")

/-! ## What follows an atom -/

/-- Reads the field numbers written together as a fraction and answers whether the fraction ends
in a dot. -/
def joinedIndices (written : List Char) (line : Nat) : Parser Bool := do
  let parts := written.splitOn '.'
  let trailing := parts.getLast? = some []
  let indices := if trailing then parts.dropLast else parts
  indices.forM fun part => checkIndex false line (numberOf part)
  return trailing

/-- Reads a field, a method call or `await` after its dot. -/
def access (rules : Rules) : Parser Unit := do
  if ← optional (.word "await") then return
  let named ← member
  let turbofish := named && (← sees (.mark "::"))
  if turbofish then
    mark "::"
    let _ ← angleArguments rules
  if named && (turbofish || (← sees (.group .parenthesis))) then parenthesized rules

/-- Reads a field number, or several, a method call or `await`. -/
def selection (rules : Rules) : Parser Unit := do
  mark "."
  let line := (← get).line
  match ← ahead with
  | .literal (.fraction written) _ :: _ =>
    let _ ← literal
    if ← joinedIndices written line then access rules
  | .mark '-' _ _ :: .literal (.fraction _) _ :: _ => stopAt .negativeIndex line
  | _ => access rules

/-- Reads at most `fuel` calls, selections, indices and question marks after an expression. -/
def trailersFrom (rules : Rules) : Nat → Shape → Parser Shape
  | 0, shape => return shape
  | fuel + 1, shape => do
    let tokens ← ahead
    if (Form.group .parenthesis).startsAt tokens then
      parenthesized rules
      trailersFrom rules fuel .other
    else if dotAt tokens && shape ≠ .range then
      selection rules
      trailersFrom rules fuel .other
    else if (Form.group .bracket).startsAt tokens then
      within .bracket do
        let _ ← rules (.expression true)
      trailersFrom rules fuel .other
    else if (Form.mark "?").startsAt tokens && shape ≠ .range then
      mark "?"
      trailersFrom rules fuel .other
    else return shape

/-- Reads calls, selections, indices and question marks after an expression. -/
def trailers (rules : Rules) (shape : Shape) : Parser Shape := do
  trailersFrom rules ((← ahead).length + 1) shape

/-- Reads an expression without binary operators. -/
def operandRule (rules : Rules) (structs : Bool) : Parser Shape := do
  let attributes ← outerAttributes rules
  let tokens ← ahead
  if (Form.mark "&").startsAt tokens then
    mark "&"
    let tokens ← ahead
    let raw := (Form.word "raw").startsAt tokens &&
      ((Form.word "mut").startsAt (tokens.drop 1) || (Form.word "const").startsAt (tokens.drop 1))
    if raw then word "raw"
    let mutable ← optional (.word "mut")
    if raw && !mutable then word "const"
    let _ ← rules (.operand structs)
    return .other
  else if anyMarkAt ["*", "!", "-"] tokens then
    skip 1
    let _ ← rules (.operand structs)
    return .other
  else
    let line := (← get).line
    let shape ← trailers rules (← atom rules structs)
    if shape = .range && !attributes.isEmpty then stopAt .attributeOnRange line
    return shape

/-- Reads an expression. -/
def expressionRule (rules : Rules) (structs : Bool) : Parser Shape := do
  let left ← rules (.operand structs)
  rules (.operation structs left .lowest)

/-! ## Statement boundaries -/

/-- Reads an expression that ends with its block where a statement may end. -/
def boundaryRule (rules : Rules) : Parser Shape := do
  let _ ← outerAttributes rules
  let tokens ← ahead
  let second := tokens.drop 1
  let third := tokens.drop 2
  let isWord (text : String) : Bool := (Form.word text).startsAt tokens
  let braceAt (tokens : List Token) : Bool := (Form.group .brace).startsAt tokens
  let binder := (Form.mark "<").startsAt second &&
    (Form.lifetime.startsAt third || (Form.mark ">").startsAt third)
  let shape ←
    if ["if", "while", "loop", "match", "unsafe"].any isWord || isWord "for" && !binder ||
        isWord "try" && braceAt second || isWord "const" && braceAt second || braceAt tokens ||
        Form.lifetime.startsAt tokens then
      atom rules true
    else rules (.operand true)
  if shape ≠ .block then rules (.operation true shape .lowest)
  else
    let tokens ← ahead
    if dotAt tokens || (Form.mark "?").startsAt tokens then
      let shape ← trailers rules shape
      rules (.operation true shape .lowest)
    else return shape

end EventTracking.Grammar
