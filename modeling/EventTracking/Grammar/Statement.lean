import EventTracking.Grammar.Item

/-!
# Statements

The statements of a block. A semicolon separates two statements unless the first ends in a block.
-/

namespace EventTracking.Grammar

open Code

/-- Whether an item lies ahead rather than an expression. -/
def itemAt (tokens : List Token) : Bool :=
  let second := tokens.drop 1
  let third := tokens.drop 2
  ["pub", "extern", "use", "fn", "mod", "type", "struct", "enum", "trait", "impl", "macro"].any
      (wordAt · tokens) ||
    wordAt "crate" tokens && !(Form.mark "::").startsAt second ||
    wordAt "static" tokens &&
      (wordAt "mut" second ||
        Form.name.startsAt second &&
          !(wordAt "async" second && (wordAt "move" third || (Form.mark "|").startsAt third))) ||
    wordAt "const" tokens &&
      !(braceAt second || wordAt "static" second ||
        wordAt "async" second &&
          !(wordAt "unsafe" third || wordAt "extern" third || wordAt "fn" third) ||
        wordAt "move" second || (Form.mark "|").startsAt second) ||
    wordAt "unsafe" tokens && !braceAt second ||
    wordAt "async" tokens &&
      (wordAt "unsafe" second || wordAt "extern" second || wordAt "fn" second) ||
    wordAt "union" tokens && Form.name.startsAt second ||
    wordAt "auto" tokens && wordAt "trait" second ||
    wordAt "default" tokens && (wordAt "unsafe" second || wordAt "impl" second)

/-- Whether the last of the tokens that have been read is a group in braces, given what lay ahead
before and what lies ahead now. -/
def endsInBrace (before after : List Token) : Bool :=
  match (before.take (before.length - after.length)).getLast? with
  | some token => braceAt [token]
  | none => false

/-- Reads a binding. -/
def binding (rules : Rules) : Parser Unit := do
  word "let"
  let _ ← rules .pattern
  if ← optional (.mark ":") then
    let _ ← rules (.type true)
  if ← optional (.mark "=") then
    let before ← ahead
    let _ ← rules (.expression true)
    if !endsInBrace before (← ahead) && (← optional (.word "else")) then block rules
  mark ";"

/-- What a macro call at the head of a statement means for the statement. -/
inductive LeadingCall where
  /-- The statement is an item. -/
  | item
  /-- The statement is a macro call with arguments in braces. -/
  | statement
  /-- The statement is something else. -/
  | none

/-- Looks ahead for a macro call at the head of a statement. -/
def leadingCall : Parser LeadingCall := do
  match ← peek (attempt (do let _ ← wordPath; ahead)) with
  | none => return .none
  | some tokens =>
    let second := tokens.drop 1
    let third := tokens.drop 2
    if (Form.mark "!").startsAt tokens then
      if Form.name.startsAt second || wordAt "try" second then return .item
      else if braceAt second && !(dotAt third || (Form.mark "?").startsAt third) then
        return .statement
      else return .none
    else return .none

/-- Reads a statement and answers whether something has to separate it from the next one. -/
def statement (rules : Rules) : Parser Bool := do
  let attributes ← outerAttributes rules
  let leading ← leadingCall
  let tokens ← ahead
  match leading with
  | .statement =>
    let _ ← wordPath
    mark "!"
    let _ ← anyGroup
    let _ ← optional (.mark ";")
    return false
  | _ =>
    let item := leading matches .item
    if wordAt "let" tokens then
      binding rules
      return false
    else if item || itemAt tokens then
      let _ ← itemAfter rules attributes
      return false
    else
      let shape ← rules .boundary
      if ← optional (.mark ";") then return false
      match shape with
      | .block => return false
      | .macroCall braced => return !braced
      | _ => return true

/-- Reads at most `fuel` statements. -/
def statementsFrom (rules : Rules) : Nat → Parser Unit
  | 0 => return
  | fuel + 1 => do
    let _ ← repeatWhile (Form.mark ";").startsAt (mark ";")
    unless ← atEnd do
      let open' ← statement rules
      unless ← atEnd do
        if open' then stop .unseparated
        statementsFrom rules fuel

/-- Reads statements up to the end of the group. -/
def statementsRule (rules : Rules) : Parser Unit := do
  statementsFrom rules ((← ahead).length + 1)

end EventTracking.Grammar
