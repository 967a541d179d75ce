import EventTracking.Grammar.Type

/-!
# Patterns

The patterns of parameters, bindings and match arms. Alternatives are separated by single bars.
-/

namespace EventTracking.Grammar

open Code

/-! ## Members -/

/-- The limit below which a field's number has to stay. -/
def indexLimit : Nat := 1 <<< 32

/-- Refuses a literal that is no field number. -/
def checkIndex (negative : Bool) (line : Nat) : Literal → Parser Unit
  | .integer value suffixed =>
    if suffixed then stopAt .suffixedIndex line
    else if negative then stopAt .negativeIndex line
    else if value < indexLimit then return
    else stopAt .largeIndex line
  | _ => stopAt (.missing "integer literal") line

/-- Whether an integer, with or without a minus, lies ahead. -/
def integerAt : List Token → Bool
  | .literal (.integer _ _) _ :: _ => true
  | .mark '-' _ _ :: .literal (.integer _ _) _ :: _ => true
  | _ => false

/-- Reads the name or the number of a field and answers whether it is a name. -/
def member : Parser Bool := do
  let tokens ← ahead
  if Form.name.startsAt tokens then
    let _ ← name
    return true
  else if integerAt tokens then
    let line := (← get).line
    checkIndex ((Form.mark "-").startsAt tokens) line (← literal)
    return false
  else stop (.missing "identifier or integer")

/-! ## Ranges -/

/-- The dots of a range: whether its upper end is included. -/
def rangeDots (threeDots : Bool) : Parser Bool := do
  let tokens ← ahead
  if (Form.mark "..=").startsAt tokens then
    mark "..="
    return true
  else if (Form.mark "...").startsAt tokens && threeDots then
    mark "..."
    return true
  else if (Form.mark "..").startsAt tokens && !(Form.mark "...").startsAt tokens then
    mark ".."
    return false
  else if (Form.mark "..").startsAt tokens then wrong [.mark "..", .mark "..="]
  else wrong [.mark ".."]

/-- What may stand at an end of a range pattern. -/
def rangeEndForms : List Form :=
  [.anyLiteral, .name, .mark "::", .mark "<", .word "self", .word "Self", .word "super",
   .word "crate", .word "const"]

/-- Reads the end of a range pattern and answers whether there is one. -/
def rangePatternEnd (rules : Rules) : Parser Bool := do
  let tokens ← ahead
  if tokens.isEmpty || anyMarkAt ["|", "=", ",", ";"] tokens || colonAt tokens ||
      (Form.word "if").startsAt tokens then
    return false
  else if Form.anyLiteral.startsAt tokens then
    let _ ← literal
    return true
  else if pathWordAt tokens || anyMarkAt ["::", "<"] tokens then
    let _ ← qualifiedPath rules true
    return true
  else if (Form.word "const").startsAt tokens then
    word "const"
    let _ ← body rules
    return true
  else wrong rangeEndForms

/-- Reads the dots and the upper end of a range pattern whose lower end has been read. -/
def rangePattern (rules : Rules) : Parser PatternShape := do
  let line := (← get).line
  let closed ← rangeDots true
  if ← rangePatternEnd rules then return .other
  else if closed then stop (.missing "range upper bound")
  else return .openRange line

/-- Reads a range pattern without a lower end, or the pattern `..`. -/
def upperRangePattern (rules : Rules) : Parser PatternShape := do
  let line := (← get).line
  let closed ← rangeDots false
  if ← rangePatternEnd rules then return .openRange line
  else if closed then stop (.missing "range upper bound")
  else return .rest

/-- Reads a literal or a constant, or a range pattern that begins with one. -/
def constantPattern (rules : Rules) : Parser PatternShape := do
  let _ ← rangePatternEnd rules
  if ← sees (.mark "..") then rangePattern rules else return .other

/-! ## Alternatives -/

/-- Whether a single bar lies ahead. -/
def barAt (tokens : List Token) : Bool :=
  (Form.mark "|").startsAt tokens && !(Form.mark "||").startsAt tokens &&
    !(Form.mark "|=").startsAt tokens

/-- Reads a pattern with its alternatives; a bar may stand before the first. -/
def alternatives (rules : Rules) : Parser PatternShape := do
  let leading ← optional (.mark "|")
  let first ← rules .pattern
  let others ← repeatWhile barAt do
    mark "|"
    rules .pattern
  return if leading || !others.isEmpty then .other else first

/-! ## Groups of patterns -/

/-- Reads a field of a struct pattern. -/
def fieldPattern (rules : Rules) : Parser Unit := do
  let boxed ← optional (.word "box")
  let byRef ← optional (.word "ref")
  let mutable ← optional (.word "mut")
  let modified := boxed || byRef || mutable
  let named ←
    if modified then do
      let _ ← name
      pure true
    else member
  if !modified && (← sees (.mark ":")) || !named then
    mark ":"
    let _ ← alternatives rules

/-- Reads at most `fuel` fields of a struct pattern, up to `..`. -/
def fieldPatterns (rules : Rules) : Nat → Parser Unit
  | 0 => return
  | fuel + 1 => do
    if ← atEnd then return
    let _ ← outerAttributes rules
    if ← optional (.mark "..") then return
    fieldPattern rules
    if ← atEnd then return
    mark ","
    fieldPatterns rules fuel

/-- Reads a pattern in a list; a range in it needs both ends. -/
def listedPattern (rules : Rules) : Parser Unit := do
  match ← alternatives rules with
  | .openRange line => stopAt .rangeInList line
  | _ => return

/-- Reads a pattern that begins with a path. -/
def pathPattern (rules : Rules) : Parser PatternShape := do
  let (qualified, shape) ← qualifiedPath rules true
  let tokens ← ahead
  if !qualified && callAt shape tokens then
    mark "!"
    let _ ← anyGroup
    return .other
  else if (Form.group .brace).startsAt tokens then
    within .brace do fieldPatterns rules ((← ahead).length + 1)
    return .other
  else if (Form.group .parenthesis).startsAt tokens then
    let _ ← within .parenthesis (commaSeparated (alternatives rules))
    return .other
  else if (Form.mark "..").startsAt tokens then rangePattern rules
  else return .other

/-- Reads a pattern that binds a name. -/
def namePattern (rules : Rules) : Parser PatternShape := do
  let _ ← optional (.word "ref")
  let _ ← optional (.word "mut")
  if ← sees (.word "self") then
    let _ ← anyWord
  else
    let _ ← name
  if ← optional (.mark "@") then
    let _ ← rules .pattern
  return .other

/-! ## Patterns -/

/-- What may begin a pattern. -/
def patternForms : List Form :=
  [.name, .mark "::", .mark "<", .word "_", .anyLiteral, .word "const", .word "ref", .word "mut",
   .mark "&", .group .parenthesis, .group .bracket, .mark ".."]

/-- Whether a pattern that begins with a path lies ahead. -/
def pathPatternAt (tokens : List Token) : Bool :=
  let second := tokens.drop 1
  Form.name.startsAt tokens &&
      (anyMarkAt ["::", "!", ".."] second || (Form.group .brace).startsAt second ||
        (Form.group .parenthesis).startsAt second) ||
    (Form.word "self").startsAt tokens && (Form.mark "::").startsAt second ||
    anyMarkAt ["::", "<"] tokens ||
    ["Self", "super", "crate"].any fun text => (Form.word text).startsAt tokens

/-- Reads a pattern without alternatives. -/
def patternRule (rules : Rules) : Parser PatternShape := do
  let tokens ← ahead
  if pathPatternAt tokens then pathPattern rules
  else if ← optional (.word "_") then return .other
  else if ← optional (.word "box") then
    let _ ← rules .pattern
    return .other
  else if (Form.mark "-").startsAt tokens || Form.anyLiteral.startsAt tokens ||
      (Form.word "const").startsAt tokens then
    constantPattern rules
  else if Form.name.startsAt tokens ||
      ["ref", "mut", "self"].any fun text => (Form.word text).startsAt tokens then
    namePattern rules
  else if ← optional (.mark "&") then
    let _ ← optional (.word "mut")
    let _ ← rules .pattern
    return .other
  else if (Form.group .parenthesis).startsAt tokens then
    let _ ← within .parenthesis (commaSeparated (alternatives rules))
    return .other
  else if (Form.group .bracket).startsAt tokens then
    let _ ← within .bracket (commaSeparated (listedPattern rules))
    return .other
  else if (Form.mark "..").startsAt tokens && !(Form.mark "...").startsAt tokens then
    upperRangePattern rules
  else wrong patternForms

end EventTracking.Grammar
