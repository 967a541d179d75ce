import EventTracking.Grammar.Attribute

/-!
# Paths with generic arguments

A path names something by words separated by `::`; each word may have generic arguments in angle
brackets. Within expressions the brackets need a separator before them. A qualified path begins
with a type in angle brackets.
-/

namespace EventTracking.Grammar

open Code

/-- A path that has been read. -/
structure PathShape where
  /-- Whether it begins with `::`. -/
  rooted : Bool
  /-- Its words. -/
  segments : List Identifier
  /-- Whether some word has generic arguments. -/
  generic : Bool
  /-- Whether the last word has generic arguments. -/
  genericLast : Bool
  /-- The first argument of the last word if it is a type. -/
  argument : Option WrittenType

/-- A word of a path with its generic arguments, `none` standing for those that are no types. -/
abbrev Segment := Identifier × Option (List (Option WrittenType))

/-- The path made of these words. -/
def PathShape.ofSegments (rooted : Bool) (segments : List Segment) : PathShape where
  rooted := rooted
  segments := segments.map Prod.fst
  generic := segments.any fun segment => segment.2.isSome
  genericLast := (segments.getLast?.bind Prod.snd).isSome
  argument := ((segments.getLast?.bind Prod.snd).bind List.head?).join

/-! ## Generic arguments -/

/-- Whether `=`, but neither `==` nor `=>`, lies ahead. -/
def assignAt (tokens : List Token) : Bool :=
  (Form.mark "=").startsAt tokens && !(Form.mark "=>").startsAt tokens

/-- Whether a constant argument lies ahead: a literal or a block. -/
def constantAt (tokens : List Token) : Bool :=
  Form.anyLiteral.startsAt tokens || (Form.group .brace).startsAt tokens

/-- Whether a single colon, and not `::`, lies ahead. -/
def colonAt (tokens : List Token) : Bool :=
  (Form.mark ":").startsAt tokens && !(Form.mark "::").startsAt tokens

/-- Reads a constant argument: a literal, a name or a block. -/
def constantArgument (rules : Rules) : Parser Unit := do
  let tokens ← ahead
  if Form.anyLiteral.startsAt tokens then
    let _ ← literal
  else if Form.name.startsAt tokens then
    let _ ← name
  else if (Form.group .brace).startsAt tokens then
    let _ ← body rules
  else stop .unexpected

/-- Reads a generic argument and answers it if it is a type. -/
def genericArgument (rules : Rules) : Parser (Option WrittenType) := do
  let tokens ← ahead
  if Form.lifetime.startsAt tokens && !(Form.mark "+").startsAt (tokens.drop 1) then
    skip 1
    return none
  if constantAt tokens then
    constantArgument rules
    return none
  let argument ← rules (.type true)
  match argument with
  | .path false [_] _ _ =>
    if ← optional (.mark "=") then
      if constantAt (← ahead) then constantArgument rules
      else
        let _ ← rules (.type true)
      return none
    if ← optional (.mark ":") then
      let ends (tokens : List Token) : Bool :=
        (Form.mark ",").startsAt tokens || (Form.mark ">").startsAt tokens
      let _ ← items ⟨ends, fun tokens => !(Form.mark "+").startsAt tokens, .mark "+"⟩
        (rules (.bound false true))
      return none
    return some argument
  | _ => return some argument

/-- Reads generic arguments in angle brackets. -/
def angleArguments (rules : Rules) : Parser (List (Option WrittenType)) := do
  mark "<"
  let arguments ← items ⟨(Form.mark ">").startsAt, (Form.mark ">").startsAt, .mark ","⟩
    (genericArgument rules)
  mark ">"
  return arguments

/-! ## Paths -/

/-- Whether generic arguments lie ahead, as they are written outside expressions. -/
def bareArgumentsAt (tokens : List Token) : Bool :=
  (Form.mark "<").startsAt tokens && !(Form.mark "<=").startsAt tokens &&
    !(Form.mark "<<=").startsAt tokens

/-- Whether generic arguments after a separator lie ahead. -/
def separatedArgumentsAt (tokens : List Token) : Bool :=
  (Form.mark "::").startsAt tokens && (Form.mark "<").startsAt (tokens.drop 2)

/-- Reads a word of a path with its generic arguments. -/
def segment (rules : Rules) (inExpression : Bool) : Parser Segment := do
  let tokens ← ahead
  if ["super", "self", "crate", "try"].any fun text => (Form.word text).startsAt tokens then
    return (← anyWord, none)
  let identifier ← if ← sees (.word "Self") then anyWord else name
  let tokens ← ahead
  if !inExpression && bareArgumentsAt tokens || separatedArgumentsAt tokens then
    let _ ← optional (.mark "::")
    return (identifier, some (← angleArguments rules))
  else return (identifier, none)

/-- Reads further words of a path while `more` holds. -/
def segmentsWhile (rules : Rules) (inExpression : Bool) (more : List Token → Bool) :
    Parser (List Segment) :=
  repeatWhile more do
    mark "::"
    segment rules inExpression

/-- Whether a further word of a path lies ahead; arguments in parentheses do not belong to it. -/
def segmentAt (tokens : List Token) : Bool :=
  (Form.mark "::").startsAt tokens && !(Form.group .parenthesis).startsAt (tokens.drop 2)

/-- Reads a path. -/
def path (rules : Rules) (inExpression : Bool) : Parser PathShape := do
  let rooted ← optional (.mark "::")
  let first ← segment rules inExpression
  let others ← segmentsWhile rules inExpression segmentAt
  return .ofSegments rooted (first :: others)

/-- Reads a path that may be qualified by a type, and answers whether it is. -/
def qualifiedPath (rules : Rules) (inExpression : Bool) : Parser (Bool × PathShape) := do
  if ← optional (.mark "<") then
    let _ ← rules (.type true)
    if ← optional (.word "as") then
      let _ ← path rules false
    mark ">"
    mark "::"
    let first ← segment rules inExpression
    let others ← segmentsWhile rules inExpression (Form.mark "::").startsAt
    return (true, .ofSegments false (first :: others))
  else return (false, ← path rules inExpression)

/-- Whether the arguments of a macro call follow a path. -/
def callAt (shape : PathShape) (tokens : List Token) : Bool :=
  (Form.mark "!").startsAt tokens && !(Form.mark "!=").startsAt tokens && !shape.generic

end EventTracking.Grammar
