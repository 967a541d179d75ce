import EventTracking.Grammar.Path

/-!
# Types and bounds

Types as they are written, the bounds that parameters and opaque types carry, the generic parameters
of items and their `where` clauses.
-/

namespace EventTracking.Grammar

open Code

/-! ## Generic parameters -/

/-- Whether no `+` lies ahead. -/
def noPlusAt (tokens : List Token) : Bool := !(Form.mark "+").startsAt tokens

/-- Whether one of these marks lies ahead. -/
def anyMarkAt (marks : List String) (tokens : List Token) : Bool :=
  marks.any fun text => (Form.mark text).startsAt tokens

/-- Reads a lifetime parameter with its bounds. -/
def lifetimeParameter (rules : Rules) : Parser Unit := do
  let _ ← outerAttributes rules
  expect .lifetime
  if ← optional (.mark ":") then
    let ends (tokens : List Token) : Bool := tokens.isEmpty || anyMarkAt [",", ">"] tokens
    let _ ← items ⟨ends, noPlusAt, .mark "+"⟩ (expect .lifetime)

/-- Reads a type parameter with its bounds and its default. -/
def typeParameter (rules : Rules) : Parser Unit := do
  let _ ← outerAttributes rules
  let _ ← name
  if ← optional (.mark ":") then
    let ends (tokens : List Token) : Bool := tokens.isEmpty || anyMarkAt [",", ">", "="] tokens
    let _ ← items ⟨ends, noPlusAt, .mark "+"⟩ (rules (.bound false true))
  if ← optional (.mark "=") then
    let _ ← rules (.type true)

/-- Reads a constant parameter with its type and its default. -/
def constantParameter (rules : Rules) : Parser Unit := do
  let _ ← outerAttributes rules
  word "const"
  let _ ← name
  mark ":"
  let _ ← rules (.type true)
  if ← optional (.mark "=") then constantArgument rules

/-- Reads a parameter of a binder. -/
def binderParameter (rules : Rules) : Parser Unit := do
  let _ ← outerAttributes rules
  let tokens ← ahead
  if Form.name.startsAt tokens then typeParameter rules
  else if Form.lifetime.startsAt tokens then lifetimeParameter rules
  else if (Form.word "const").startsAt tokens then constantParameter rules
  else wrong [.name, .lifetime, .word "const"]

/-- Reads a binder: `for` and parameters in angle brackets. -/
def binder (rules : Rules) : Parser Unit := do
  word "for"
  mark "<"
  let _ ← items ⟨(Form.mark ">").startsAt, (Form.mark ">").startsAt, .mark ","⟩
    (binderParameter rules)
  mark ">"

/-- Reads a binder if one lies ahead, and answers whether it does. -/
def optionalBinder (rules : Rules) : Parser Bool := do
  if ← sees (.word "for") then
    binder rules
    return true
  else return false

/-- Reads a parameter of an item and answers whether it is a lifetime. -/
def parameter (rules : Rules) : Parser Bool := do
  let _ ← outerAttributes rules
  let tokens ← ahead
  if Form.lifetime.startsAt tokens then
    lifetimeParameter rules
    return true
  else if Form.name.startsAt tokens then
    typeParameter rules
    return false
  else if (Form.word "const").startsAt tokens then
    constantParameter rules
    return false
  else if (Form.word "_").startsAt tokens then
    let _ ← anyWord
    return false
  else wrong [.lifetime, .name, .word "const"]

/-- Reads the generic parameters of an item, if it has any. -/
def generics (rules : Rules) : Parser Generics := do
  if ← optional (.mark "<") then
    let parameters ← items ⟨(Form.mark ">").startsAt, (Form.mark ">").startsAt, .mark ","⟩
      (parameter rules)
    mark ">"
    return ⟨parameters.count true, parameters.count false⟩
  else return ⟨0, 0⟩

/-! ## Bounds -/

/-- Whether another bound may follow a `+`. -/
def boundAt (constant : Bool) (tokens : List Token) : Bool :=
  match tokens with
  | .word _ _ :: _ => true
  | _ =>
    anyMarkAt ["::", "?"] tokens || Form.lifetime.startsAt tokens ||
      (Form.group .parenthesis).startsAt tokens ||
      constant && (Form.group .bracket).startsAt tokens

/-- Reads at most `fuel` bounds joined by `+`; without `plus` there is just one. -/
def boundsFrom (rules : Rules) (plus captures constant : Bool) :
    Nat → Parser (List BoundShape)
  | 0 => return []
  | fuel + 1 => do
    let first ← rules (.bound captures constant)
    if plus && (← sees (.mark "+")) then
      mark "+"
      if boundAt constant (← ahead) then
        return first :: (← boundsFrom rules plus captures constant fuel)
    return [first]

/-- Reads bounds joined by `+`. -/
def bounds (rules : Rules) (plus captures constant : Bool) : Parser (List BoundShape) := do
  boundsFrom rules plus captures constant ((← ahead).length + 1)

/-- Reads bounds without the word `dyn` after a first one that has been read: each `+` is followed
by another bound. Answers whether there was any. -/
def furtherBounds (rules : Rules) : Parser Bool := do
  let more ← repeatWhile (Form.mark "+").startsAt do
    mark "+"
    let _ ← rules (.bound false false)
  return !more.isEmpty

/-- Reads the type after an arrow, if there is one. -/
def returnType (rules : Rules) (plus : Bool) : Parser Unit := do
  if ← optional (.mark "->") then
    let _ ← rules (.type plus)

/-- Reads the trait of a bound. -/
def traitBound (rules : Rules) (constant : Bool) : Parser Unit := do
  let bound ← optionalBinder rules
  let line := (← get).line
  if ← sees (.group .bracket) then
    within .bracket (word "const")
    unless constant do stopAt (.constant true) line
  else if ← optional (.word "const") then
    unless constant do stopAt (.constant false) line
  let maybe ← optional (.mark "?")
  if maybe && !bound then
    let _ ← optionalBinder rules
  let shape ← path rules false
  let tokens ← ahead
  let arguments := (Form.group .parenthesis).startsAt tokens ||
    (Form.mark "::").startsAt tokens && (Form.group .parenthesis).startsAt (tokens.drop 2)
  if !shape.genericLast && arguments then
    let _ ← optional (.mark "::")
    let _ ← within .parenthesis (commaSeparated (rules (.type true)))
    returnType rules false

/-- Reads at most `fuel` captured parameters. -/
def capturedFrom : Nat → Parser Unit
  | 0 => return
  | fuel + 1 => do
    let tokens ← ahead
    if Form.lifetime.startsAt tokens || Form.name.startsAt tokens ||
        (Form.word "Self").startsAt tokens then
      skip 1
      if ← optional (.mark ",") then capturedFrom fuel
      else if ← sees (.mark ">") then return
      else wrong [.mark ",", .mark ">"]
    else if (Form.mark ">").startsAt tokens then return
    else wrong [.lifetime, .name, .mark ">"]

/-- Reads a list of captured parameters. -/
def captured : Parser Unit := do
  word "use"
  mark "<"
  capturedFrom ((← ahead).length + 1)
  mark ">"

/-- Reads a bound. -/
def boundRule (rules : Rules) (captures constant : Bool) : Parser BoundShape := do
  if ← optional .lifetime then return .other
  if ← sees (.word "use") then
    let line := (← get).line
    captured
    if captures then return .other else stopAt .capture line
  if ← sees (.group .parenthesis) then within .parenthesis (traitBound rules constant)
  else traitBound rules constant
  return .trait

/-! ## Types -/

/-- Reads the bounds of an object type whose first token is on `line`; one has to be a trait. -/
def objectBounds (rules : Rules) (plus : Bool) (line : Nat) : Parser Unit := do
  let shapes ← bounds rules plus false false
  unless shapes.contains .trait do stopAt .objectWithoutTrait line

/-- What a type in parentheses turned out to be. -/
inductive Parenthesized where
  /-- A tuple, or anything else that the closing parenthesis ends. -/
  | closed
  /-- An optional trait, after which further bounds may follow. -/
  | optionalTrait
  /-- A single type. -/
  | single (written : WrittenType)

/-- Reads what stands between the parentheses of a type. -/
def parenthesizedContent (rules : Rules) : Parser Parenthesized := do
  let tokens ← ahead
  if tokens.isEmpty then return .closed
  if Form.lifetime.startsAt tokens then
    objectBounds rules true (← get).line
    return .closed
  if (Form.mark "?").startsAt tokens then
    traitBound rules false
    return .optionalTrait
  let first ← rules (.type true)
  if ← optional (.mark ",") then
    let _ ← commaSeparated (rules (.type true))
    return .closed
  return .single first

/-- Reads a type that begins with a parenthesis. -/
def parenthesizedType (rules : Rules) (plus : Bool) : Parser WrittenType :=
  withinThen .parenthesis (parenthesizedContent rules) fun
    | .closed => return .other
    | .optionalTrait => return .bounds (!(← furtherBounds rules))
    | .single first => do
      if plus && (← sees (.mark "+")) then
        match first with
        | .path _ _ _ _ =>
          let _ ← furtherBounds rules
          return .bounds false
        | .bounds true =>
          let _ ← furtherBounds rules
          return .bounds false
        | _ => return .other
      else return .other

/-- Reads the calling convention of a function, if one is given. -/
def optionalConvention : Parser Unit := do
  if ← optional (.word "extern") then
    let _ ← optional .textLiteral

/-- Whether a word that names something, or `_`, lies ahead. -/
def nameOrBlankAt (tokens : List Token) : Bool :=
  Form.name.startsAt tokens || (Form.word "_").startsAt tokens

/-- Reads a parameter of a function type; the first may be a receiver. -/
def functionTypeParameter (rules : Rules) (first : Bool) : Parser Unit := do
  let _ ← outerAttributes rules
  let tokens ← ahead
  let mutSelf := first && (Form.word "mut").startsAt tokens &&
    (Form.word "self").startsAt (tokens.drop 1)
  if mutSelf then word "mut"
  let tokens ← ahead
  let self := !nameOrBlankAt tokens && first && (Form.word "self").startsAt tokens
  let named := (nameOrBlankAt tokens || self) && colonAt (tokens.drop 1)
  if named then
    let _ ← anyWord
    mark ":"
  let tokens ← ahead
  if first && !(named && self) && (Form.word "mut").startsAt tokens &&
      (Form.word "self").startsAt (tokens.drop 1) then
    word "mut"
    word "self"
  else if mutSelf && !named then word "self"
  else
    let _ ← rules (.type true)

/-- Reads at most `fuel` parameters of a function type, up to a variadic one. -/
def functionTypeParameters (rules : Rules) (first : Bool) : Nat → Parser Unit
  | 0 => return
  | fuel + 1 => do
    if ← atEnd then return
    let _ ← outerAttributes rules
    let tokens ← ahead
    let named := nameOrBlankAt tokens && (Form.mark ":").startsAt (tokens.drop 1) &&
      (Form.mark "...").startsAt (tokens.drop 2)
    if (Form.mark "...").startsAt tokens || named then
      if named then
        let _ ← anyWord
        mark ":"
      mark "..."
      let _ ← optional (.mark ",")
    else
      functionTypeParameter rules first
      if ← atEnd then return
      mark ","
      functionTypeParameters rules false fuel

/-- Reads the type of a function. -/
def functionType (rules : Rules) : Parser Unit := do
  let _ ← optionalBinder rules
  let _ ← optional (.word "unsafe")
  optionalConvention
  word "fn"
  withinThen .parenthesis
    (do functionTypeParameters rules true ((← ahead).length + 1))
    (fun _ => returnType rules false)

/-- Reads a type that begins with a path. -/
def pathType (rules : Rules) (bound plus : Bool) : Parser WrittenType := do
  let (qualified, shape) ← qualifiedPath rules false
  if qualified then return .other
  let tokens ← ahead
  if callAt shape tokens then
    mark "!"
    let _ ← anyGroup
    return .other
  let joined := plus && (Form.mark "+").startsAt tokens
  if bound || joined then
    if joined then
      mark "+"
      if boundAt false (← ahead) then
        let _ ← bounds rules true false false
    return .bounds (!joined)
  return .path shape.rooted shape.segments shape.generic shape.argument

/-- What may begin a type. -/
def typeForms : List Form :=
  [.word "for", .group .parenthesis, .word "fn", .word "unsafe", .word "extern", .name, .mark "::",
   .mark "<", .word "dyn", .group .bracket, .mark "*", .mark "&", .mark "!", .word "impl",
   .word "_", .lifetime]

/-- What may follow a binder in a type. -/
def boundTypeForms : List Form :=
  [.name, .word "fn", .word "unsafe", .word "extern", .word "super", .word "self", .word "Self",
   .word "crate"]

/-- Reads a type; several bounds may be joined only with `plus`. -/
def typeRule (rules : Rules) (plus : Bool) : Parser WrittenType := do
  let bound ← optionalBinder rules
  let tokens ← ahead
  if bound && !boundTypeForms.any (·.startsAt tokens) then wrong boundTypeForms
  let line := (← get).line
  if (Form.group .parenthesis).startsAt tokens then parenthesizedType rules plus
  else if ["fn", "unsafe", "extern"].any fun text => (Form.word text).startsAt tokens then
    functionType rules
    return .other
  else if pathWordAt tokens || anyMarkAt ["::", "<"] tokens then pathType rules bound plus
  else if ← optional (.word "dyn") then
    let _ ← optional (.mark "*")
    objectBounds rules plus line
    return .other
  else if (Form.group .bracket).startsAt tokens then
    within .bracket do
      let _ ← rules (.type true)
      if ← optional (.mark ";") then
        let _ ← rules (.expression true)
    return .other
  else if ← optional (.mark "*") then
    unless (← optional (.word "const")) || (← optional (.word "mut")) do
      wrong [.word "const", .word "mut"]
    let _ ← rules (.type false)
    return .other
  else if ← optional (.mark "&") then
    let _ ← optional .lifetime
    let _ ← optional (.word "mut")
    let _ ← rules (.type false)
    return .other
  else if ← optional (.mark "!") then return .other
  else if ← optional (.word "impl") then
    let shapes ← bounds rules plus true true
    unless shapes.contains .trait do stopAt .opaqueWithoutTrait line
    return .other
  else if ← optional (.word "_") then return .other
  else if Form.lifetime.startsAt tokens then
    objectBounds rules true line
    return .bounds false
  else wrong typeForms

/-! ## Conditions -/

/-- Whether generic parameters lie ahead rather than a qualified path. -/
def genericsAt (tokens : List Token) : Bool :=
  let second := tokens.drop 1
  let third := tokens.drop 2
  (Form.mark "<").startsAt tokens &&
    (anyMarkAt [">", "#"] second ||
      (Form.lifetime.startsAt second || Form.name.startsAt second) &&
        (anyMarkAt [">", ",", "="] third || colonAt third) ||
      (Form.word "const").startsAt second)

/-- Reads a condition on a lifetime or a type. -/
def condition (rules : Rules) : Parser Unit := do
  let tokens ← ahead
  let ended (colon : List Token → Bool) (tokens : List Token) : Bool :=
    tokens.isEmpty || (Form.group .brace).startsAt tokens || anyMarkAt [",", ";", "="] tokens ||
      colon tokens
  if Form.lifetime.startsAt tokens && (Form.mark ":").startsAt (tokens.drop 1) then
    expect .lifetime
    mark ":"
    let _ ← items ⟨ended (Form.mark ":").startsAt, noPlusAt, .mark "+"⟩ (expect .lifetime)
  else
    let _ ← optionalBinder rules
    let _ ← rules (.type true)
    mark ":"
    let _ ← items ⟨ended colonAt, noPlusAt, .mark "+"⟩ (rules (.bound false true))

/-- Reads a `where` clause if there is one, and answers whether there is. -/
def optionalConditions (rules : Rules) : Parser Bool := do
  if ← optional (.word "where") then
    if genericsAt (← ahead) then stop .whereGenerics
    let ends (tokens : List Token) : Bool :=
      tokens.isEmpty || (Form.group .brace).startsAt tokens || anyMarkAt [",", ";", "="] tokens ||
        colonAt tokens
    let _ ← items ⟨ends, fun tokens => !(Form.mark ",").startsAt tokens, .mark ","⟩
      (condition rules)
    return true
  else return false

end EventTracking.Grammar
