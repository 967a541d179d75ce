import EventTracking.Grammar.Rule

/-!
# Attributes

An attribute is a path of words in square brackets after a hash, perhaps followed by arguments in a
group or by a value. The attributes of what follows stand before it; those of what encloses them
carry an exclamation mark and stand at the beginning of its body.
-/

namespace EventTracking.Grammar

open Code Form

/-! ## Paths of words -/

/-- The words that stand in a path although they are keywords. -/
def pathKeywords : List String := ["super", "self", "Self", "crate"]

/-- Whether a word that may stand in a path lies ahead. -/
def pathWordAt (tokens : List Token) : Bool :=
  Form.name.startsAt tokens || pathKeywords.any (fun text => (Form.word text).startsAt tokens)

/-- Reads the words of a path, each with its line; none may be missing after a separator. -/
def pathWordsFrom : Nat → Parser (List (Identifier × Nat))
  | 0 => return []
  | fuel + 1 => do
    if pathWordAt (← ahead) then
      let line := (← get).line
      let first ← anyWord
      if ← optional (.mark "::") then
        match ← pathWordsFrom fuel with
        | [] => stop (.missing "path segment after `::`")
        | others => return (first, line) :: others
      else return [(first, line)]
    else return []

/-- Reads a path without generic arguments. -/
def wordPath : Parser (List (Identifier × Nat)) := do
  let _ ← optional (.mark "::")
  match ← pathWordsFrom ((← ahead).length + 1) with
  | [] =>
    let missing ← name
    return [(missing, 0)]
  | words => return words

/-! ## Attributes -/

/-- Whether a literal lies ahead and nothing after it. -/
def literalAlone (tokens : List Token) : Bool :=
  Form.anyLiteral.startsAt tokens &&
    match tokens with
    | [_] => true
    | [.mark _ _ _, .literal _ _] => true
    | _ => false

/-- Whether a group of any delimiter lies ahead. -/
def groupAt : List Token → Bool
  | .group _ _ _ _ :: _ => true
  | _ => false

/-- Reads what stands between the brackets of an attribute. -/
def attributeContent (rules : Rules) : Parser Attribute := do
  let words ←
    if ← sees (.word "unsafe") then
      let line := (← get).line
      let identifier ← anyWord
      pure [(identifier, line)]
    else wordPath
  let tokens ← ahead
  if groupAt tokens then
    let _ ← anyGroup
  else if (Form.mark "=").startsAt tokens && !(Form.mark "==").startsAt tokens &&
      !(Form.mark "=>").startsAt tokens then
    mark "="
    let value ← ahead
    if literalAlone value then
      let _ ← literal
    else if (Form.mark "#").startsAt value && (Form.group .bracket).startsAt (value.drop 1) then
      stop .attributeInAttribute
    else
      let _ ← rules (.expression true)
  return ⟨words.map Prod.fst, (words.getLast?.map Prod.snd).getD 0⟩

/-- Reads an attribute of what follows it. -/
def outerAttribute (rules : Rules) : Parser Attribute := do
  mark "#"
  within .bracket (attributeContent rules)

/-- Reads an attribute of what encloses it. -/
def innerAttribute (rules : Rules) : Parser Attribute := do
  mark "#"
  mark "!"
  within .bracket (attributeContent rules)

/-- Reads the attributes of what follows. -/
def outerAttributes (rules : Rules) : Parser (List Attribute) :=
  repeatWhile (Form.mark "#").startsAt (outerAttribute rules)

/-- Reads the attributes of what encloses them. -/
def innerAttributes (rules : Rules) : Parser (List Attribute) :=
  repeatWhile
    (fun tokens => (Form.mark "#").startsAt tokens && (Form.mark "!").startsAt (tokens.drop 1))
    (innerAttribute rules)

/-! ## Bodies -/

/-- Reads a block: statements in braces. -/
def block (rules : Rules) : Parser Unit := within .brace (rules .statements)

/-- Reads a body: the attributes of what encloses it, then statements, in braces. -/
def body (rules : Rules) : Parser (List Attribute) :=
  within .brace do
    let attributes ← innerAttributes rules
    rules .statements
    return attributes

end EventTracking.Grammar
