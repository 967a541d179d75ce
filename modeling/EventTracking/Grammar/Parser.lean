import EventTracking.Code.Fault

/-!
# Parsers

A parser reads tokens from left to right and stops at the first fault. It always reads within one
group, whose end it knows by line. Tokens that are left over at the end of a group are a fault too,
but one that counts only if the rest of the text can be read: the first of them is remembered.

Main statements: a parser sees what lies ahead without reading it (`sees_eq`), and after an
expected form has been read as many tokens are gone as it takes up (`expect_eq`).
-/

namespace EventTracking.Grammar

open Code

/-- Where a parser stands. -/
structure Position where
  /-- The tokens that lie ahead in the group. -/
  tokens : List Token
  /-- The line on which the group ends. -/
  closing : Nat
  /-- The first tokens left over in a group that has been read, as a fault. -/
  leftover : Option Fault

/-- A parser moves on from a position or stops at a fault. -/
abbrev Parser := StateT Position (Except Fault)

/-! ## Looking ahead -/

/-- The tokens that lie ahead. -/
def ahead : Parser (List Token) := do return (← get).tokens

/-- Whether a form lies ahead. -/
def sees (form : Form) : Parser Bool := do return form.startsAt (← get).tokens

/-- Whether the group ends here. -/
def atEnd : Parser Bool := do return (← get).tokens.isEmpty

/-- The line of the next token, or of the end of the group. -/
def Position.line (position : Position) : Nat :=
  match position.tokens with
  | [] => position.closing
  | token :: _ => token.line

/-- Looking ahead reads nothing. -/
theorem sees_eq (form : Form) (position : Position) :
    sees form position = .ok (form.startsAt position.tokens, position) := rfl

/-! ## Faults -/

/-- Stops here; the fault says whether the group ends here. -/
def stop {α : Type} (cause : Cause) : Parser α := do
  let position ← get
  throw ⟨cause, position.tokens.isEmpty, position.line⟩

/-- Stops here without saying whether the group ends here. -/
def stopAt {α : Type} (cause : Cause) (line : Nat) : Parser α := throw ⟨cause, false, line⟩

/-- Stops here because none of these forms lies ahead. -/
def wrong {α : Type} (forms : List Form) : Parser α := stop (.expected forms)

/-! ## Reading forms -/

/-- Moves on by a number of tokens. -/
def skip (count : Nat) : Parser Unit :=
  modify fun position => { position with tokens := position.tokens.drop count }

/-- Reads a form that has to lie ahead. A missing punctuation character is reported at the end of a
group like anywhere else. -/
def expect (form : Form) : Parser Unit := do
  if ← sees form then skip form.width
  else
    match form with
    | .mark _ => stopAt (.expected [form]) (← get).line
    | _ => wrong [form]

/-- Reads a form if it lies ahead. -/
def optional (form : Form) : Parser Bool := do
  if ← sees form then
    skip form.width
    return true
  else return false

/-- Reads a plain word of that text. -/
def word (text : String) : Parser Unit := expect (.word text)

/-- Reads punctuation characters. -/
def mark (text : String) : Parser Unit := expect (.mark text)

/-- After an expected form has been read, as many tokens are gone as it takes up. -/
theorem expect_eq {form : Form} {position : Position} (h : form.startsAt position.tokens = true) :
    expect form position =
      .ok ((), { position with tokens := position.tokens.drop form.width }) := by
  have hs : sees form position = .ok (true, position) := by rw [sees_eq, h]
  change (sees form position >>= fun result => _) = _
  rw [hs]
  rfl

/-- Reads a word, keyword or not. -/
def anyWord : Parser Identifier := do
  match ← ahead with
  | .word identifier _ :: _ =>
    skip 1
    return identifier
  | _ => stop (.missing "ident")

/-- Reads a word that names something. -/
def name : Parser Identifier := do
  match ← ahead with
  | .word identifier _ :: _ =>
    if identifier.isName then
      skip 1
      return identifier
    else stop (.keyword identifier.text)
  | _ => stop (.missing "identifier")

/-- Reads a literal and answers it. A minus before a number is left out. -/
def literal : Parser Literal := do
  let tokens ← ahead
  if Form.anyLiteral.startsAt tokens then
    match tokens with
    | .literal value _ :: _ =>
      skip 1
      return value
    | .mark _ _ _ :: .literal value _ :: _ =>
      skip 2
      return value
    | _ =>
      skip 1
      return .unknown
  else wrong [.anyLiteral]

/-! ## Groups -/

/-- Notes the fault of tokens that are left over, unless one has been noted before. -/
def noteLeftover (delimiter : Delimiter) : List Token → Parser Unit
  | [] => pure ()
  | token :: _ =>
    modify fun position =>
      { position with
        leftover := position.leftover.or (some ⟨.leftover delimiter, false, token.line⟩) }

/-- Reads a group by `inner`, then what follows the group by `outer`, and only then notes what was
left over in the group. -/
def withinThen {α β : Type} (delimiter : Delimiter) (inner : Parser α) (outer : α → Parser β) :
    Parser β := do
  let position ← get
  match position.tokens with
  | .group found tokens _ closing :: rest =>
    if found = delimiter then
      set { position with tokens := tokens, closing := closing }
      let value ← inner
      let left := (← get).tokens
      modify fun after => { after with tokens := rest, closing := position.closing }
      let result ← outer value
      noteLeftover delimiter left
      return result
    else wrong [.group delimiter]
  | _ => wrong [.group delimiter]

/-- Reads a group by `inner` and notes what is left over in it. -/
def within {α : Type} (delimiter : Delimiter) (inner : Parser α) : Parser α :=
  withinThen delimiter inner pure

/-- Reads a group of any delimiter without looking into it, and answers the delimiter. -/
def anyGroup : Parser Delimiter := do
  match ← ahead with
  | .group delimiter _ _ _ :: _ =>
    skip 1
    return delimiter
  | _ => stop (.missing "delimiter")

/-! ## Trying -/

/-- Reads by a parser if it comes through, and reads nothing otherwise. -/
def attempt {α : Type} (parser : Parser α) : Parser (Option α) := fun position =>
  match parser position with
  | .ok (value, after) => .ok (some value, after)
  | .error _ => .ok (none, position)

/-- What a parser answers here, read ahead and not moved on from. -/
def peek {α : Type} (parser : Parser α) : Parser α := fun position =>
  match parser position with
  | .ok (value, _) => .ok (value, position)
  | .error fault => .error fault

/-! ## Lists -/

/-- A rule for lists: where an item may not begin, what ends the list after an item, and what else
separates items. -/
structure Listing where
  /-- Whether the list ends where an item could begin. -/
  ends : List Token → Bool
  /-- Whether the list ends right after an item. -/
  endsAfter : List Token → Bool
  /-- What stands between two items. -/
  separator : Form

/-- Reads at most `fuel` items of a list. -/
def itemsFrom {α : Type} (listing : Listing) (item : Parser α) : Nat → Parser (List α)
  | 0 => return []
  | fuel + 1 => do
    if listing.ends (← ahead) then return []
    let first ← item
    if listing.endsAfter (← ahead) then return [first]
    expect listing.separator
    let others ← itemsFrom listing item fuel
    return first :: others

/-- Reads the items of a list. -/
def items {α : Type} (listing : Listing) (item : Parser α) : Parser (List α) := do
  itemsFrom listing item ((← ahead).length + 1)

/-- Reads items separated by commas up to the end of the group. -/
def commaSeparated {α : Type} (item : Parser α) : Parser (List α) :=
  items ⟨List.isEmpty, List.isEmpty, .mark ","⟩ item

/-- Reads at most `fuel` items while `more` holds. -/
def repeatFrom {α : Type} (more : List Token → Bool) (item : Parser α) : Nat → Parser (List α)
  | 0 => return []
  | fuel + 1 => do
    if more (← ahead) then
      let first ← item
      let others ← repeatFrom more item fuel
      return first :: others
    else return []

/-- Reads items while `more` holds of what lies ahead. -/
def repeatWhile {α : Type} (more : List Token → Bool) (item : Parser α) : Parser (List α) := do
  repeatFrom more item ((← ahead).length + 1)

/-- Reads items up to the end of the group. -/
def toEnd {α : Type} (item : Parser α) : Parser (List α) :=
  repeatWhile (fun tokens => !tokens.isEmpty) item

end EventTracking.Grammar
