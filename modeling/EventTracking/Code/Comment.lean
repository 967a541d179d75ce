import EventTracking.Text.Blank

/-!
# Blanks and comments

What may stand between two tokens: blanks and ordinary comments. A block comment may hold further
ones and ends where the outermost is closed. A comment that begins with one more `/`, `*` or `!`
documents what follows or encloses it and is a token of its own.

Main statements: a line comment never reaches past its line (`lineComment_no_newline`).
-/

namespace EventTracking.Code

open Text

/-- Whether a text begins with another. -/
def begins (start : String) (text : List Char) : Bool := start.toList.isPrefixOf text

/-! ## Comments -/

/-- The length of a text up to the end of its first line. -/
def lineLength (text : List Char) : Nat := (text.takeWhile (· != '\n')).length

/-- The length of the rest of a block comment that is `depth` levels deep, added to `length`. -/
def blockLength? : Nat → Nat → List Char → Option Nat
  | depth, length, '/' :: '*' :: rest => blockLength? (depth + 1) (length + 2) rest
  | depth, length, '*' :: '/' :: rest =>
    if depth ≤ 1 then some (length + 2) else blockLength? (depth - 1) (length + 2) rest
  | depth, length, _ :: rest => blockLength? depth (length + 1) rest
  | _, _, [] => none

/-- The length of the ordinary comment at the head of a text. -/
def commentLength? (text : List Char) : Option Nat :=
  if begins "//" text && (!begins "///" text || begins "////" text) && !begins "//!" text then
    some (lineLength text)
  else if begins "/**/" text then some 4
  else if begins "/*" text && (!begins "/**" text || begins "/***" text) && !begins "/*!" text then
    blockLength? 0 0 text
  else none

/-- The length of what stands before the first token, added to `length`. -/
def gapLengthFrom : Nat → Nat → List Char → Nat
  | 0, length, _ => length
  | _, length, [] => length
  | fuel + 1, length, c :: rest =>
    if isGap c then gapLengthFrom fuel (length + 1) rest
    else
      match commentLength? (c :: rest) with
      | some n => gapLengthFrom fuel (length + n) ((c :: rest).drop n)
      | none => length

/-- The length of the blanks and ordinary comments at the head of a text. -/
def gapLength (text : List Char) : Nat := gapLengthFrom text.length 0 text

/-- A line comment ends before the line does. -/
theorem lineComment_no_newline (text : List Char) : '\n' ∉ text.take (lineLength text) := by
  induction text with
  | nil => simp [lineLength]
  | cons c rest ih =>
    by_cases h : c = '\n'
    · simp [lineLength, h]
    · simp only [lineLength] at ih
      simp [lineLength, h, ih, Ne.symm h]

/-! ## Documentation -/

/-- A comment that documents something: its length, and whether it documents what encloses it. -/
structure Documentation where
  /-- The length of the whole comment. -/
  length : Nat
  /-- Whether the comment belongs to what encloses it. -/
  inner : Bool

/-- A carriage return that no line feed follows. -/
def hasBareReturn : List Char → Bool
  | '\r' :: '\n' :: rest => hasBareReturn rest
  | '\r' :: _ => true
  | _ :: rest => hasBareReturn rest
  | [] => false

/-- The end of a line that a documentation comment leaves out. -/
def withoutLineEnd (line : List Char) (rest : List Char) : List Char :=
  if line.getLast? = some '\r' && rest.head? = some '\n' then line.dropLast else line

/-- The documentation comment at the head of a text; a bare carriage return spoils it. -/
def documentation? (text : List Char) : Option Documentation :=
  if begins "//!" text || begins "///" text && !begins "////" text then
    let length := lineLength text
    let line := withoutLineEnd (text.take length) (text.drop length)
    if hasBareReturn line then none else some ⟨length, begins "//!" text⟩
  else if begins "/*!" text || begins "/**" text && !begins "/***" text then
    match blockLength? 0 0 text with
    | none => none
    | some length =>
      if hasBareReturn ((text.take (length - 2)).drop 3) then none
      else some ⟨length, begins "/*!" text⟩
  else none

end EventTracking.Code
