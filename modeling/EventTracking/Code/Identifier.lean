import EventTracking.Text.Word

/-!
# Identifiers

An identifier token is a word, plain or raw. A raw identifier is written with the marker `r#` and
is never a keyword; five words have no raw form. A plain identifier that is a keyword may not stand
where a name is expected.

Main statements: what is read as an identifier keeps its characters and its marker
(`ofChars?_eq_some`), and an identifier is never empty (`text_ne_empty`).
-/

namespace EventTracking.Code

open Text

/-- The words that have no raw form. -/
def withoutRawForm : List String := ["_", "super", "self", "Self", "crate"]

/-- The words that may not stand, unless raw, where a name is expected. -/
def keywords : List String :=
  ["_", "abstract", "as", "async", "await", "become", "box", "break", "const", "continue", "crate",
   "do", "dyn", "else", "enum", "extern", "false", "final", "fn", "for", "if", "impl", "in", "let",
   "loop", "macro", "match", "mod", "move", "mut", "override", "priv", "pub", "ref", "return",
   "Self", "self", "static", "struct", "super", "trait", "true", "try", "type", "typeof", "unsafe",
   "unsized", "use", "virtual", "where", "while", "yield"]

/-- A word of a source file, with or without the raw marker. -/
structure Identifier where
  /-- Whether the word carries the raw marker. -/
  raw : Bool
  /-- The word without the marker. -/
  text : String
  /-- The text is a word. -/
  isWord_text : isWord text.toList = true
  /-- Five words have no raw form. -/
  hasRawForm : raw = true → text ∉ withoutRawForm
deriving DecidableEq

namespace Identifier

/-- Reads the characters of a word; `none` if they are no word or have no raw form. -/
def ofChars? (raw : Bool) (text : List Char) : Option Identifier :=
  if h : isWord text = true ∧ (raw = true → String.ofList text ∉ withoutRawForm) then
    some ⟨raw, String.ofList text, by simpa using h.1, h.2⟩
  else none

/-- An identifier names something unless it is a plain keyword. -/
def isName (identifier : Identifier) : Bool :=
  identifier.raw || !keywords.contains identifier.text

/-- The identifier as it is written. -/
def written (identifier : Identifier) : String :=
  if identifier.raw then "r#" ++ identifier.text else identifier.text

/-- Whether the identifier is that plain word. -/
def isPlain (identifier : Identifier) (word : String) : Bool :=
  !identifier.raw && identifier.text == word

/-- What is read keeps the characters and the marker. -/
theorem ofChars?_eq_some {raw : Bool} {text : List Char} {identifier : Identifier}
    (h : ofChars? raw text = some identifier) :
    identifier.raw = raw ∧ identifier.text = String.ofList text := by
  unfold ofChars? at h
  split at h
  · cases h
    exact ⟨rfl, rfl⟩
  · cases h

/-- A plain identifier is written as its text. -/
theorem written_of_not_raw {identifier : Identifier} (h : identifier.raw = false) :
    identifier.written = identifier.text := by
  simp [written, h]

/-- An identifier is never empty. -/
theorem text_ne_empty (identifier : Identifier) : identifier.text ≠ "" := by
  intro h
  have := identifier.isWord_text
  simp [h, isWord_nil] at this

end Identifier

end EventTracking.Code
