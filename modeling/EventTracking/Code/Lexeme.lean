import EventTracking.Code.Comment
import EventTracking.Code.Identifier
import EventTracking.Code.Literal

/-!
# Lexemes

A source text is cut into lexemes from left to right: delimiters, words, literals, single
punctuation characters and documentation comments, each with the line it begins on. Where nothing
can be read the cutting ends with the lexeme `unreadable`.

Main statements: nothing but a byte order mark is dropped from the head of a text
(`withoutByteOrderMark_cons`).
-/

namespace EventTracking.Code

open Text

/-- The three kinds of brackets. -/
inductive Delimiter where
  /-- Parentheses. -/
  | parenthesis
  /-- Curly braces. -/
  | brace
  /-- Square brackets. -/
  | bracket
deriving DecidableEq, Repr

/-- A piece of a source text, with the line it begins on. -/
inductive Lexeme where
  /-- An opening delimiter. -/
  | opening (delimiter : Delimiter) (line : Nat)
  /-- A closing delimiter. -/
  | closing (delimiter : Delimiter) (line : Nat)
  /-- A word. -/
  | word (identifier : Identifier) (line : Nat)
  /-- A punctuation character, and whether another one directly follows it. -/
  | mark (character : Char) (joint : Bool) (line : Nat)
  /-- A literal. -/
  | literal (value : Literal) (line : Nat)
  /-- A documentation comment, with the line it ends on. -/
  | documentation (inner : Bool) (line last : Nat)
  /-- A place where nothing can be read. -/
  | unreadable (line : Nat)

/-- The delimiter that a character opens. -/
def openingDelimiter? : Char → Option Delimiter
  | '(' => some .parenthesis
  | '[' => some .bracket
  | '\x7b' => some .brace
  | _ => none

/-- The delimiter that a character closes. -/
def closingDelimiter? : Char → Option Delimiter
  | ')' => some .parenthesis
  | ']' => some .bracket
  | '\x7d' => some .brace
  | _ => none

/-! ## Words and marks -/

/-- The beginnings at which a word is not read, because they announce a literal. -/
def literalMarkers : List String :=
  ["r\"", "r#\"", "r##", "b\"", "b'", "br\"", "br#", "c\"", "cr\"", "cr#"]

/-- The word at the head of a text, raw or plain, and its length. -/
def anyWord? (text : List Char) : Option (Identifier × Nat) :=
  let raw := begins "r#" text
  let body := if raw then text.drop 2 else text
  let length := wordLength body
  (Identifier.ofChars? raw (body.take length)).map (·, if raw then length + 2 else length)

/-- The word at the head of a text, unless it announces a literal. -/
def word? (text : List Char) : Option (Identifier × Nat) :=
  if literalMarkers.any (begins · text) then none else anyWord? text

/-- The punctuation characters. -/
def punctuation : List Char := "~!@#$%^&*-=+|;:,<.>/?'".toList

/-- Whether a punctuation character begins a text. The slash of a comment is none. -/
def beginsMark (text : List Char) : Bool :=
  !begins "//" text && !begins "/*" text && text.head?.any punctuation.contains

/-- Whether the word of a lifetime follows its quote: no second quote may end that word, nor a hash
unless the word is raw. -/
def beginsLifetime (text : List Char) : Bool :=
  match anyWord? text with
  | none => false
  | some (_, length) =>
    let after := (text.drop length).head?
    !(after = some '\'' || after = some '#' && !begins "r#" text)

/-- The mark at the head of a text and whether the next character is one too. The quote of a
lifetime always belongs to the word after it. -/
def mark? (text : List Char) : Option (Char × Bool) :=
  if beginsMark text then
    match text with
    | [] => none
    | c :: rest =>
      if c = '\'' then if beginsLifetime rest then some (c, true) else none
      else some (c, beginsMark rest)
  else none

/-! ## Cutting a text -/

/-- The lexeme at the head of a text that begins on `line`, and its length. -/
def lexeme? (line : Nat) (text : List Char) : Option (Lexeme × Nat) :=
  match documentation? text with
  | some doc =>
    let breaks := (text.take (doc.length - 1)).count '\n'
    some (.documentation doc.inner line (line + breaks), doc.length)
  | none =>
  if unknownMark.isPrefixOf text then some (.literal .unknown line, unknownMark.length)
  else
  match text.head?.bind openingDelimiter?, text.head?.bind closingDelimiter? with
  | some delimiter, _ => some (.opening delimiter line, 1)
  | none, some delimiter => some (.closing delimiter line, 1)
  | none, none =>
  match literal? text with
  | some (value, length) => some (.literal value line, length)
  | none =>
  match mark? text with
  | some (c, joint) => some (.mark c joint line, 1)
  | none =>
  match word? text with
  | some (identifier, length) => some (.word identifier line, length)
  | none => none

/-- The lexemes of a text that begins on `line`. -/
def lexemesFrom : Nat → Nat → List Char → List Lexeme
  | 0, _, _ => []
  | fuel + 1, line, text =>
    let gap := gapLength text
    let line := line + (text.take gap).count '\n'
    match text.drop gap with
    | [] => []
    | c :: rest =>
      match lexeme? line (c :: rest) with
      | none => [.unreadable line]
      | some (lexeme, length) =>
        lexeme :: lexemesFrom fuel (line + ((c :: rest).take length).count '\n')
          ((c :: rest).drop length)

/-- The byte order mark. -/
def byteOrderMark : Char := '\uFEFF'

/-- A text without the byte order mark at its head. -/
def withoutByteOrderMark : List Char → List Char
  | [] => []
  | c :: rest => if c = byteOrderMark then rest else c :: rest

/-- The lexemes of a text; a byte order mark at its head does not count. -/
def lexemes (text : List Char) : List Lexeme :=
  lexemesFrom (text.length + 1) 1 (withoutByteOrderMark text)

/-- Nothing that is not a byte order mark is dropped from the head of a text. -/
theorem withoutByteOrderMark_cons {c : Char} (h : c ≠ byteOrderMark) (rest : List Char) :
    withoutByteOrderMark (c :: rest) = c :: rest := by
  simp [withoutByteOrderMark, h]

end EventTracking.Code
