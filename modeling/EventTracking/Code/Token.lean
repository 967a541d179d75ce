import EventTracking.Code.Lexeme

/-!
# Tokens

The lexemes of a source text nest by their delimiters into token trees. A lifetime is a quote and a
word read together; a documentation comment stands for the attribute that it abbreviates.
-/

namespace EventTracking.Code

/-- A token, with the line it begins on. -/
inductive Token where
  /-- A word. -/
  | word (identifier : Identifier) (line : Nat)
  /-- A punctuation character, and whether another one directly follows it. -/
  | mark (character : Char) (joint : Bool) (line : Nat)
  /-- A literal. -/
  | literal (value : Literal) (line : Nat)
  /-- A lifetime. -/
  | lifetime (identifier : Identifier) (line : Nat)
  /-- What a pair of delimiters encloses, with the lines of the two. -/
  | group (delimiter : Delimiter) (inner : List Token) (line closing : Nat)

namespace Token

/-- The line that a token begins on. -/
def line : Token → Nat
  | word _ line => line
  | mark _ _ line => line
  | literal _ line => line
  | lifetime _ line => line
  | group _ _ line _ => line

/-- The word `doc` of the attribute that a documentation comment abbreviates. -/
def docWord : Identifier := ⟨false, "doc", by decide, by decide⟩

/-- The attribute that a documentation comment abbreviates. -/
def documentation (inner : Bool) (line last : Nat) : List Token :=
  let content := group .bracket
    [word docWord line, mark '=' false line, literal .text line] line last
  if inner then [mark '#' false line, mark '!' false line, content]
  else [mark '#' false line, content]

/-- A delimiter that is still open: its line and the tokens before it, last first. -/
structure Open where
  /-- The delimiter. -/
  delimiter : Delimiter
  /-- The line it was opened on. -/
  line : Nat
  /-- The tokens before it, last first. -/
  before : List Token

/-- Nests lexemes into tokens, given the open delimiters, innermost first, and the tokens read
since the innermost one, last first. Fails with the line of the fault; a delimiter that is never
closed is at fault at its own line. -/
def nest : List Open → List Token → List Lexeme → Except Nat (List Token)
  | [], read, [] => .ok read.reverse
  | innermost :: _, _, [] => .error innermost.line
  | opened, read, .opening delimiter line :: rest =>
    nest (⟨delimiter, line, read⟩ :: opened) [] rest
  | [], _, .closing _ line :: _ => .error line
  | innermost :: opened, read, .closing delimiter line :: rest =>
    if innermost.delimiter = delimiter then
      nest opened (group delimiter read.reverse innermost.line line :: innermost.before) rest
    else .error line
  | opened, read, .mark '\'' _ line :: .word identifier _ :: rest =>
    nest opened (lifetime identifier line :: read) rest
  | opened, read, .word identifier line :: rest => nest opened (word identifier line :: read) rest
  | opened, read, .mark c joint line :: rest => nest opened (mark c joint line :: read) rest
  | opened, read, .literal value line :: rest => nest opened (literal value line :: read) rest
  | opened, read, .documentation inner line last :: rest =>
    nest opened ((documentation inner line last).reverse ++ read) rest
  | _, _, .unreadable line :: _ => .error line

/-- The tokens that lexemes nest into, or the line of the first fault. -/
def ofLexemes (lexemes : List Lexeme) : Except Nat (List Token) := nest [] [] lexemes

/-- The tokens of a text, or the line at which it cannot be read. -/
def ofChars (text : List Char) : Except Nat (List Token) := ofLexemes (lexemes text)

/-- A text is one name when its only token is an identifier that names something. -/
def isNameText (text : String) : Bool :=
  match ofChars text.toList with
  | .ok [word identifier _] => identifier.isName
  | _ => false

end Token

end EventTracking.Code
