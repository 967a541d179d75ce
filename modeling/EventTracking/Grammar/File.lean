import EventTracking.Grammar.Expression
import EventTracking.Grammar.Pattern
import EventTracking.Grammar.Statement

/-!
# Source files

A source file is a list of items with the attributes of the file before them. A byte order mark at
its head is dropped, and so is a first line that names an interpreter.

Main statements: what is not a shebang line is kept (`withoutShebang_of_not_begins`).
-/

namespace EventTracking

open Code

/-! ## The grammar as a whole -/

namespace Grammar

/-- The rule of every nonterminal, given parsers for what lies one level deeper. -/
def rule (rules : Rules) : Rules
  | .type plus => typeRule rules plus
  | .bound captures constant => boundRule rules captures constant
  | .expression structs => expressionRule rules structs
  | .operand structs => operandRule rules structs
  | .operation structs left base => operationRule rules structs left base
  | .boundary => boundaryRule rules
  | .statements => statementsRule rules
  | .pattern => patternRule rules
  | .item => itemRule rules
  | .useTree roots => useTreeRule rules roots

/-- The parsers of all nonterminals, for texts in which they nest at most `depth` levels deep. -/
def parse : (depth : Nat) → (nonterminal : Nonterminal) → Parser nonterminal.Value
  | 0, _ => stop .depth
  | depth + 1, nonterminal => rule (parse depth) nonterminal

/-- Reads the attributes of a file and its items. -/
def file (rules : Rules) : Parser (List Item) := do
  let _ ← innerAttributes rules
  toEnd (rules .item)

/-- The depth to which nonterminals can nest in a text of that many characters: few nest without a
character between them. -/
def depthOf (length : Nat) : Nat := 16 * length + 80

end Grammar

/-! ## Reading a file -/

namespace Code.Outline

open Grammar

/-- A text without a first line that names an interpreter. Such a line begins with `#!` and is not
the beginning of an attribute; the line break at its end stays. -/
def withoutShebang (text : List Char) : List Char :=
  if begins "#!" text then
    let after := text.drop 2
    if (after.drop (gapLength after)).head? = some '[' then text
    else text.dropWhile (· != '\n')
  else text

/-- The outline of a file, given its tokens. At the end of the file faults are on the first line. -/
def ofTokens (depth : Nat) (tokens : List Token) : Except Fault Outline :=
  match file (parse depth) ⟨tokens, 1, none⟩ with
  | .error fault => .error fault
  | .ok (items, position) =>
    match position.leftover with
    | some fault => .error fault
    | none => .ok ⟨items⟩

/-- The outline of a source text, or its first fault. -/
def ofSource (source : String) : Except Fault Outline :=
  let text := withoutShebang (withoutByteOrderMark source.toList)
  match Token.ofChars text with
  | .error line => .error ⟨.tokens, false, line⟩
  | .ok tokens => ofTokens (depthOf text.length) tokens

/-- A text that does not begin like a shebang line is kept. -/
theorem withoutShebang_of_not_begins {text : List Char} (h : begins "#!" text = false) :
    withoutShebang text = text := by
  simp [withoutShebang, h]

end Code.Outline

end EventTracking
