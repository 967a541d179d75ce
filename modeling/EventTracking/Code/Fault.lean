import EventTracking.Code.Token

/-!
# Forms and faults

A form is what a token, or a few tokens together, may look like; a fault is the place where a source
text stops making sense, with the reason why.
-/

namespace EventTracking.Code

/-! ## Forms -/

/-- What the tokens at some place may look like. -/
inductive Form where
  /-- A plain word of that text. -/
  | word (text : String)
  /-- Punctuation characters that directly follow each other. -/
  | mark (text : String)
  /-- A word that names something. -/
  | name
  /-- A lifetime. -/
  | lifetime
  /-- Any literal. -/
  | anyLiteral
  /-- A literal text. -/
  | textLiteral
  /-- A group within that delimiter. -/
  | group (delimiter : Delimiter)
deriving DecidableEq

/-- A delimiter in words. -/
def Delimiter.shown : Delimiter → String
  | .parenthesis => "parentheses"
  | .brace => "curly braces"
  | .bracket => "square brackets"

/-- The character that closes a delimiter. -/
def Delimiter.closing : Delimiter → String
  | .parenthesis => ")"
  | .brace => "\x7d"
  | .bracket => "]"

namespace Form

/-- A form as messages show it. -/
def shown : Form → String
  | word text => "`" ++ text ++ "`"
  | mark text => "`" ++ text ++ "`"
  | name => "identifier"
  | lifetime => "lifetime"
  | anyLiteral => "literal"
  | textLiteral => "string literal"
  | group delimiter => delimiter.shown

/-- Whether these punctuation characters begin the tokens, each directly followed by the next. -/
def marksAt : List Char → List Token → Bool
  | [c], .mark d _ _ :: _ => c == d
  | c :: more, .mark d joint _ :: rest => c == d && joint && marksAt more rest
  | _, _ => false

/-- Whether a literal begins the tokens. The words `true` and `false` are literals, and a minus
belongs to the number after it. -/
def literalAt : List Token → Bool
  | .literal _ _ :: _ => true
  | .word identifier _ :: _ => identifier.isPlain "true" || identifier.isPlain "false"
  | .mark '-' _ _ :: .literal (.integer _ _) _ :: _ => true
  | .mark '-' _ _ :: .literal (.fraction _) _ :: _ => true
  | _ => false

/-- Whether tokens begin with a form. -/
def startsAt : Form → List Token → Bool
  | word text, .word identifier _ :: _ => identifier.isPlain text
  | mark text, tokens => marksAt text.toList tokens
  | name, .word identifier _ :: _ => identifier.isName
  | lifetime, .lifetime _ _ :: _ => true
  | anyLiteral, tokens => literalAt tokens
  | textLiteral, .literal .text _ :: _ => true
  | group delimiter, .group found _ _ _ :: _ => delimiter == found
  | _, _ => false

/-- The number of tokens that a form takes up. -/
def width : Form → Nat
  | mark text => text.length
  | _ => 1

end Form

/-! ## Faults -/

/-- Why a source text stops making sense. -/
inductive Cause where
  /-- It cannot be cut into tokens. -/
  | tokens
  /-- None of these forms is found. -/
  | expected (forms : List Form)
  /-- Something other than a form is missing. -/
  | missing (what : String)
  /-- A keyword stands where a name is expected. -/
  | keyword (word : String)
  /-- Something follows what a group should hold. -/
  | leftover (delimiter : Delimiter)
  /-- A statement is not separated from the next one. -/
  | unseparated
  /-- Nothing that could stand here is found. -/
  | unexpected
  /-- A second comparison follows a comparison. -/
  | chainedComparison
  /-- A cast is followed by something that binds more tightly. -/
  | afterCast (what : String)
  /-- An attribute stands before an open range. -/
  | attributeOnRange
  /-- An attribute stands for a value within an attribute. -/
  | attributeInAttribute
  /-- A labelled expression follows `break` without parentheses. -/
  | unparenthesized
  /-- The receiver of a method is not its first parameter. -/
  | lateReceiver
  /-- A method has a second receiver. -/
  | secondReceiver
  /-- An object type names no trait. -/
  | objectWithoutTrait
  /-- An opaque type names no trait. -/
  | opaqueWithoutTrait
  /-- A list of captured parameters stands where none may. -/
  | capture
  /-- A trait is required to be constant where it may not, conditionally or not. -/
  | constant (conditional : Bool)
  /-- Generic parameters follow `where`. -/
  | whereGenerics
  /-- A range without parentheses stands in a list pattern. -/
  | rangeInList
  /-- A negative implementation names no trait. -/
  | negativeInherent
  /-- A field's number has a suffix. -/
  | suffixedIndex
  /-- A field's number is negative. -/
  | negativeIndex
  /-- A field's number is too large. -/
  | largeIndex
  /-- The text is nested too deeply to be read. -/
  | depth
deriving DecidableEq

/-- What is expected, in words. -/
def expectation (forms : List Form) : String :=
  match forms.map Form.shown with
  | [] => ""
  | [only] => "expected " ++ only
  | [first, second] => "expected " ++ first ++ " or " ++ second
  | several => "expected one of: " ++ ", ".intercalate several

/-- The reason in words. -/
def Cause.message : Cause → String
  | tokens => "cannot parse string into token stream"
  | expected forms => expectation forms
  | missing what => "expected " ++ what
  | keyword word => "expected identifier, found keyword `" ++ word ++ "`"
  | leftover delimiter => "unexpected token, expected `" ++ delimiter.closing ++ "`"
  | unseparated => "unexpected token, expected `;`"
  | unexpected => "unexpected token"
  | chainedComparison => "comparison operators cannot be chained"
  | afterCast what => "casts cannot be followed by " ++ what
  | attributeOnRange => "attributes are not allowed on range expressions starting with `..`"
  | attributeInAttribute => "unexpected attribute inside of attribute"
  | unparenthesized => "parentheses required"
  | lateReceiver => "unexpected method receiver"
  | secondReceiver => "unexpected second method receiver"
  | objectWithoutTrait => "at least one trait is required for an object type"
  | opaqueWithoutTrait => "at least one trait must be specified"
  | capture => "`use<...>` precise capturing syntax is not allowed here"
  | constant conditional =>
    if conditional then "`[const]` is not allowed here" else "`const` is not allowed here"
  | whereGenerics => "generic parameters on `where` clauses are reserved for future use"
  | rangeInList => "range pattern is not allowed unparenthesized inside slice pattern"
  | negativeInherent => "inherent impls cannot be negative"
  | suffixedIndex => "expected unsuffixed integer"
  | negativeIndex => "invalid digit found in string"
  | largeIndex => "number too large to fit in target type"
  | depth => "nested too deeply"

/-- A place where a source text stops making sense. -/
structure Fault where
  /-- Why it does. -/
  cause : Cause
  /-- Whether the text, or the group that is being read, ends there. -/
  atEnd : Bool
  /-- The line of the offending token, or of the end. -/
  line : Nat
deriving DecidableEq

/-- A fault in words. -/
def Fault.message (fault : Fault) : String :=
  if fault.atEnd then
    if fault.cause = .unexpected then "unexpected end of input"
    else "unexpected end of input, " ++ fault.cause.message
  else fault.cause.message

end EventTracking.Code
