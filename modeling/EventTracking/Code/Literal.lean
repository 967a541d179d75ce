import EventTracking.Text.Word

/-!
# Literals

The literals of a source file and how far each reaches: texts between quotes with their escapes, raw
texts between hashes, characters, bytes and numbers. A word that directly follows a literal belongs
to it as its suffix.

Main statements: a hexadecimal digit is below sixteen (`hexDigit?_lt`).
-/

namespace EventTracking.Code

open Text

/-- A literal, as far as the grammar tells literals apart. -/
inductive Literal where
  /-- A text. -/
  | text
  /-- A text of bytes. -/
  | byteText
  /-- A text closed by a null byte. -/
  | nullEndedText
  /-- A byte. -/
  | byte
  /-- A character. -/
  | character
  /-- An integer, with its value and whether it has a suffix. -/
  | integer (value : Nat) (suffixed : Bool)
  /-- A number with a fraction or an exponent, as it is written. -/
  | fraction (written : List Char)
  /-- A place that an earlier reader could not make sense of. -/
  | unknown
deriving DecidableEq

/-! ## Suffixes -/

/-- The length of the word at the head of a text. -/
def wordLength (text : List Char) : Nat :=
  match text with
  | [] => 0
  | c :: rest => if isWordStart c then (rest.takeWhile isWordPart).length + 1 else 0

/-- A literal of this length together with the word that directly follows it. -/
def withSuffix (text : List Char) (length : Nat) : Nat := length + wordLength (text.drop length)

/-! ## Escapes -/

/-- The value of a hexadecimal digit. -/
def hexDigit? (c : Char) : Option Nat :=
  if c.isDigit then some (c.toNat - '0'.toNat)
  else if 'a' ≤ c && c ≤ 'f' then some (c.toNat - 'a'.toNat + 10)
  else if 'A' ≤ c && c ≤ 'F' then some (c.toNat - 'A'.toNat + 10)
  else none

/-- A hexadecimal digit is below sixteen. -/
theorem hexDigit?_lt {c : Char} {digit : Nat} (h : hexDigit? c = some digit) : digit < 16 := by
  have toNat_le {a b : Char} (h : a ≤ b) : a.toNat ≤ b.toNat := h
  simp only [hexDigit?, Char.isDigit, Bool.and_eq_true, decide_eq_true_eq] at h
  split at h
  · rename_i hd
    have := toNat_le (a := c) (b := '9') hd.2
    simp at h this
    omega
  · split at h
    · rename_i hl
      have := toNat_le hl.2
      simp at h this
      omega
    · split at h
      · rename_i hu
        have := toNat_le hu.2
        simp at h this
        omega
      · cases h

/-- What the text between a pair of quotes may hold. -/
structure Quoting where
  /-- Whether a code point may be given in braces. -/
  codePoints : Bool
  /-- Whether characters outside ASCII may stand for themselves and bytes may exceed ASCII. -/
  ascii : Bool
  /-- Whether the null character may occur. -/
  null : Bool

/-- A text holds any characters; its two-digit escapes stay within ASCII. -/
def Quoting.text : Quoting := ⟨true, false, true⟩

/-- A text of bytes holds ASCII characters and any byte as an escape. -/
def Quoting.bytes : Quoting := ⟨false, true, true⟩

/-- A null-ended text holds no null of its own. -/
def Quoting.nullEnded : Quoting := ⟨true, false, false⟩

/-- The length of the code point in braces and its value, after `digits` digits worth `value`. -/
def codePointFrom : Nat → Nat → Nat → List Char → Option (Nat × Nat)
  | digits, value, length, c :: rest =>
    match hexDigit? c with
    | some digit =>
      if digits = 6 then none else codePointFrom (digits + 1) (value * 16 + digit) (length + 1) rest
    | none =>
      if digits = 0 then none
      else if c = '_' then codePointFrom digits value (length + 1) rest
      else if c = '\x7d' && Nat.isValidChar value then some (length + 1, value)
      else none
  | _, _, _, [] => none

/-- The length of a code point in braces and its value. -/
def codePoint? : List Char → Option (Nat × Nat)
  | '\x7b' :: rest => codePointFrom 0 0 1 rest
  | _ => none

/-- Whether two digits are an escape of this quoting. -/
def Quoting.allowsDigits (quoting : Quoting) (high low : Char) : Bool :=
  match hexDigit? high, hexDigit? low with
  | some h, some l =>
    if quoting.ascii then true
    else if quoting.null then h < 8
    else h ≠ 0 || l ≠ 0
  | _, _ => false

/-- The length of the escape that follows a backslash. -/
def Quoting.escapeLength? (quoting : Quoting) : List Char → Option Nat
  | 'x' :: high :: low :: _ => if quoting.allowsDigits high low then some 3 else none
  | 'u' :: rest =>
    if quoting.codePoints then
      match codePoint? rest with
      | some (length, value) => if value = 0 && !quoting.null then none else some (length + 1)
      | none => none
    else none
  | '0' :: _ => if quoting.null then some 1 else none
  | c :: _ => if ['n', 'r', 't', '\\', '\'', '"'].contains c then some 1 else none
  | [] => none

/-! ## Quoted texts -/

/-- The length of the blanks that a backslash at the end of a line joins to it, added to `length`.
Something has to follow them. -/
def continuationLength? : Nat → List Char → Option Nat
  | length, '\r' :: '\n' :: rest => continuationLength? (length + 2) rest
  | length, c :: rest =>
    if c = '\r' then none
    else if c = ' ' || c = '\t' || c = '\n' then continuationLength? (length + 1) rest
    else some length
  | _, [] => none

/-- The length of the first character of a quoted text, be it escaped or not. -/
def Quoting.itemLength? (quoting : Quoting) : List Char → Option Nat
  | '\\' :: '\n' :: rest => (continuationLength? 0 ('\n' :: rest)).map (· + 1)
  | '\\' :: '\r' :: rest => (continuationLength? 0 ('\r' :: rest)).map (· + 1)
  | '\\' :: rest => (quoting.escapeLength? rest).map (· + 1)
  | '\r' :: '\n' :: _ => some 2
  | '\r' :: _ => none
  | c :: _ =>
    if quoting.ascii && 0x80 ≤ c.toNat || !quoting.null && c = '\x00' then none else some 1
  | [] => none

/-- The length of a quoted text up to and with its closing quote, added to `length`. -/
def Quoting.bodyLength? (quoting : Quoting) : Nat → Nat → List Char → Option Nat
  | 0, _, _ => none
  | fuel + 1, length, text =>
    if text.head? = some '"' then some (length + 1)
    else
      match quoting.itemLength? text with
      | some n => quoting.bodyLength? fuel (length + n) (text.drop n)
      | none => none

/-- The length of a raw text up to and with its closing quote and hashes, added to `length`. -/
def Quoting.rawLength? (quoting : Quoting) (hashes : Nat) : Nat → List Char → Option Nat
  | length, '\r' :: '\n' :: rest => quoting.rawLength? hashes (length + 2) rest
  | length, c :: rest =>
    if c = '"' && (rest.take hashes).length = hashes && (rest.take hashes).all (· == '#') then
      some (length + 1 + hashes)
    else if c = '\r' then none
    else if quoting.ascii && 0x80 ≤ c.toNat || !quoting.null && c = '\x00' then none
    else quoting.rawLength? hashes (length + 1) rest
  | _, [] => none

/-- The length of a quoted or raw text that begins with this marker. -/
def Quoting.length? (quoting : Quoting) (marker : List Char) (text : List Char) : Option Nat :=
  if (marker ++ ['"']).isPrefixOf text then
    let body := text.drop (marker.length + 1)
    (quoting.bodyLength? (body.length + 1) (marker.length + 1) body).map (withSuffix text)
  else if (marker ++ ['r']).isPrefixOf text then
    let opening := text.drop (marker.length + 1)
    let hashes := (opening.takeWhile (· == '#')).length
    match opening.drop hashes with
    | '"' :: body =>
      if hashes ≤ 255 then
        (quoting.rawLength? hashes (marker.length + hashes + 2) body).map (withSuffix text)
      else none
    | _ => none
  else none

/-! ## Characters and bytes -/

/-- The length of what stands between the quotes of a byte. -/
def byteItemLength? : List Char → Option Nat
  | '\\' :: rest => (Quoting.bytes.escapeLength? rest).map (· + 1)
  | c :: _ => if c.toNat < 0x80 then some 1 else none
  | [] => none

/-- The length of what stands between the quotes of a character. -/
def characterItemLength? : List Char → Option Nat
  | '\\' :: rest => (Quoting.text.escapeLength? rest).map (· + 1)
  | _ :: _ => some 1
  | [] => none

/-- The length of a literal whose marker and single item stand before a closing quote. -/
def closedLength? (text : List Char) (marker : Nat) (item : Option Nat) : Option Nat :=
  match item with
  | none => none
  | some n =>
    if (text.drop (marker + n)).head? = some '\'' then some (withSuffix text (marker + n + 1))
    else none

/-- The length of the byte at the head of a text. -/
def byteLength? : List Char → Option Nat
  | 'b' :: '\'' :: rest => closedLength? ('b' :: '\'' :: rest) 2 (byteItemLength? rest)
  | _ => none

/-- The length of the character at the head of a text. -/
def characterLength? : List Char → Option Nat
  | '\'' :: rest => closedLength? ('\'' :: rest) 1 (characterItemLength? rest)
  | _ => none

/-! ## Numbers -/

/-- The digits of a number up to its exponent: their length, whether a point was among them and
whether an exponent follows. A point that a word or a second point follows is none of the number's
own. -/
def mantissa? : Bool → Nat → List Char → Option (Nat × Bool × Bool)
  | point, length, [] => some (length, point, false)
  | point, length, c :: rest =>
    if c.isDigit || c = '_' then mantissa? point (length + 1) rest
    else if c = '.' && !point then
      if rest.head?.any (fun d => d = '.' || isWordStart d) then none
      else mantissa? true (length + 1) rest
    else if c = 'e' || c = 'E' then some (length + 1, point, true)
    else some (length, point, false)

/-- The length of the exponent at the head of a text, added to `length`; it needs a digit. -/
def exponentLength? : Bool → Bool → Nat → List Char → Option Nat
  | _, digit, length, [] => if digit then some length else none
  | sign, digit, length, c :: rest =>
    if c.isDigit then exponentLength? sign true (length + 1) rest
    else if c = '_' then exponentLength? sign digit (length + 1) rest
    else if (c = '+' || c = '-') && !digit then
      if sign then none else exponentLength? true digit (length + 1) rest
    else if digit then some length
    else none

/-- The length of the digits of a number with a fraction or an exponent. -/
def fractionDigits? (text : List Char) : Option Nat :=
  if text.head?.any Char.isDigit then
    match mantissa? false 1 (text.drop 1) with
    | some (length, point, true) =>
      match exponentLength? false false length (text.drop length) with
      | some total => some total
      | none => if point then some (length - 1) else none
    | some (length, true, false) => some length
    | _ => none
  else none

/-- The base of an integer and the length of the marker that gives it. -/
def baseOf : List Char → Nat × Nat
  | '0' :: 'x' :: _ => (16, 2)
  | '0' :: 'o' :: _ => (8, 2)
  | '0' :: 'b' :: _ => (2, 2)
  | _ => (10, 0)

/-- The length of an integer's digits, added to `length`: a decimal digit too large for the base
spoils the number, a letter too large ends it. -/
def digitsLength? (base : Nat) : Bool → Nat → List Char → Option Nat
  | empty, length, [] => if empty then none else some length
  | empty, length, c :: rest =>
    if c.isDigit then
      if base ≤ c.toNat - '0'.toNat then none else digitsLength? base false (length + 1) rest
    else if c = '_' then
      if empty && base = 10 then none else digitsLength? base empty (length + 1) rest
    else if (hexDigit? c).any (· < base) then digitsLength? base false (length + 1) rest
    else if empty then none
    else some length

/-- The length of a number's digits together with its suffix; nothing of a word may follow. -/
def numberLength? (text : List Char) (digits : Nat) : Option Nat :=
  let length := withSuffix text digits
  if (text.drop length).head?.any isWordPart then none else some length

/-- The length of the number at the head of a text. -/
def numericLength? (text : List Char) : Option Nat :=
  match (fractionDigits? text).bind (numberLength? text) with
  | some length => some length
  | none =>
    let (base, marker) := baseOf text
    (digitsLength? base true marker (text.drop marker)).bind (numberLength? text)

/-- Whether the text after a decimal number's digits makes it a fraction: a point, or an exponent
with a sign or with digits after which nothing or a word follows. -/
def beginsFraction : List Char → Bool
  | '.' :: _ => true
  | e :: rest =>
    (e = 'e' || e = 'E') &&
      let digits := rest.takeWhile (fun c => c.isDigit || c = '_')
      match rest.dropWhile (fun c => c.isDigit || c = '_') with
      | [] => digits.any Char.isDigit
      | c :: after => c = '-' || c = '+' || digits.any Char.isDigit && isWord (c :: after)
  | [] => false

/-- The value of the digits at the head of a text. -/
def valueFrom (base : Nat) : Nat → List Char → Nat
  | value, c :: rest =>
    if c = '_' then valueFrom base value rest
    else
      match hexDigit? c with
      | some digit => if digit < base then valueFrom base (value * base + digit) rest else value
      | none => value
  | value, [] => value

/-- The number that a whole text writes. -/
def numberOf (text : List Char) : Literal :=
  let (base, marker) := baseOf text
  let isDigitOf (c : Char) : Bool := c = '_' || (hexDigit? c).any (· < base)
  let rest := (text.drop marker).dropWhile isDigitOf
  if base = 10 && beginsFraction rest then .fraction text
  else .integer (valueFrom base 0 (text.drop marker)) (!rest.isEmpty)

/-! ## Any literal -/

/-- The text that stands for a place which could not be made sense of. -/
def unknownMark : List Char := "(/*ERROR*/)".toList

/-- The literal at the head of a text and its length. -/
def literal? (text : List Char) : Option (Literal × Nat) :=
  match Quoting.text.length? [] text with
  | some n => some (.text, n)
  | none =>
  match Quoting.bytes.length? ['b'] text with
  | some n => some (.byteText, n)
  | none =>
  match Quoting.nullEnded.length? ['c'] text with
  | some n => some (.nullEndedText, n)
  | none =>
  match byteLength? text with
  | some n => some (.byte, n)
  | none =>
  match characterLength? text with
  | some n => some (.character, n)
  | none =>
  match numericLength? text with
  | some n => some (numberOf (text.take n), n)
  | none => none

end EventTracking.Code
