import EventTracking.Text.Printable

/-!
# Quoted text

A text is quoted by putting it between double quotes and escaping the characters that could not
stand there: the quote and the backslash, line breaks and tabs, and every character that is not
shown by itself, which is written as its code point in hexadecimal.

Main statements: ordinary ASCII characters stand for themselves (`escape_ascii`), and quoting works
character by character (`quoteBody_append`).
-/

namespace EventTracking.Text

/-- A character as its code point: a backslash, `u`, and the hexadecimal digits in braces. -/
def escapeCodePoint (c : Char) : List Char :=
  '\\' :: 'u' :: '\x7b' :: Nat.toDigits 16 c.toNat ++ ['\x7d']

/-- A character as it stands between the quotes. -/
def escape (c : Char) : List Char :=
  if c = '\x00' then ['\\', '0']
  else if c = '\t' then ['\\', 't']
  else if c = '\r' then ['\\', 'r']
  else if c = '\n' then ['\\', 'n']
  else if c = '"' then ['\\', '"']
  else if c = '\\' then ['\\', '\\']
  else if isGraphemeExtender c then escapeCodePoint c
  else if isPrintable c then [c]
  else escapeCodePoint c

/-- The characters between the quotes. -/
def quoteBody (text : List Char) : List Char := text.flatMap escape

/-- The quoted form of a text. -/
def quote (text : String) : String :=
  String.ofList ('"' :: quoteBody text.toList ++ ['"'])

/-- Quoting works character by character. -/
theorem quoteBody_append (a b : List Char) :
    quoteBody (a ++ b) = quoteBody a ++ quoteBody b := by
  simp [quoteBody]

/-- The first character is escaped by itself. -/
theorem quoteBody_cons (c : Char) (rest : List Char) :
    quoteBody (c :: rest) = escape c ++ quoteBody rest := by
  simp [quoteBody]

/-- The ASCII characters from the space to the tilde stand for themselves, but for the quote and
the backslash. -/
theorem escape_ascii {c : Char} (low : 0x20 ≤ c.toNat) (high : c.toNat < 0x7F) (quote : c ≠ '"')
    (backslash : c ≠ '\\') : escape c = [c] := by
  have ne {d : Char} (h : d.toNat < 0x20) : c ≠ d := by
    rintro rfl
    omega
  simp [escape, ne (d := '\x00') (by decide), ne (d := '\t') (by decide),
    ne (d := '\r') (by decide), ne (d := '\n') (by decide), quote, backslash,
    isGraphemeExtender_ascii (show c.toNat < 0x80 by omega), isPrintable_ascii low high]

end EventTracking.Text
