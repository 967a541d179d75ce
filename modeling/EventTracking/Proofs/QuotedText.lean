import EventTracking.Code.Literal
import EventTracking.Text.Quoted
import Mathlib

/-!
# Quoted texts are read back

A quoted text is a literal of generated code. Whoever reads that code looks for the quote that
closes the literal and undoes the escapes. Quoting escapes one character at a time, so it is enough
that what stands for one character is read as that character, whatever follows.

Main statements: what stands for a character is as long as it is read (`itemLength?_escape`) and is
worth the character (`itemValue_escape`), the reader stops at the closing quote
(`bodyLength?_quoteBody`), and it finds the text that was quoted (`unquote?_quote_append`). A quoted
text stands on one line (`lineBreak_notMem_quote`).
-/

namespace EventTracking

open Code

namespace Text

/-! ## Code points in braces -/

/-- The number that hexadecimal digits write. -/
def hexValue (value : Nat) (digits : List Char) : Nat :=
  digits.foldl (fun value c => value * 16 + (hexDigit? c).getD 0) value

/-- A digit is read as the number that it writes. -/
theorem hexDigit?_digitChar {n : Nat} (h : n < 16) : hexDigit? n.digitChar = some n := by
  have hall : ∀ digit : Fin 16, hexDigit? digit.val.digitChar = some digit.val := by decide
  exact hall ⟨n, h⟩

/-- The digits that write a number are digits. -/
theorem isSome_hexDigit?_of_mem {n : Nat} {c : Char} (h : c ∈ Nat.toDigits 16 n) :
    (hexDigit? c).isSome = true := by
  induction n using Nat.strong_induction_on with
  | _ n ih =>
      rw [Nat.toDigits_eq_if (by decide)] at h
      split at h
      · rename_i hlt
        rw [List.mem_singleton.1 h, hexDigit?_digitChar hlt]
        rfl
      · rename_i hge
        rcases List.mem_append.1 h with hfront | hlast
        · exact ih (n / 16) (by omega) hfront
        · rw [List.mem_singleton.1 hlast, hexDigit?_digitChar (Nat.mod_lt n (by decide))]
          rfl

/-- The digits that write a number are worth it. -/
theorem hexValue_toDigits (n : Nat) : hexValue 0 (Nat.toDigits 16 n) = n := by
  induction n using Nat.strong_induction_on with
  | _ n ih =>
      rw [Nat.toDigits_eq_if (by decide)]
      split
      · rename_i hlt
        simp [hexValue, hexDigit?_digitChar hlt]
      · rename_i hge
        have hfront : hexValue 0 (Nat.toDigits 16 (n / 16)) = n / 16 := ih (n / 16) (by omega)
        rw [hexValue] at hfront ⊢
        rw [List.foldl_append, hfront, List.foldl_cons, List.foldl_nil,
          hexDigit?_digitChar (Nat.mod_lt n (by decide)), Option.getD_some]
        omega

/-- Digits are read one after the other, six at most. -/
theorem codePointFrom_append {digits : List Char} (h : ∀ c ∈ digits, (hexDigit? c).isSome = true)
    {before value length : Nat} (hsix : before + digits.length ≤ 6) (rest : List Char) :
    codePointFrom before value length (digits ++ rest) =
      codePointFrom (before + digits.length) (hexValue value digits) (length + digits.length)
        rest := by
  induction digits generalizing before value length with
  | nil => rfl
  | cons c more ih =>
      obtain ⟨hc, hmore⟩ := List.forall_mem_cons.1 h
      obtain ⟨digit, hdigit⟩ := Option.isSome_iff_exists.1 hc
      rw [List.length_cons] at hsix ⊢
      have hbefore : before ≠ 6 := by omega
      have hvalue : hexValue value (c :: more) = hexValue (value * 16 + digit) more := by
        rw [hexValue, List.foldl_cons, hdigit, Option.getD_some, ← hexValue]
      rw [List.cons_append, codePointFrom, hdigit]
      dsimp only
      rw [if_neg hbefore, ih hmore (by omega), hvalue, Nat.add_assoc, Nat.add_assoc,
        Nat.add_comm 1 more.length]

/-- The number of a character is written with six digits at most. -/
theorem length_toDigits_toNat_le (c : Char) : (Nat.toDigits 16 c.toNat).length ≤ 6 := by
  rw [Nat.length_toDigits_le_iff (by decide) (by decide)]
  have hvalid : Nat.isValidChar c.toNat := c.valid
  unfold Nat.isValidChar at hvalid
  omega

/-- A character that is given by its number in braces is read as that number. -/
theorem codePoint?_toDigits (c : Char) (rest : List Char) :
    codePoint? ('\x7b' :: (Nat.toDigits 16 c.toNat ++ '\x7d' :: rest)) =
      some ((Nat.toDigits 16 c.toNat).length + 2, c.toNat) := by
  have hpos : (Nat.toDigits 16 c.toNat).length ≠ 0 := Nat.length_toDigits_pos.ne'
  have hvalid : Nat.isValidChar c.toNat := c.valid
  rw [codePoint?, codePointFrom_append (fun _ => isSome_hexDigit?_of_mem)
    (by rw [Nat.zero_add]; exact length_toDigits_toNat_le c), hexValue_toDigits, codePointFrom,
    show hexDigit? '\x7d' = none from rfl]
  dsimp only
  rw [if_neg (by omega), if_neg (by decide), if_pos (by simp [hvalid])]
  congr 2
  omega

/-! ## Single characters -/

/-- The escapes that are written with a letter or a sign, and the characters that they stand for. -/
def namedEscapes : List (Char × Char) :=
  [('n', '\n'), ('r', '\r'), ('t', '\t'), ('0', '\x00'), ('\\', '\\'), ('\'', '\''), ('"', '"')]

/-- What an escape is worth that begins behind its backslash. A backslash at the end of a line is
worth nothing. -/
def escapeValue : List Char → List Char
  | 'x' :: high :: low :: _ => [Char.ofNat (hexValue 0 [high, low])]
  | 'u' :: rest => ((codePoint? rest).map fun found => Char.ofNat found.2).toList
  | c :: _ => (namedEscapes.lookup c).toList
  | [] => []

/-- What the first character of a quoted text is worth, be it escaped or not. A carriage return in
front of a line feed does not count. -/
def itemValue : List Char → List Char
  | '\\' :: rest => escapeValue rest
  | '\r' :: '\n' :: _ => ['\n']
  | c :: _ => [c]
  | [] => []

/-- A character is quoted as itself, by a named escape or as its number in braces. -/
theorem escape_eq_or (c : Char) :
    (escape c = [c] ∧ c ≠ '"' ∧ c ≠ '\\' ∧ c ≠ '\r' ∧ c ≠ '\n') ∨
      (∃ name, (name, c) ∈ namedEscapes ∧ escape c = ['\\', name]) ∨
      escape c = escapeCodePoint c := by
  unfold escape
  split
  · rename_i h
    exact .inr (.inl ⟨'0', by rw [h]; decide, rfl⟩)
  split
  · rename_i h
    exact .inr (.inl ⟨'t', by rw [h]; decide, rfl⟩)
  split
  · rename_i h
    exact .inr (.inl ⟨'r', by rw [h]; decide, rfl⟩)
  rename_i hreturn
  split
  · rename_i h
    exact .inr (.inl ⟨'n', by rw [h]; decide, rfl⟩)
  rename_i hfeed
  split
  · rename_i h
    exact .inr (.inl ⟨'"', by rw [h]; decide, rfl⟩)
  rename_i hquote
  split
  · rename_i h
    exact .inr (.inl ⟨'\\', by rw [h]; decide, rfl⟩)
  rename_i hbackslash
  split
  · exact .inr (.inr rfl)
  split
  · exact .inl ⟨rfl, hquote, hbackslash, hreturn, hfeed⟩
  · exact .inr (.inr rfl)

/-- A named escape is two characters long and worth its character. -/
theorem item_of_namedEscape {name c : Char} (h : (name, c) ∈ namedEscapes) (rest : List Char) :
    Quoting.text.itemLength? ('\\' :: name :: rest) = some 2 ∧
      itemValue ('\\' :: name :: rest) = [c] := by
  fin_cases h <;> exact ⟨rfl, rfl⟩

/-- A character in braces is followed by what follows the closing brace. -/
theorem escapeCodePoint_append (c : Char) (rest : List Char) :
    escapeCodePoint c ++ rest =
      '\\' :: 'u' :: '\x7b' :: (Nat.toDigits 16 c.toNat ++ '\x7d' :: rest) := by
  simp only [escapeCodePoint, List.cons_append, List.append_assoc, List.nil_append]

/-- What stands for a character is read as far as it reaches. -/
theorem itemLength?_escape (c : Char) (rest : List Char) :
    Quoting.text.itemLength? (escape c ++ rest) = some (escape c).length := by
  rcases escape_eq_or c with ⟨hself, hquote, hbackslash, hreturn, hfeed⟩ | ⟨name, hname, hnamed⟩ |
      hcode
  · rw [hself, List.singleton_append]
    unfold Quoting.itemLength?
    split <;> simp_all [Quoting.text]
  · rw [hnamed]
    exact (item_of_namedEscape hname rest).1
  · have hcodes : Quoting.text.codePoints = true := rfl
    have hnull : Quoting.text.null = true := rfl
    have hlength : (escapeCodePoint c).length = (Nat.toDigits 16 c.toNat).length + 4 := by
      simp [escapeCodePoint]
    rw [hcode, escapeCodePoint_append, Quoting.itemLength?, Quoting.escapeLength?, if_pos hcodes,
      codePoint?_toDigits, hlength]
    · simp [hnull]
    -- the braces are not the end of a line
    all_goals simp

/-- What stands for a character is worth it. -/
theorem itemValue_escape (c : Char) (rest : List Char) : itemValue (escape c ++ rest) = [c] := by
  rcases escape_eq_or c with ⟨hself, hquote, hbackslash, hreturn, hfeed⟩ | ⟨name, hname, hnamed⟩ |
      hcode
  · rw [hself, List.singleton_append]
    unfold itemValue
    split <;> simp_all
  · rw [hnamed]
    exact (item_of_namedEscape hname rest).2
  · rw [hcode, escapeCodePoint_append, itemValue, escapeValue, codePoint?_toDigits]
    exact congrArg (fun d => [d]) (Char.ofNat_toNat c)

/-- What stands for a character does not begin with the quote that closes a text. -/
theorem head?_escape_append (c : Char) (rest : List Char) :
    (escape c ++ rest).head? ≠ some '"' := by
  rcases escape_eq_or c with ⟨hself, hquote, -⟩ | ⟨name, -, hnamed⟩ | hcode
  · rw [hself]
    exact fun h => hquote (Option.some.inj h)
  · rw [hnamed]
    exact fun h => absurd (Option.some.inj h) (by decide)
  · rw [hcode, escapeCodePoint_append]
    exact fun h => absurd (Option.some.inj h) (by decide)

/-! ## Whole texts -/

/-- What the text between a pair of quotes is worth, and what follows the closing quote. -/
def unquoteBody? : Nat → List Char → Option (List Char × List Char)
  | 0, _ => none
  | fuel + 1, text =>
    if text.head? = some '"' then some ([], text.drop 1)
    else
      match Quoting.text.itemLength? text with
      | some n =>
        (unquoteBody? fuel (text.drop n)).map fun found => (itemValue text ++ found.1, found.2)
      | none => none

/-- What the quoted text at the head of a text is worth, and what follows it. -/
def unquote? : List Char → Option (String × List Char)
  | '"' :: body =>
    (unquoteBody? (body.length + 1) body).map fun found => (String.ofList found.1, found.2)
  | _ => none

/-- The closing quote of a quoted text is found. -/
theorem bodyLength?_quoteBody {text : List Char} {fuel : Nat} (h : text.length < fuel)
    (length : Nat) (rest : List Char) :
    Quoting.text.bodyLength? fuel length (quoteBody text ++ '"' :: rest) =
      some (length + (quoteBody text).length + 1) := by
  induction text generalizing fuel length with
  | nil =>
      obtain ⟨fuel, rfl⟩ := Nat.exists_eq_succ_of_ne_zero (Nat.ne_of_gt h)
      exact if_pos rfl
  | cons c more ih =>
      obtain ⟨fuel, rfl⟩ := Nat.exists_eq_succ_of_ne_zero (Nat.ne_zero_of_lt h)
      rw [quoteBody_cons, List.append_assoc, Quoting.bodyLength?,
        if_neg (head?_escape_append c _), itemLength?_escape]
      dsimp only
      rw [List.drop_left, ih (Nat.lt_of_succ_lt_succ h), List.length_append, Nat.add_assoc length]

/-- The text between a pair of quotes is read back. -/
theorem unquoteBody?_quoteBody {text : List Char} {fuel : Nat} (h : text.length < fuel)
    (rest : List Char) :
    unquoteBody? fuel (quoteBody text ++ '"' :: rest) = some (text, rest) := by
  induction text generalizing fuel with
  | nil =>
      obtain ⟨fuel, rfl⟩ := Nat.exists_eq_succ_of_ne_zero (Nat.ne_of_gt h)
      exact if_pos rfl
  | cons c more ih =>
      obtain ⟨fuel, rfl⟩ := Nat.exists_eq_succ_of_ne_zero (Nat.ne_zero_of_lt h)
      rw [quoteBody_cons, List.append_assoc, unquoteBody?, if_neg (head?_escape_append c _),
        itemLength?_escape]
      dsimp only
      rw [List.drop_left, ih (Nat.lt_of_succ_lt_succ h), itemValue_escape]
      rfl

/-- Quoting makes no text shorter. -/
theorem length_le_length_quoteBody (text : List Char) : text.length ≤ (quoteBody text).length := by
  induction text with
  | nil => exact Nat.le_refl 0
  | cons c more ih =>
      have hpos : 0 < (escape c).length := by
        rcases escape_eq_or c with ⟨hself, -⟩ | ⟨name, -, hnamed⟩ | hcode
        · rw [hself]
          exact Nat.one_pos
        · rw [hnamed]
          exact Nat.two_pos
        · rw [hcode, escapeCodePoint]
          exact Nat.succ_pos _
      rw [quoteBody_cons, List.length_cons, List.length_append]
      omega

/-- A quoted text and what follows it. -/
theorem toList_quote_append (text : String) (rest : List Char) :
    (quote text).toList ++ rest = '"' :: (quoteBody text.toList ++ '"' :: rest) := by
  simp only [quote, String.toList_ofList, List.cons_append, List.append_assoc, List.nil_append]

/-- A quoted text is read back, whatever follows it. -/
theorem unquote?_quote_append (text : String) (rest : List Char) :
    unquote? ((quote text).toList ++ rest) = some (text, rest) := by
  have hfuel : text.toList.length < (quoteBody text.toList ++ '"' :: rest).length + 1 := by
    have hle := length_le_length_quoteBody text.toList
    rw [List.length_append]
    omega
  rw [toList_quote_append, unquote?, unquoteBody?_quoteBody hfuel, Option.map_some,
    String.ofList_toList]

/-! ## Lines -/

/-- What stands for a character holds no line break. -/
theorem lineBreak_notMem_escape (c : Char) : '\n' ∉ escape c := by
  rcases escape_eq_or c with ⟨hself, -, -, -, hfeed⟩ | ⟨name, hname, hnamed⟩ | hcode
  · rw [hself, List.mem_singleton]
    exact fun h => hfeed h.symm
  · rw [hnamed]
    fin_cases hname <;> decide
  · have hdigits : '\n' ∉ Nat.toDigits 16 c.toNat := by
      intro h
      have hdigit := isSome_hexDigit?_of_mem h
      cases hdigit
    rw [hcode]
    simp [escapeCodePoint, hdigits]

/-- A quoted text stands on one line. -/
theorem lineBreak_notMem_quote (text : String) : '\n' ∉ (quote text).toList := by
  have hbody : '\n' ∉ quoteBody text.toList := by
    rw [quoteBody, List.mem_flatMap]
    rintro ⟨c, -, h⟩
    exact lineBreak_notMem_escape c h
  simp [quote, hbody]

end Text

end EventTracking
