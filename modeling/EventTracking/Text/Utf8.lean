/-!
# UTF-8

A character is encoded in one to four bytes. Bytes are compared as characters are, and the bytes of
ASCII characters occur in no other character.

Bytes that are not valid UTF-8 are shown with replacement characters. A character that breaks off,
because the next byte cannot belong to it or because there is none, is replaced as a whole; a byte
that begins no character is replaced by itself.

Main statements: texts are ordered as their bytes are (`bytesOf_lt_iff`), and the bytes of a text
are shown as that text (`replacing_bytesOf`).
-/

namespace EventTracking.Text.Utf8

/-! ## The bytes of a character -/

/-- The bytes of the character with that number. -/
def bytesOfCode (code : Nat) : List Nat :=
  if code < 0x80 then [code]
  else if code < 0x800 then [0xC0 + code / 64, 0x80 + code % 64]
  else if code < 0x10000 then [0xE0 + code / 4096, 0x80 + code / 64 % 64, 0x80 + code % 64]
  else
    [0xF0 + code / 262144, 0x80 + code / 4096 % 64, 0x80 + code / 64 % 64, 0x80 + code % 64]

/-- The bytes of a text. -/
def bytesOf (text : List Char) : List Nat := text.flatMap fun c => bytesOfCode c.toNat

/-- These are the bytes in which the library encodes a character. -/
theorem map_toNat_utf8EncodeChar (c : Char) :
    (String.utf8EncodeChar c).map UInt8.toNat = bytesOfCode c.toNat := by
  have hcode : c.val.toNat = c.toNat := rfl
  have hlast : c.toNat < 0x110000 := by
    have := c.valid
    have : c.toNat < 0xD800 ∨ 0xDFFF < c.toNat ∧ c.toNat < 0x110000 := this
    omega
  rw [String.utf8EncodeChar, hcode, bytesOfCode]
  by_cases h1 : c.toNat < 0x80
  · rw [if_pos h1, if_pos (Nat.le_of_lt_succ h1)]
    simp only [List.map_cons, List.map_nil, UInt8.toNat_ofNat']
    congr 1
    omega
  · rw [if_neg h1, if_neg (by omega : ¬ c.toNat ≤ 0x7F)]
    by_cases h2 : c.toNat < 0x800
    · rw [if_pos h2, if_pos (Nat.le_of_lt_succ h2)]
      simp only [List.map_cons, List.map_nil, UInt8.toNat_ofNat', List.cons.injEq, and_true]
      omega
    · rw [if_neg h2, if_neg (by omega : ¬ c.toNat ≤ 0x7FF)]
      by_cases h3 : c.toNat < 0x10000
      · rw [if_pos h3, if_pos (Nat.le_of_lt_succ h3)]
        simp only [List.map_cons, List.map_nil, UInt8.toNat_ofNat', List.cons.injEq, and_true]
        omega
      · rw [if_neg h3, if_neg (by omega : ¬ c.toNat ≤ 0xFFFF)]
        simp only [List.map_cons, List.map_nil, UInt8.toNat_ofNat', List.cons.injEq, and_true]
        omega

/-- A byte of an ASCII character occurs in no other character. -/
theorem mem_bytesOfCode_iff {byte code : Nat} (h : byte < 0x80) :
    byte ∈ bytesOfCode code ↔ code = byte := by
  unfold bytesOfCode
  split
  · rw [List.mem_singleton, eq_comm]
  · split
    · simp only [List.mem_cons, List.not_mem_nil, or_false]
      omega
    · split
      · simp only [List.mem_cons, List.not_mem_nil, or_false]
        omega
      · simp only [List.mem_cons, List.not_mem_nil, or_false]
        omega

/-- Characters are encoded in the order of their numbers, whatever follows them. -/
theorem bytesOfCode_append_lt {code other : Nat} (h : code < other) (hother : other < 0x110000)
    (rest more : List Nat) : bytesOfCode code ++ rest < bytesOfCode other ++ more := by
  unfold bytesOfCode
  -- one case for each two numbers of bytes; what follows counts only if all bytes are the same
  by_cases hrest : rest < more
  all_goals repeat' split
  all_goals
    simp only [List.cons_append, List.nil_append, List.cons_lt_cons_iff, hrest]
    omega

/-- A character has at least one byte. -/
theorem bytesOfCode_ne_nil (code : Nat) : bytesOfCode code ≠ [] := by
  unfold bytesOfCode
  repeat' split
  all_goals exact List.cons_ne_nil _ _

/-! ## The bytes of a text -/

/-- The number of a character is not too large. -/
theorem toNat_lt (c : Char) : c.toNat < 0x110000 := by
  have hvalid : c.toNat < 0xD800 ∨ 0xDFFF < c.toNat ∧ c.toNat < 0x110000 := c.valid
  omega

/-- A text that comes before another one has bytes that come before its bytes. -/
theorem bytesOf_lt_of_lt {text other : List Char} (h : text < other) :
    bytesOf text < bytesOf other := by
  induction text generalizing other with
  | nil =>
    cases other with
    | nil => exact absurd h (List.lt_irrefl _)
    | cons d more =>
      rw [bytesOf, bytesOf, List.flatMap_nil, List.flatMap_cons]
      obtain ⟨byte, bytes, hbytes⟩ := List.exists_cons_of_ne_nil (bytesOfCode_ne_nil d.toNat)
      rw [hbytes, List.cons_append]
      exact List.nil_lt_cons _ _
  | cons c rest ih =>
    cases other with
    | nil => exact absurd h (List.not_lt_nil _)
    | cons d more =>
      rw [bytesOf, bytesOf, List.flatMap_cons, List.flatMap_cons]
      rcases List.cons_lt_cons_iff.1 h with hlt | ⟨rfl, hlt⟩
      · exact bytesOfCode_append_lt hlt (toNat_lt d) _ _
      · exact List.append_left_lt (ih hlt)

/-- Texts are ordered as their bytes are. -/
theorem bytesOf_lt_iff {text other : List Char} : bytesOf text < bytesOf other ↔ text < other := by
  refine ⟨fun h => ?_, bytesOf_lt_of_lt⟩
  rcases Std.lt_trichotomy text other with hlt | rfl | hlt
  · exact hlt
  · exact absurd h (List.lt_irrefl _)
  · exact absurd (List.lt_trans h (bytesOf_lt_of_lt hlt)) (List.lt_irrefl _)

/-! ## Replacing what is no text -/

/-- What stands in place of bytes that make no character. -/
def replacement : Char := '\uFFFD'

/-- A character of which some bytes have been read. -/
structure Begun where
  /-- The number that the bytes read so far make. -/
  value : Nat
  /-- How many bytes are missing after the next one. -/
  missing : Nat
  /-- The least byte that may come next. -/
  least : Nat
  /-- The greatest byte that may come next. -/
  greatest : Nat

/-- What a byte makes between characters: the characters that are complete with it, and one that it
begins. -/
def readFirst (byte : Nat) : List Char × Option Begun :=
  if byte < 0x80 then ([Char.ofNat byte], none)
  else if byte < 0xC2 then ([replacement], none)
  else if byte < 0xE0 then ([], some ⟨byte - 0xC0, 0, 0x80, 0xBF⟩)
  else if byte = 0xE0 then ([], some ⟨0, 1, 0xA0, 0xBF⟩)
  else if byte = 0xED then ([], some ⟨0xD, 1, 0x80, 0x9F⟩)
  else if byte < 0xF0 then ([], some ⟨byte - 0xE0, 1, 0x80, 0xBF⟩)
  else if byte = 0xF0 then ([], some ⟨0, 2, 0x90, 0xBF⟩)
  else if byte < 0xF4 then ([], some ⟨byte - 0xF0, 2, 0x80, 0xBF⟩)
  else if byte = 0xF4 then ([], some ⟨4, 2, 0x80, 0x8F⟩)
  else ([replacement], none)

/-- What a byte makes of a character that has been begun, if it may belong to it. -/
def readNext? (begun : Begun) (byte : Nat) : Option (List Char × Option Begun) :=
  if begun.least ≤ byte ∧ byte ≤ begun.greatest then
    let value := begun.value * 64 + (byte - 0x80)
    match begun.missing with
    | 0 => some ([Char.ofNat value], none)
    | missing + 1 => some ([], some ⟨value, missing, 0x80, 0xBF⟩)
  else none

/-- The characters of some bytes, with replacements for those that make none. -/
def replacing : Option Begun → List Nat → List Char
  | none, [] => []
  | some _, [] => [replacement]
  | none, byte :: rest => (readFirst byte).1 ++ replacing (readFirst byte).2 rest
  | some begun, byte :: rest =>
    match readNext? begun byte with
    | some (complete, next) => complete ++ replacing next rest
    | none => replacement :: ((readFirst byte).1 ++ replacing (readFirst byte).2 rest)

/-- A byte that may come next brings a character further. -/
theorem replacing_begun_succ {value missing least greatest last : Nat} (rest : List Nat)
    (hleast : least ≤ 0x80 + last) (hgreatest : 0x80 + last ≤ greatest) :
    replacing (some ⟨value, missing + 1, least, greatest⟩) ((0x80 + last) :: rest) =
      replacing (some ⟨value * 64 + last, missing, 0x80, 0xBF⟩) rest := by
  rw [replacing, readNext?, if_pos ⟨hleast, hgreatest⟩, Nat.add_sub_cancel_left]
  rfl

/-- The last byte that may come next makes a character complete. -/
theorem replacing_begun_zero {value least greatest last : Nat} (rest : List Nat)
    (hleast : least ≤ 0x80 + last) (hgreatest : 0x80 + last ≤ greatest) :
    replacing (some ⟨value, 0, least, greatest⟩) ((0x80 + last) :: rest) =
      Char.ofNat (value * 64 + last) :: replacing none rest := by
  rw [replacing, readNext?, if_pos ⟨hleast, hgreatest⟩, Nat.add_sub_cancel_left]
  rfl

/-- The first of two bytes. -/
theorem readFirst_of_two {code : Nat} (hfrom : 0x80 ≤ code) (hto : code < 0x800) :
    readFirst (0xC0 + code / 64) = ([], some ⟨code / 64, 0, 0x80, 0xBF⟩) := by
  rw [readFirst, if_neg (by omega), if_neg (by omega), if_pos (by omega), Nat.add_sub_cancel_left]

/-- After the first of three bytes the second one may come next, unless they would encode half of a
surrogate pair. -/
theorem exists_readFirst_of_three {code : Nat} (hfrom : 0x800 ≤ code) (hto : code < 0x10000)
    (hvalid : code < 0xD800 ∨ 0xDFFF < code) :
    ∃ least greatest,
      readFirst (0xE0 + code / 4096) = ([], some ⟨code / 4096, 1, least, greatest⟩) ∧
        least ≤ 0x80 + code / 64 % 64 ∧ 0x80 + code / 64 % 64 ≤ greatest := by
  rw [readFirst, if_neg (by omega), if_neg (by omega), if_neg (by omega)]
  split
  · exact ⟨0xA0, 0xBF, by rw [show code / 4096 = 0 by omega], by omega, by omega⟩
  · split
    · exact ⟨0x80, 0x9F, by rw [show code / 4096 = 0xD by omega], by omega, by omega⟩
    · rw [if_pos (by omega), Nat.add_sub_cancel_left]
      exact ⟨0x80, 0xBF, rfl, by omega, by omega⟩

/-- After the first of four bytes the second one may come next. -/
theorem exists_readFirst_of_four {code : Nat} (hfrom : 0x10000 ≤ code) (hto : code < 0x110000) :
    ∃ least greatest,
      readFirst (0xF0 + code / 262144) = ([], some ⟨code / 262144, 2, least, greatest⟩) ∧
        least ≤ 0x80 + code / 4096 % 64 ∧ 0x80 + code / 4096 % 64 ≤ greatest := by
  rw [readFirst, if_neg (by omega), if_neg (by omega), if_neg (by omega), if_neg (by omega),
    if_neg (by omega), if_neg (by omega)]
  split
  · exact ⟨0x90, 0xBF, by rw [show code / 262144 = 0 by omega], by omega, by omega⟩
  · split
    · rw [Nat.add_sub_cancel_left]
      exact ⟨0x80, 0xBF, rfl, by omega, by omega⟩
    · rw [if_pos (by omega)]
      exact ⟨0x80, 0x8F, by rw [show code / 262144 = 4 by omega], by omega, by omega⟩

/-- The bytes of a character are read as that character. -/
theorem replacing_bytesOfCode_append (c : Char) (rest : List Nat) :
    replacing none (bytesOfCode c.toNat ++ rest) = c :: replacing none rest := by
  have hvalid : c.toNat < 0xD800 ∨ 0xDFFF < c.toNat ∧ c.toNat < 0x110000 := c.valid
  have hchar {value : Nat} (h : value = c.toNat) : Char.ofNat value = c := by
    rw [h, Char.ofNat_toNat]
  unfold bytesOfCode
  split
  · rename_i h
    rw [List.singleton_append, replacing, readFirst, if_pos h, hchar rfl]
    rfl
  · rename_i h1
    split
    · rename_i h2
      rw [List.cons_append, List.singleton_append, replacing,
        readFirst_of_two (Nat.le_of_not_lt h1) h2, List.nil_append,
        replacing_begun_zero rest (by omega) (by omega), hchar (by omega)]
    · rename_i h2
      split
      · rename_i h3
        obtain ⟨least, greatest, hfirst, hleast, hgreatest⟩ :=
          exists_readFirst_of_three (Nat.le_of_not_lt h2) h3 (hvalid.imp id And.left)
        simp only [List.cons_append, List.nil_append]
        rw [replacing, hfirst, List.nil_append, replacing_begun_succ _ hleast hgreatest,
          replacing_begun_zero rest (by omega) (by omega), hchar (by omega)]
      · rename_i h3
        obtain ⟨least, greatest, hfirst, hleast, hgreatest⟩ :=
          exists_readFirst_of_four (Nat.le_of_not_lt h3) (toNat_lt c)
        simp only [List.cons_append, List.nil_append]
        rw [replacing, hfirst, List.nil_append, replacing_begun_succ _ hleast hgreatest,
          replacing_begun_succ _ (by omega) (by omega),
          replacing_begun_zero rest (by omega) (by omega), hchar (by omega)]

/-- The bytes of a text are read as the text. -/
theorem replacing_bytesOf (text : List Char) : replacing none (bytesOf text) = text := by
  induction text with
  | nil => rfl
  | cons c rest ih => rw [bytesOf, List.flatMap_cons, replacing_bytesOfCode_append, ← bytesOf, ih]

/-- A byte that begins no character is replaced, and so is a character that breaks off; what comes
next is read on its own. -/
example : replacing none [0x41, 0xFF, 0xE2, 0x82, 0x42] = ['A', '\uFFFD', '\uFFFD', 'B'] := by
  decide

end EventTracking.Text.Utf8
