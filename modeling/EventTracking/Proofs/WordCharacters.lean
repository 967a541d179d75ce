import EventTracking.Text.Blank
import EventTracking.Text.SnakeCase
import EventTracking.Text.Word
import Mathlib

/-!
# Characters of words and blanks

The characters that start words, those that words go on with and the blanks are given by tables of
code points. Facts that hold for all characters are read off the tables: two sets of code points are
compared boundary by boundary, and a set of few points is listed.

Main statements: a set lies within another one if it does so between any two boundaries
(`contains_of_isWithin`), so that whatever starts a word may also stand inside one
(`isWordPart_of_isWordStart`), and no word begins with a blank (`isGap_of_isWordStart`).
-/

namespace EventTracking.Text

/-! ## Sets of code points -/

/-- At each boundary that is passed the set is entered or left. -/
theorem contains_cons (first : Nat) (rest : List Nat) (point : Nat) :
    (CodePoints.mk (first :: rest)).contains point =
      (decide (first ≤ point) && !(CodePoints.mk rest).contains point) := by
  by_cases h : first ≤ point
  · simp only [CodePoints.contains, List.takeWhile_cons, h, decide_true, if_true, List.length_cons,
      Bool.true_and]
    rcases Nat.mod_two_eq_zero_or_one (rest.takeWhile (· ≤ point)).length with heven | hodd
    · rw [Nat.add_mod, heven]
      rfl
    · rw [Nat.add_mod, hodd]
      rfl
  · simp [CodePoints.contains, h]

/-- Beyond a boundary the set goes on as one that is entered, or left, already. -/
theorem xor_contains_of_le {first point : Nat} (h : first ≤ point) (state : Bool)
    (rest : List Nat) :
    (state ^^ (CodePoints.mk (first :: rest)).contains point) =
      (!state ^^ (CodePoints.mk rest).contains point) := by
  rw [contains_cons, decide_eq_true h, Bool.true_and, Bool.xor_not, Bool.not_xor]

/-- Before the first boundary nothing has changed. -/
theorem xor_contains_of_lt {first point : Nat} (h : point < first) (state : Bool)
    (rest : List Nat) : (state ^^ (CodePoints.mk (first :: rest)).contains point) = state := by
  rw [CodePoints.contains_cons_of_lt h, Bool.xor_false]

/-- A set holds the code points between its first two boundaries and those of the rest. -/
theorem contains_cons_cons {first second : Nat} {rest : List Nat} (point : Nat) :
    (CodePoints.mk (first :: second :: rest)).contains point =
      (decide (first ≤ point) &&
        (!decide (second ≤ point) || (CodePoints.mk rest).contains point)) := by
  rw [contains_cons, contains_cons, Bool.not_and, Bool.not_not]

/-- Whether the code points between any two boundaries belong to the outer set if they belong to the
inner one, given whether those before the first boundary do. -/
def isWithin : (fuel : Nat) → (inner outer : Bool) → List Nat → List Nat → Bool
  | 0, _, _, _, _ => false
  | _ + 1, inner, outer, [], [] => !inner || outer
  | fuel + 1, inner, outer, _ :: rest, [] =>
    (!inner || outer) && isWithin fuel (!inner) outer rest []
  | fuel + 1, inner, outer, [], _ :: others =>
    (!inner || outer) && isWithin fuel inner (!outer) [] others
  | fuel + 1, inner, outer, first :: rest, other :: others =>
    (!inner || outer) &&
      if first < other then isWithin fuel (!inner) outer rest (other :: others)
      else if other < first then isWithin fuel inner (!outer) (first :: rest) others
      else isWithin fuel (!inner) (!outer) rest others

/-- A code point belongs to the outer set if it belongs to the inner one. -/
theorem contains_of_isWithin {fuel : Nat} {inner outer : Bool} {boundaries others : List Nat}
    (h : isWithin fuel inner outer boundaries others = true) (point : Nat)
    (hinner : (inner ^^ (CodePoints.mk boundaries).contains point) = true) :
    (outer ^^ (CodePoints.mk others).contains point) = true := by
  have houter {inner outer : Bool} (h : (!inner || outer) = true) (hinner : inner = true) :
      outer = true := by
    rwa [hinner, Bool.not_true, Bool.false_or] at h
  fun_induction isWithin fuel inner outer boundaries others with
  | case1 => cases h
  | case2 =>
      rw [CodePoints.contains_nil, Bool.xor_false] at hinner ⊢
      exact houter h hinner
  | case3 _ inner outer first rest ih =>
      rw [Bool.and_eq_true] at h
      rcases Nat.lt_or_ge point first with hlt | hle
      · rw [xor_contains_of_lt hlt] at hinner
        rw [CodePoints.contains_nil, Bool.xor_false]
        exact houter h.1 hinner
      · rw [xor_contains_of_le hle] at hinner
        exact ih h.2 hinner
  | case4 _ inner outer other others ih =>
      rw [Bool.and_eq_true] at h
      rcases Nat.lt_or_ge point other with hlt | hle
      · rw [CodePoints.contains_nil, Bool.xor_false] at hinner
        rw [xor_contains_of_lt hlt]
        exact houter h.1 hinner
      · rw [xor_contains_of_le hle]
        exact ih h.2 hinner
  | case5 _ inner outer first rest other others ihFirst ihOther ihBoth =>
      rw [Bool.and_eq_true] at h
      rcases Nat.lt_or_ge point (min first other) with hlt | hle
      · rw [xor_contains_of_lt (Nat.lt_of_lt_of_le hlt (Nat.min_le_left _ _))] at hinner
        rw [xor_contains_of_lt (Nat.lt_of_lt_of_le hlt (Nat.min_le_right _ _))]
        exact houter h.1 hinner
      · obtain ⟨-, hrest⟩ := h
        split at hrest
        · rw [xor_contains_of_le (by omega)] at hinner
          exact ihFirst hrest hinner
        · split at hrest
          · rw [xor_contains_of_le (by omega)]
            exact ihOther hrest hinner
          · rw [xor_contains_of_le (by omega)] at hinner ⊢
            exact ihBoth hrest hinner

/-- The characters that start words are among those that words go on with. -/
theorem isWithin_xidStart :
    isWithin (xidStart.boundaries.length + xidContinue.boundaries.length) false false
      xidStart.boundaries xidContinue.boundaries = true := by
  decide +kernel

/-- Whatever starts a word may also stand inside one. -/
theorem isWordPart_of_isWordStart {c : Char} (h : isWordStart c = true) : isWordPart c = true := by
  by_cases hascii : c.toNat < 0x80
  · exact isWordPart_of_isWordStart_of_ascii hascii h
  · rw [isWordStart, if_neg hascii] at h
    rw [isWordPart, if_neg hascii]
    have hinner : (false ^^ (CodePoints.mk xidStart.boundaries).contains c.toNat) = true := by
      rwa [Bool.false_xor]
    have houter := contains_of_isWithin isWithin_xidStart c.toNat hinner
    rwa [Bool.false_xor] at houter

/-! ## Blanks and words -/

/-- The code points that may stand between tokens. -/
def gapPoints : List Nat :=
  [0x9, 0xA, 0xB, 0xC, 0xD, 0x20, 0x85, 0xA0, 0x1680, 0x2000, 0x2001, 0x2002, 0x2003, 0x2004,
   0x2005, 0x2006, 0x2007, 0x2008, 0x2009, 0x200A, 0x200E, 0x200F, 0x2028, 0x2029, 0x202F, 0x205F,
   0x3000]

/-- There are no other blanks. -/
theorem mem_gapPoints {c : Char} (h : isGap c = true) : c.toNat ∈ gapPoints := by
  have toNat_eq {d : Char} (heq : c = d) : c.toNat = d.toNat := heq ▸ rfl
  simp only [isGap, isBlank, whiteSpace, contains_cons_cons, CodePoints.contains_nil,
    Bool.or_eq_true, Bool.and_eq_true, Bool.not_eq_true', decide_eq_true_eq,
    decide_eq_false_iff_not, beq_iff_eq, Bool.false_eq_true, or_false] at h
  simp only [gapPoints, List.mem_cons, List.not_mem_nil, or_false]
  rcases h with (hblank | hleft) | hright
  · omega
  · have hpoint : c.toNat = 0x200E := toNat_eq hleft
    omega
  · have hpoint : c.toNat = 0x200F := toNat_eq hright
    omega

/-- No word begins with a blank. -/
theorem isGap_of_isWordStart {c : Char} (h : isWordStart c = true) : isGap c = false := by
  have hstart : ∀ point ∈ gapPoints, xidStart.contains point = false := by decide +kernel
  have hascii : ∀ point ∈ gapPoints, point < 0x80 → isWordStart (Char.ofNat point) = false := by
    decide +kernel
  rw [Bool.eq_false_iff]
  intro hgap
  have hmem := mem_gapPoints hgap
  by_cases hlow : c.toNat < 0x80
  · have hfalse := hascii c.toNat hmem hlow
    rw [Char.ofNat_toNat, h] at hfalse
    cases hfalse
  · rw [isWordStart, if_neg hlow, hstart c.toNat hmem] at h
    cases h

/-- No digit starts a word. -/
theorem isDigit_of_isWordStart {c : Char} (h : isWordStart c = true) : c.isDigit = false := by
  rw [Bool.eq_false_iff]
  intro hdigit
  have hpoint : 48 ≤ c.toNat ∧ c.toNat ≤ 57 := by
    simpa [Char.isDigit, UInt32.le_iff_toNat_le] using hdigit
  have hascii : c.toNat < 0x80 := by omega
  rw [isWordStart, if_pos hascii] at h
  simp only [Bool.or_eq_true, beq_iff_eq] at h
  rcases h with halpha | rfl
  · simp only [Char.isAlpha, Char.isUpper, Char.isLower, ge_iff_le, UInt32.le_iff_toNat_le,
      Bool.or_eq_true, Bool.and_eq_true, decide_eq_true_eq] at halpha
    simp at halpha hpoint
    omega
  · simp at hpoint

/-- The lower case of what stands inside a word may stand inside one. -/
theorem isWordPart_toLower {c : Char} (h : isWordPart c = true) : isWordPart c.toLower = true := by
  by_cases hupper : c.isUpper = true
  · have hlower : ∀ point < 0x5B, (Char.ofNat point).isUpper = true →
        isWordPart (Char.ofNat point).toLower = true := by
      decide
    have hpoint : c.toNat < 0x5B := by
      have hrange : 65 ≤ c.toNat ∧ c.toNat ≤ 90 := by
        simpa [Char.isUpper, UInt32.le_iff_toNat_le] using hupper
      omega
    have hchar := hlower c.toNat hpoint
    rw [Char.ofNat_toNat] at hchar
    exact hchar hupper
  · rwa [Char.toLower_eq_of_not_isUpper hupper]

end EventTracking.Text
