import EventTracking.Artifact
import Mathlib

/-!
# Words in generated code

Names of a source are words. In generated code a word is written plain or with the raw marker, as
the local that a field is bound to, or in snake case as a part of a file name.

Main statements: a word holds no other characters than those of words (`notMem_of_isWord`), neither
does its snake case (`notMem_snakeCase`), different words are written differently
(`writtenName_injective`), and the name that is found free for a local is a word
(`isWord_freeName`).
-/

namespace EventTracking

open Code Text

/-! ## Characters of words -/

namespace Text

/-- A word holds word characters only, the first of which starts a word. -/
theorem isWordStart_or_isWordPart_of_mem {text : List Char} {c : Char} (h : isWord text = true)
    (hc : c ∈ text) : isWordStart c = true ∨ isWordPart c = true := by
  cases text with
  | nil => cases hc
  | cons first rest =>
      rcases List.mem_cons.1 hc with rfl | hrest
      · rw [isWord, Bool.and_eq_true] at h
        exact .inl h.1
      · exact .inr (List.all_eq_true.1 (all_isWordPart_of_isWord_cons h) c hrest)

/-- A character that neither starts a word nor stands inside one is in no word. -/
theorem notMem_of_isWord {text : List Char} {c : Char} (h : isWord text = true)
    (hstart : isWordStart c = false) (hpart : isWordPart c = false) : c ∉ text := by
  intro hc
  rcases isWordStart_or_isWordPart_of_mem h hc with hw | hw
  · rw [hstart] at hw
    cases hw
  · rw [hpart] at hw
    cases hw

/-- A word with an underscore at its end is a word. -/
theorem isWord_append_underscore {text : List Char} (h : isWord text = true) :
    isWord (text ++ ['_']) = true := by
  cases text with
  | nil => cases h
  | cons first rest =>
      rw [isWord, Bool.and_eq_true] at h
      rw [List.cons_append, isWord, h.1, List.all_append, h.2]
      decide

/-! ## Snake case -/

/-- Snake case consists of the changed characters of the name and of underscores. -/
theorem mem_words {letter : Char → Char} {before : Option Char} {name : List Char} {c : Char}
    (h : c ∈ words letter before name) : c = '_' ∨ ∃ d ∈ name, c = letter d := by
  induction name generalizing before with
  | nil => cases h
  | cons first rest ih =>
      rw [words] at h
      have hrest (hc : c ∈ words letter (some first) rest) :
          c = '_' ∨ ∃ d ∈ first :: rest, c = letter d := by
        rcases ih hc with rfl | ⟨d, hd, rfl⟩
        · exact .inl rfl
        · exact .inr ⟨d, List.mem_cons_of_mem first hd, rfl⟩
      split at h
      · rcases List.mem_cons.1 h with rfl | h
        · exact .inl rfl
        · rcases List.mem_cons.1 h with rfl | h
          · exact .inr ⟨first, List.mem_cons_self, rfl⟩
          · exact hrest h
      · rcases List.mem_cons.1 h with rfl | h
        · exact .inr ⟨first, List.mem_cons_self, rfl⟩
        · exact hrest h

/-- What becomes a character that is no letter is that character. -/
theorem eq_of_toLower {c d : Char} (hd : d.isAlpha = false) (h : c.toLower = d) : c = d := by
  have halpha : c.isAlpha = false := by
    rw [← Char.isAlpha_toLower_eq_isAlpha, h]
    exact hd
  have hupper : ¬ c.isUpper := by
    intro hu
    rw [Char.isAlpha, hu, Bool.true_or] at halpha
    cases halpha
  rwa [Char.toLower_eq_of_not_isUpper hupper] at h

/-- The snake case of a name has no other characters than letters, underscores and those of the
name. -/
theorem notMem_snakeCase {name : String} {d : Char} (hd : d.isAlpha = false) (hu : d ≠ '_')
    (h : d ∉ name.toList) : d ∉ (snakeCase name).toList := by
  intro hc
  rw [snakeCase, String.toList_ofList] at hc
  rcases mem_words hc with rfl | ⟨c, hc, hlower⟩
  · exact hu rfl
  · exact h (eq_of_toLower hd hlower.symm ▸ hc)

end Text

/-! ## Names as they are written -/

/-- A name is written as it is or with the raw marker. -/
theorem writtenName_eq_or (name : String) :
    writtenName name = name ∨ writtenName name = "r#" ++ name := by
  unfold writtenName
  split
  · exact .inl rfl
  · exact .inr rfl

/-- A word holds no raw marker. -/
theorem ne_raw_of_isWord {word : String} (h : isWord word.toList = true) (name : String) :
    word ≠ "r#" ++ name := by
  rintro rfl
  have hhash : '#' ∉ ("r#" ++ name).toList :=
    notMem_of_isWord h (by decide) (by decide)
  apply hhash
  rw [String.toList_append]
  exact List.mem_append_left _ (by decide)

/-- Different words are written differently. -/
theorem writtenName_injective {name other : String} (hn : isWord name.toList = true)
    (ho : isWord other.toList = true) (h : writtenName name = writtenName other) :
    name = other := by
  rcases writtenName_eq_or name with hname | hname <;>
    rcases writtenName_eq_or other with hother | hother <;>
    rw [hname, hother] at h
  · exact h
  · exact absurd h (ne_raw_of_isWord hn other)
  · exact absurd h.symm (ne_raw_of_isWord ho name)
  · exact (String.append_right_inj "r#").1 h

/-! ## Locals -/

/-- The name that is found free is a word if it was looked for from a word. -/
theorem isWord_freeName {taken : List String} {fuel : Nat} {name : String}
    (h : isWord name.toList = true) : isWord (freeName taken fuel name).toList = true := by
  induction fuel generalizing name with
  | zero => exact h
  | succ fuel ih =>
      rw [freeName]
      split
      · apply ih
        rw [String.toList_append]
        exact isWord_append_underscore h
      · exact h

end EventTracking
