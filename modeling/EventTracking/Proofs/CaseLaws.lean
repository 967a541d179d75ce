import EventTracking.Proofs.PayloadKeys
import EventTracking.Proofs.Words

/-!
# Laws of snake case

A name in snake case has no capitals left, so it is not split any further, whatever characters stand
next to each other in it. And splitting only looks at the name, not at what becomes of its letters:
screaming snake case makes the same words in the other case.

Apart from the case of letters, snake case only adds underscores. What a name holds is still there,
in its order, and nothing else is there but further underscores.

Main statements: what is done to each letter can be done before or after the split (`map_words`),
the underscores aside a split changes nothing but letters (`filter_words`), and it leaves nothing
out (`sublist_words`).
-/

namespace EventTracking

namespace Text

/-! ## Changing letters -/

/-- A change that keeps underscores can be made to the words or to the letters they are made of. -/
theorem map_words {change : Char → Char} (hchange : change '_' = '_') (letter : Char → Char)
    (before : Option Char) (text : List Char) :
    (words letter before text).map change = words (change ∘ letter) before text := by
  induction text generalizing before with
  | nil => rfl
  | cons c rest ih =>
      rw [words, words, ← ih]
      split
      · rw [List.map_cons, List.map_cons, hchange, Function.comp_apply]
      · rw [List.map_cons, Function.comp_apply]

/-- Screaming snake case is snake case in capitals. -/
theorem screamingCase_eq (name : String) : screamingCase name = (snakeCase name).toUpper := by
  have hletter : Char.toUpper ∘ Char.toLower = Char.toUpper :=
    funext Char.toUpper_toLower_eq_toUpper
  rw [← String.toList_inj, String.toUpper, String.toList_map, screamingCase, snakeCase,
    String.toList_ofList, String.toList_ofList, map_words (by decide), hletter]

/-- Snake case is screaming snake case in small letters. -/
theorem snakeCase_eq (name : String) : snakeCase name = (screamingCase name).toLower := by
  have hletter : Char.toLower ∘ Char.toUpper = Char.toLower :=
    funext Char.toLower_toUpper_eq_toLower
  rw [← String.toList_inj, String.toLower, String.toList_map, screamingCase, snakeCase,
    String.toList_ofList, String.toList_ofList, map_words (by decide), hletter]

/-! ## Capitals -/

/-- There are no capitals in snake case. -/
theorem isUpper_of_mem_snakeCase {name : String} {c : Char} (h : c ∈ (snakeCase name).toList) :
    c.isUpper = false := by
  rw [snakeCase, String.toList_ofList] at h
  rcases mem_words h with rfl | ⟨d, -, rfl⟩
  · decide
  · exact Char.isUpper_toLower_eq_false d

/-! ## Underscores -/

/-- A text without its underscores. -/
def withoutUnderscores (text : String) : String := String.ofList (text.toList.filter (· != '_'))

/-- Underscores aside, nothing changes but letters, as long as no letter becomes an underscore. -/
theorem filter_words {letter : Char → Char} (hletter : ∀ c, letter c = '_' ↔ c = '_')
    (before : Option Char) (text : List Char) :
    (words letter before text).filter (· != '_') = (text.filter (· != '_')).map letter := by
  have hcons (c : Char) (changed rest : List Char) (h : changed.filter (· != '_') =
      (rest.filter (· != '_')).map letter) :
      (letter c :: changed).filter (· != '_') = ((c :: rest).filter (· != '_')).map letter := by
    by_cases hc : c = '_'
    · have hchanged : letter c = '_' := (hletter c).2 hc
      rw [List.filter_cons_of_neg (by simp [hchanged]), List.filter_cons_of_neg (by simp [hc]), h]
    · have hchanged : letter c ≠ '_' := fun heq => hc ((hletter c).1 heq)
      rw [List.filter_cons_of_pos (by simp [hchanged]), List.filter_cons_of_pos (by simp [hc]),
        List.map_cons, h]
  induction text generalizing before with
  | nil => rfl
  | cons c rest ih =>
      rw [words]
      split
      · -- the underscore that was added is left out again
        rw [List.filter_cons_of_neg (by decide)]
        exact hcons c _ rest (ih _)
      · exact hcons c _ rest (ih _)

/-- Every letter of a text is still there, in order. -/
theorem sublist_words (letter : Char → Char) (before : Option Char) (text : List Char) :
    (text.map letter).Sublist (words letter before text) := by
  induction text generalizing before with
  | nil => exact .slnil
  | cons c rest ih =>
      rw [words, List.map_cons]
      split
      · exact ((ih (some c)).cons_cons (letter c)).cons '_'
      · exact (ih (some c)).cons_cons (letter c)

end Text

open Text

/-! ## Laws -/

/-- Snake case leaves what is in snake case as it is. Screaming snake case is snake case in
capitals, of the name and of its snake case alike. Without its underscores the snake case of a name
is the name without its underscores in small letters; those that the name had are still there. -/
theorem laws_of_snakeCase (name : String) :
    snakeCase (snakeCase name) = snakeCase name ∧
    screamingCase name = (snakeCase name).toUpper ∧
    screamingCase (snakeCase name) = screamingCase name ∧
    withoutUnderscores (snakeCase name) = (withoutUnderscores name).toLower ∧
    name.toLower.toList.Sublist (snakeCase name).toList := by
  have hagain : snakeCase (snakeCase name) = snakeCase name :=
    snakeCase_of_no_capitals fun _ hc => isUpper_of_mem_snakeCase hc
  have hletter (c : Char) : c.toLower = '_' ↔ c = '_' := by
    constructor
    · exact eq_of_toLower (by decide)
    · rintro rfl
      rfl
  refine ⟨hagain, screamingCase_eq name, ?_, ?_, ?_⟩
  · rw [screamingCase_eq, hagain, screamingCase_eq]
  · rw [← String.toList_inj, String.toLower, String.toList_map, withoutUnderscores,
      withoutUnderscores, String.toList_ofList, String.toList_ofList, snakeCase,
      String.toList_ofList, filter_words hletter]
  · rw [String.toLower, String.toList_map, snakeCase, String.toList_ofList]
    exact sublist_words Char.toLower none name.toList

/-- Capitals that stand together are all split, and one behind an underscore is not. -/
example : snakeCase "HTTPRequest" = "h_t_t_p_request" ∧ snakeCase "user_Id" = "user_id" := by
  decide

end EventTracking
