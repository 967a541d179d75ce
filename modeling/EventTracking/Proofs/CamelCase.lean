import EventTracking.Proofs.ArmLocals
import EventTracking.Proofs.CaseLaws

/-!
# Names in camel case

Types and variants are usually named by words that are put together, each with a capital at its
head, and fields by such words with a small first letter. A name of either kind has no underscores,
so that in snake case each underscore stands for a capital behind it: what snake case has made of
the name can be undone, but for the case of the first letter.

So names in camel case that differ are still different in snake case, and what is called after them
is different too: events, functions, files and keys.

Main statements: words that are put together are split into these words (`screamingCase_camelName`),
snake case is undone by reading each underscore as a capital (`unwords_words`), and so names of one
kind are told apart by it (`eq_of_snakeCase_eq`).
-/

namespace EventTracking

namespace Text

/-! ## Camel words -/

/-- A word of a name in camel case: a capital, then neither capitals nor underscores. -/
structure CamelWord where
  /-- The capital. -/
  capital : Char
  /-- The characters after it. -/
  rest : List Char
  /-- The first character is a capital. -/
  isUpper_capital : capital.isUpper = true
  /-- The others are none. -/
  isUpper_rest : ∀ c ∈ rest, c.isUpper = false
  /-- There is no underscore. -/
  underscore_notMem : '_' ∉ rest

/-- A word as it is written. -/
def CamelWord.text (word : CamelWord) : String := String.ofList (word.capital :: word.rest)

/-- The name that words make when they are put together. -/
def camelName (parts : List CamelWord) : String := String.join (parts.map CamelWord.text)

/-- A name in upper camel case: one or more words that are put together. -/
def IsUpperCamel (name : String) : Prop :=
  ∃ parts : List CamelWord, parts ≠ [] ∧ name = camelName parts

/-- Whether a name begins with a capital. -/
def beginsUpper (name : String) : Bool := name.toList.head?.any Char.isUpper

/-- A name in lower camel case: it has no underscores and does not begin with a capital. -/
def IsLowerCamel (name : String) : Prop := '_' ∉ name.toList ∧ beginsUpper name = false

instance (name : String) : Decidable (IsLowerCamel name) :=
  inferInstanceAs (Decidable ('_' ∉ name.toList ∧ beginsUpper name = false))

/-- No capital is an underscore. -/
theorem ne_underscore_of_isUpper {c : Char} (h : c.isUpper = true) : c ≠ '_' := by
  rintro rfl
  cases h

/-- The characters of a word. -/
theorem CamelWord.toList_text (word : CamelWord) : word.text.toList = word.capital :: word.rest :=
  String.toList_ofList

/-- There is no underscore in a word. -/
theorem CamelWord.notMem_text (word : CamelWord) : '_' ∉ word.text.toList := by
  rw [toList_text, List.mem_cons, not_or]
  exact ⟨(ne_underscore_of_isUpper word.isUpper_capital).symm, word.underscore_notMem⟩

/-- The characters of a name are those of its words. -/
theorem toList_camelName (parts : List CamelWord) :
    (camelName parts).toList = parts.flatMap fun word => word.text.toList := by
  rw [camelName, String.toList_join, List.flatMap_map]

/-- A name in upper camel case has no underscores and begins with a capital. -/
theorem IsUpperCamel.begins {name : String} (h : IsUpperCamel name) :
    '_' ∉ name.toList ∧ beginsUpper name = true := by
  obtain ⟨parts, hne, rfl⟩ := h
  obtain ⟨first, rest, rfl⟩ := List.exists_cons_of_ne_nil hne
  rw [beginsUpper, toList_camelName]
  constructor
  · rw [List.mem_flatMap]
    rintro ⟨word, -, hmem⟩
    exact word.notMem_text hmem
  · rw [List.flatMap_cons, first.toList_text]
    exact first.isUpper_capital

/-! ## Splitting words that are put together -/

/-- What comes later in a text is split by the character before it. -/
theorem words_append (letter : Char → Char) (before : Option Char) (text more : List Char) :
    words letter before (text ++ more) =
      words letter before text ++ words letter (text.getLast?.or before) more := by
  induction text generalizing before with
  | nil => rfl
  | cons c rest ih =>
      have hlast : (c :: rest).getLast?.or before = rest.getLast?.or (some c) := by
        rw [List.getLast?_cons]
        cases rest.getLast? <;> rfl
      rw [List.cons_append, words, words, ih, hlast]
      split <;> rfl

/-- A word at the head of a name is not split. -/
theorem CamelWord.words_text (letter : Char → Char) (word : CamelWord) :
    words letter none word.text.toList = word.text.toList.map letter := by
  rw [toList_text, words_none_cons, words_of_no_capitals letter _ word.isUpper_rest, List.map_cons]

/-- A word behind another character than an underscore is split from it. -/
theorem CamelWord.words_text_of_ne (letter : Char → Char) {before : Char} (h : before ≠ '_')
    (word : CamelWord) :
    words letter (some before) word.text.toList = '_' :: word.text.toList.map letter := by
  rw [toList_text, words_cons_of_isUpper letter _ word.isUpper_capital h,
    words_of_no_capitals letter _ word.isUpper_rest, List.map_cons]

/-- A word does not end in an underscore. -/
theorem CamelWord.exists_getLast?_text (word : CamelWord) :
    ∃ last, word.text.toList.getLast? = some last ∧ last ≠ '_' := by
  have hne : word.text.toList ≠ [] := by
    rw [toList_text]
    exact List.cons_ne_nil _ _
  refine ⟨_, List.getLast?_eq_some_getLast hne, ?_⟩
  intro hlast
  exact word.notMem_text (hlast ▸ List.getLast_mem hne)

/-- Words behind another character than an underscore are each split from what is before it. -/
theorem words_flatMap_text (letter : Char → Char) {before : Char} (h : before ≠ '_')
    (parts : List CamelWord) :
    words letter (some before) (parts.flatMap fun word => word.text.toList) =
      parts.flatMap fun word => '_' :: word.text.toList.map letter := by
  induction parts generalizing before with
  | nil => rfl
  | cons word rest ih =>
      obtain ⟨last, hlast, hne⟩ := word.exists_getLast?_text
      rw [List.flatMap_cons, List.flatMap_cons, words_append, word.words_text_of_ne letter h, hlast,
        Option.some_or, ih hne]

/-- Texts with underscores between them: the first, and each other one behind an underscore. -/
theorem toList_intercalate_cons (first : String) (rest : List String) :
    ("_".intercalate (first :: rest)).toList =
      first.toList ++ rest.flatMap fun text => '_' :: text.toList := by
  induction rest generalizing first with
  | nil => rw [String.intercalate_singleton, List.flatMap_nil, List.append_nil]
  | cons next more ih =>
      rw [String.intercalate_cons_cons, String.toList_append, String.toList_append, ih,
        List.flatMap_cons, List.append_assoc]
      rfl

/-- Words that are put together become these words in capitals with underscores between them. -/
theorem screamingCase_camelName {parts : List CamelWord} (h : parts ≠ []) :
    screamingCase (camelName parts) =
      "_".intercalate (parts.map fun word => word.text.toUpper) := by
  obtain ⟨first, rest, rfl⟩ := List.exists_cons_of_ne_nil h
  obtain ⟨last, hlast, hne⟩ := first.exists_getLast?_text
  have hupper (word : CamelWord) :
      word.text.toUpper.toList = word.text.toList.map Char.toUpper := String.toList_map
  rw [← String.toList_inj, List.map_cons, toList_intercalate_cons, screamingCase,
    String.toList_ofList, toList_camelName, List.flatMap_cons, words_append, first.words_text,
    hlast, Option.some_or, words_flatMap_text _ hne, hupper, List.flatMap_map]
  simp only [hupper]

/-! ## Undoing snake case -/

/-- Reads an underscore as the mark of a capital. -/
def unwords : List Char → List Char
  | [] => []
  | '_' :: c :: rest => c.toUpper :: unwords rest
  | c :: rest => c :: unwords rest

/-- Nothing but an underscore is read as a mark. -/
theorem unwords_cons_of_ne {c : Char} (h : c ≠ '_') (rest : List Char) :
    unwords (c :: rest) = c :: unwords rest := by
  rw [unwords]
  rintro _ _ rfl
  exact absurd rfl h

/-- A text without underscores is found again in its words, behind another character. -/
theorem unwords_words {text : List Char} (h : '_' ∉ text) {before : Char} (hb : before ≠ '_') :
    unwords (words Char.toLower (some before) text) = text := by
  induction text generalizing before with
  | nil => rfl
  | cons c rest ih =>
      rw [List.mem_cons, not_or] at h
      obtain ⟨hc, hrest⟩ := h
      have hne : c ≠ '_' := Ne.symm hc
      cases hupper : c.isUpper with
      | true =>
          have hback : c.toLower.toUpper = c := by
            rw [Char.toUpper_toLower_eq_toUpper]
            exact Char.toUpper_eq_of_not_isLower (Char.not_isLower_of_isUpper hupper)
          rw [words_cons_of_isUpper Char.toLower rest hupper hb, unwords, hback, ih hrest hne]
      | false =>
          have hsame : c.toLower = c := Char.toLower_eq_of_not_isUpper (by simp [hupper])
          rw [words_cons_of_not_isUpper Char.toLower _ rest hupper, hsame, unwords_cons_of_ne hne,
            ih hrest hne]

/-- A text without underscores is found again in its words, but for the case of its first letter. -/
theorem unwords_words_none {text : List Char} (h : '_' ∉ text) :
    unwords (words Char.toLower none text) = text.modifyHead Char.toLower := by
  cases text with
  | nil => rfl
  | cons c rest =>
      rw [List.mem_cons, not_or] at h
      obtain ⟨hc, hrest⟩ := h
      have hne : c.toLower ≠ '_' := fun heq => hc (eq_of_toLower (by decide) heq).symm
      rw [words_none_cons, unwords_cons_of_ne hne, unwords_words hrest (Ne.symm hc),
        List.modifyHead_cons]

/-- A character is known from its lower case and from whether it is a capital. -/
theorem eq_of_toLower_eq {c d : Char} (hupper : c.isUpper = d.isUpper)
    (h : c.toLower = d.toLower) : c = d := by
  cases hc : c.isUpper with
  | true =>
      have hd : d.isUpper = true := hupper ▸ hc
      have hsame := congrArg Char.toUpper h
      rwa [Char.toUpper_toLower_eq_toUpper, Char.toUpper_toLower_eq_toUpper,
        Char.toUpper_eq_of_not_isLower (Char.not_isLower_of_isUpper hc),
        Char.toUpper_eq_of_not_isLower (Char.not_isLower_of_isUpper hd)] at hsame
  | false =>
      have hd : d.isUpper = false := hupper ▸ hc
      rwa [Char.toLower_eq_of_not_isUpper (by simp [hc]),
        Char.toLower_eq_of_not_isUpper (by simp [hd])] at h

/-- Names without underscores are told apart by their snake case, if both of them or none begins
with a capital. -/
theorem eq_of_snakeCase_eq {name other : String} (hname : '_' ∉ name.toList)
    (hother : '_' ∉ other.toList) (hbegins : beginsUpper name = beginsUpper other)
    (h : snakeCase name = snakeCase other) : name = other := by
  have hwords := congrArg (fun text => unwords text.toList) h
  simp only [snakeCase, String.toList_ofList] at hwords
  rw [unwords_words_none hname, unwords_words_none hother] at hwords
  rw [beginsUpper, beginsUpper] at hbegins
  rw [← String.toList_inj]
  cases hn : name.toList with
  | nil =>
      rw [hn, List.modifyHead_nil] at hwords
      cases ho : other.toList with
      | nil => rfl
      | cons d more =>
          rw [ho] at hwords
          cases hwords
  | cons c rest =>
      cases ho : other.toList with
      | nil =>
          rw [hn, ho] at hwords
          cases hwords
      | cons d more =>
          rw [hn, ho, List.modifyHead_cons, List.modifyHead_cons, List.cons.injEq] at hwords
          rw [hn, ho] at hbegins
          rw [eq_of_toLower_eq hbegins hwords.1, hwords.2]

/-- Names in upper camel case are told apart by their snake case. -/
theorem IsUpperCamel.eq_of_snakeCase {name other : String} (hname : IsUpperCamel name)
    (hother : IsUpperCamel other) (h : snakeCase name = snakeCase other) : name = other :=
  eq_of_snakeCase_eq hname.begins.1 hother.begins.1
    (hname.begins.2.trans hother.begins.2.symm) h

/-- Names in upper camel case are told apart by their screaming snake case. -/
theorem IsUpperCamel.eq_of_screamingCase {name other : String} (hname : IsUpperCamel name)
    (hother : IsUpperCamel other) (h : screamingCase name = screamingCase other) :
    name = other := by
  apply hname.eq_of_snakeCase hother
  rw [snakeCase_eq, snakeCase_eq, h]

/-- Names in lower camel case are told apart by their snake case. -/
theorem IsLowerCamel.eq_of_snakeCase {name other : String} (hname : IsLowerCamel name)
    (hother : IsLowerCamel other) (h : snakeCase name = snakeCase other) : name = other :=
  eq_of_snakeCase_eq hname.1 hother.1 (hname.2.trans hother.2.symm) h

end Text

open Code Text

/-! ## What is called after names -/

/-- The events of a discovered group are named below the group. -/
theorem name_of_mem_events {project : Project} {group : EventGroup} {event : Event}
    (hgroup : group ∈ project.groups) (hevent : event ∈ group.registry.events) :
    event.name = group.name.child event.name.simple := by
  obtain ⟨declaration, hmem, hmake⟩ := Project.mem_groups_iff.1 hgroup
  obtain ⟨file, -, placed, -, hplaced⟩ := Project.mem_declarations_iff.1 hmem
  obtain ⟨heligible, -, rfl⟩ := Declaration.toGroup_eq_ok_iff.1 hmake
  obtain ⟨⟨item, hkind⟩, -⟩ := Declaration.ineligible?_eq_none_iff.1 heligible
  obtain ⟨attributes, name, generics, variants, hitem, -⟩ :=
    PlacedItem.exists_enum_of_closed hplaced hkind
  obtain ⟨variant, -, hname, -, -⟩ := exists_variant_of_mem_registry hitem hplaced hevent
  rw [hname, QualifiedName.simple_child]
  rfl

/-- The events of a discovered group have different names. -/
theorem nodup_names_of_mem_groups {project : Project} {group : EventGroup}
    (hgroup : group ∈ project.groups) : group.registry.names.Nodup := by
  obtain ⟨declaration, -, hmake⟩ := Project.mem_groups_iff.1 hgroup
  obtain ⟨-, -, rfl⟩ := Declaration.toGroup_eq_ok_iff.1 hmake
  rw [Declaration.group, Declaration.registry, Registry.names, Registry.events_ofList]
  exact Ordered.nodup_map_putAll_nil Event.name _

/-- Events of one group whose variants are in upper camel case are tracked under different names. -/
theorem eq_of_eventName_eq {project : Project} {group : EventGroup} {event other : Event}
    (hgroup : group ∈ project.groups) (hevent : event ∈ group.registry.events)
    (hother : other ∈ group.registry.events) (hname : IsUpperCamel event.name.simple)
    (hotherName : IsUpperCamel other.name.simple) (h : event.eventName = other.eventName) :
    event = other := by
  have hsimple := hname.eq_of_screamingCase hotherName h
  have hsame : event.name = other.name := by
    rw [name_of_mem_events hgroup hevent, name_of_mem_events hgroup hother, hsimple]
  exact List.inj_on_of_nodup_map (nodup_names_of_mem_groups hgroup) hevent hother hsame

/-- Groups in upper camel case that share their function or their file have the same simple name. -/
theorem simple_eq_of_artifact_eq {group other : QualifiedName} (hgroup : IsUpperCamel group.simple)
    (hother : IsUpperCamel other.simple)
    (h : trackingFunction group = trackingFunction other ∨
      artifactFile group = artifactFile other) :
    group.simple = other.simple := by
  apply hgroup.eq_of_snakeCase hother
  rcases h with hfunction | hfile
  · exact (String.append_right_inj "track_").1 hfunction
  · have hstart := (String.append_left_inj ".rs").1 hfile
    exact (String.append_right_inj fileStart).1 hstart

/-- Fields in lower camel case have different keys. -/
theorem Event.nodup_keys {event : Event} (hfields : event.fields.Nodup)
    (hcamel : ∀ field ∈ event.fields, IsLowerCamel field) : event.keys.Nodup := by
  rw [keys, nodup_map_snakeCase_iff hfields]
  intro field hfield other hother hne heq
  exact hne ((hcamel field hfield).eq_of_snakeCase (hcamel other hother) heq)

/-- Words that are put together become these words in capitals with underscores between them. Names
in upper camel case that are the same in snake case or in screaming snake case are the same, and so
are names in lower camel case that are the same in snake case. So the variants of a group have
different event names if they are in upper camel case, groups in upper camel case have different
functions and files, and fields in lower camel case have different keys. -/
theorem distinct_of_camelCase :
    (∀ parts : List CamelWord, parts ≠ [] →
      screamingCase (camelName parts) =
        "_".intercalate (parts.map fun word => word.text.toUpper)) ∧
    (∀ name other, IsUpperCamel name → IsUpperCamel other →
      screamingCase name = screamingCase other ∨ snakeCase name = snakeCase other →
        name = other) ∧
    (∀ name other, IsLowerCamel name → IsLowerCamel other → snakeCase name = snakeCase other →
      name = other) ∧
    (∀ project : Project, ∀ group ∈ project.groups, ∀ event ∈ group.registry.events,
      ∀ other ∈ group.registry.events, IsUpperCamel event.name.simple →
        IsUpperCamel other.name.simple → event.eventName = other.eventName → event = other) ∧
    (∀ group other : QualifiedName, IsUpperCamel group.simple → IsUpperCamel other.simple →
      trackingFunction group = trackingFunction other ∨ artifactFile group = artifactFile other →
        group.simple = other.simple) ∧
    ∀ event : Event, event.fields.Nodup → (∀ field ∈ event.fields, IsLowerCamel field) →
      event.keys.Nodup := by
  refine ⟨fun _ hne => screamingCase_camelName hne, ?_, ?_, ?_, ?_, ?_⟩
  · rintro name other hname hother (hscreaming | hsnake)
    · exact hname.eq_of_screamingCase hother hscreaming
    · exact hname.eq_of_snakeCase hother hsnake
  · intro name other hname hother
    exact hname.eq_of_snakeCase hother
  · intro project group hgroup event hevent other hother
    exact eq_of_eventName_eq hgroup hevent hother
  · intro group other hgroup hother
    exact simple_eq_of_artifact_eq hgroup hother
  · intro event hfields
    exact event.nodup_keys hfields

/-- The word `Button`. -/
def buttonWord : CamelWord where
  capital := 'B'
  rest := ['u', 't', 't', 'o', 'n']
  isUpper_capital := by decide
  isUpper_rest := by simp
  underscore_notMem := by decide

/-- The word `Clicked`. -/
def clickedWord : CamelWord where
  capital := 'C'
  rest := ['l', 'i', 'c', 'k', 'e', 'd']
  isUpper_capital := by decide
  isUpper_rest := by simp
  underscore_notMem := by decide

/-- The word `Hovered`. -/
def hoveredWord : CamelWord where
  capital := 'H'
  rest := ['o', 'v', 'e', 'r', 'e', 'd']
  isUpper_capital := by decide
  isUpper_rest := by simp
  underscore_notMem := by decide

/-- A file with a marked enum, whose names are all in camel case. -/
def buttonFile : File where
  path := "src/lib.rs"
  place := .root
  outline := ⟨[.enum [.mark 1] (.plain "Button" (by decide)) ⟨0, 0⟩
    [⟨.plain "ButtonClicked" (by decide),
      .named [.plain "itemId" (by decide), .plain "item2Id" (by decide)]⟩,
     ⟨.plain "Hovered" (by decide), .none⟩]]⟩

/-- The names of that enum are kept apart. -/
theorem distinct_of_buttonFile :
    screamingCase "ButtonClicked" = "BUTTON_CLICKED" ∧
    snakeCase "ButtonClicked" ≠ snakeCase "Hovered" ∧
    snakeCase "itemId" ≠ snakeCase "item2Id" ∧
    (∃ group ∈ (⟨[buttonFile]⟩ : Project).groups, ∃ event ∈ group.registry.events,
      ∃ other ∈ group.registry.events, event.eventName ≠ other.eventName ∧
        event.fields = ["itemId", "item2Id"] ∧ event.keys.Nodup) ∧
    artifactFile ⟨["crate", "Button"]⟩ ≠ artifactFile ⟨["crate", "Hovered"]⟩ := by
  obtain ⟨hsplit, hupper, hlower, hevents, hgroups, hkeys⟩ := distinct_of_camelCase
  have hname : camelName [buttonWord, clickedWord] = "ButtonClicked" := by decide
  have hbutton : IsUpperCamel "Button" := ⟨[buttonWord], by simp, by decide⟩
  have hclicked : IsUpperCamel "ButtonClicked" :=
    ⟨[buttonWord, clickedWord], by simp, hname.symm⟩
  have hhovered : IsUpperCamel "Hovered" := ⟨[hoveredWord], by simp, by decide⟩
  refine ⟨?_, ?_, ?_, ?_, ?_⟩
  · rw [← hname, hsplit [buttonWord, clickedWord] (by simp)]
    cbv
  · intro h
    exact absurd (hupper _ _ hclicked hhovered (.inr h)) (by decide)
  · intro h
    exact absurd (hlower _ _ (by decide) (by decide) h) (by decide)
  · have hgroup : _ ∈ (⟨[buttonFile]⟩ : Project).groups := List.mem_singleton_self _
    refine ⟨_, hgroup, _, List.mem_cons_self, _,
      List.mem_cons_of_mem _ (List.mem_singleton_self _), ?_, rfl, hkeys _ ?_ ?_⟩
    · intro h
      have hsame := hevents _ _ hgroup _ List.mem_cons_self _
        (List.mem_cons_of_mem _ (List.mem_singleton_self _)) hclicked hhovered h
      exact absurd (congrArg Event.fields hsame) (by decide)
    · decide
    · decide
  · intro h
    exact absurd (hgroups ⟨["crate", "Button"]⟩ ⟨["crate", "Hovered"]⟩ hbutton hhovered (.inr h))
      (by decide)

end EventTracking
