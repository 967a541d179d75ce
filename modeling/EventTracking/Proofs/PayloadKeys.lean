import EventTracking.Artifact
import EventTracking.Proofs.Discovery
import EventTracking.Proofs.DistinctKeys

/-!
# Keys of payloads

The arm of an event writes its payload as a literal with a key and a value for each field. The key
is the field's name in snake case, and snake case makes some names the same: `userId` and `user_id`
both become `user_id`. When the literal is evaluated, a repeated key keeps its last value only.

So a payload has an entry for each field exactly if no two fields have one name in snake case.

Main statements: nothing of the literal is lost exactly if the keys are different
(`entries_payload_eq_iff`), and there are as many entries as different keys (`size_payload`).
-/

namespace EventTracking

open Code Text Line
open Payload (Value)

/-! ## Snake case -/

/-- No two different names of a list are the same in snake case. -/
def ApartInSnakeCase (names : List String) : Prop :=
  ∀ name ∈ names, ∀ other ∈ names, name ≠ other → snakeCase name ≠ snakeCase other

instance (names : List String) : Decidable (ApartInSnakeCase names) :=
  inferInstanceAs (Decidable (∀ name ∈ names, ∀ other ∈ names,
    name ≠ other → snakeCase name ≠ snakeCase other))

/-- Words without capitals are only changed in their letters. -/
theorem words_of_no_capitals (letter : Char → Char) (before : Option Char) {text : List Char}
    (h : ∀ c ∈ text, c.isUpper = false) : words letter before text = text.map letter := by
  induction text generalizing before with
  | nil => rfl
  | cons c rest ih =>
      have hrest : ∀ c ∈ rest, c.isUpper = false := fun c hc => h c (List.mem_cons_of_mem _ hc)
      rw [words_cons_of_not_isUpper letter before rest (h c List.mem_cons_self), ih _ hrest,
        List.map_cons]

/-- A name without capitals is the same in snake case. -/
theorem snakeCase_of_no_capitals {name : String} (h : ∀ c ∈ name.toList, c.isUpper = false) :
    snakeCase name = name := by
  have hlower : name.toList.map Char.toLower = name.toList := by
    rw [List.map_congr_left fun c hc => Char.toLower_eq_of_not_isUpper (by simp [h c hc])]
    exact List.map_id' _
  rw [snakeCase, words_of_no_capitals _ _ h, hlower, String.ofList_toList]

/-- Different names have different keys exactly if they are apart in snake case. -/
theorem nodup_map_snakeCase_iff {names : List String} (h : names.Nodup) :
    (names.map snakeCase).Nodup ↔ ApartInSnakeCase names := by
  rw [List.nodup_map_iff_inj_on h]
  constructor
  · intro hinj name hname other hother hne heq
    exact hne (hinj name hname other hother heq)
  · intro hapart name hname other hother heq
    by_contra hne
    exact hapart name hname other hother hne heq

namespace Event

/-! ## Literals -/

/-- The line of an entry in a payload literal. -/
def entryLine (runtime : String) (entry : String × String) : Line :=
  outermost ("(" ++ quote entry.1 ++ ".to_owned(), " ++ runtime ++ "::to_value(" ++ entry.2 ++
    ")),")

/-- The lines that set the payload to a literal with these entries. -/
def literalLines (runtime : String) (entries : List (String × String)) : List Line :=
  if entries.isEmpty then [outermost ("payload = " ++ runtime ++ "::Payload::new();")]
  else
    outermost ("payload = " ++ runtime ++ "::Payload::from([") ::
      nested (entries.map (entryLine runtime)) ++ [outermost "]);"]

/-- The values of an event's literal as they are written, in order. -/
def expressions (event : Event) : List String := event.boundFields.map BoundField.value

/-- The keys of an event are those of its fields as they are bound. -/
theorem keys_eq_map_boundFields (event : Event) :
    event.keys = event.boundFields.map fun bound => snakeCase bound.field := by
  rw [keys, boundFields, List.map_map]
  apply List.map_congr_left
  intro field _
  cases event.form <;> rfl

/-- The payload of an event is set to a literal with a key and a value for each field. -/
theorem payloadLines_eq_literalLines (runtime : String) (event : Event) :
    event.payloadLines runtime =
      literalLines runtime (event.keys.zip event.expressions) := by
  have hentries : event.keys.zip event.expressions =
      event.boundFields.map fun bound => (snakeCase bound.field, bound.value) := by
    rw [keys_eq_map_boundFields, expressions, List.zip_map']
  rw [hentries, payloadLines, literalLines]
  cases event.boundFields with
  | nil => rfl
  | cons first rest => rw [List.map_map]; rfl

/-! ## Evaluating literals -/

/-- The payload that an event's literal makes of the values of its fields. -/
def payload (event : Event) (values : List Value) : EventPayload :=
  .ofList (event.keys.zip values)

section

variable {event : Event} {values : List Value}

/-- The keys of an event's entries are its keys. -/
theorem map_fst_zip_keys (hvalues : values.length = event.fields.length) :
    (event.keys.zip values).map Prod.fst = event.keys := by
  apply List.map_fst_zip
  rw [keys, List.length_map, hvalues]

/-- A payload has as many entries as the event has different keys. -/
theorem size_payload (hvalues : values.length = event.fields.length) :
    (event.payload values).size = event.keys.dedup.length := by
  rw [EventPayload.size, payload, EventPayload.entries_ofList, Ordered.length_putAll_nil,
    map_fst_zip_keys hvalues]

/-- A payload has an entry for each field exactly if the keys are different. -/
theorem size_payload_eq_iff (hvalues : values.length = event.fields.length) :
    (event.payload values).size = event.fields.length ↔ event.keys.Nodup := by
  have hlength : event.fields.length = event.keys.length := by rw [keys, List.length_map]
  rw [size_payload hvalues, hlength]
  constructor
  · intro h
    rw [← List.dedup_eq_self]
    exact (List.dedup_sublist event.keys).eq_of_length h
  · intro h
    rw [List.dedup_eq_self.2 h]

/-- A payload has the entries of the literal in order exactly if the keys are different. -/
theorem entries_payload_eq_iff (hvalues : values.length = event.fields.length) :
    (event.payload values).entries = event.keys.zip values ↔ event.keys.Nodup := by
  rw [payload, EventPayload.entries_ofList]
  constructor
  · -- a filled list never repeats a key, so neither does one that it is equal to
    intro h
    have hkeys := Ordered.nodup_map_putAll_nil Prod.fst (event.keys.zip values)
    rwa [h, map_fst_zip_keys hvalues] at hkeys
  · intro h
    rw [← map_fst_zip_keys hvalues] at h
    exact Ordered.putAll_of_nodup h

/-- A key of a payload has the last of the values that the literal gives it. -/
theorem get?_payload (event : Event) (values : List Value) (key : String) :
    (event.payload values).get? key =
      (((event.keys.zip values).filter fun entry => entry.1 = key).getLast?).map Prod.snd := by
  rw [EventPayload.get?, payload, EventPayload.entries_ofList, Ordered.find?_putAll_nil]

end

/-- The arm of an event sets the payload to a literal with a key and a value for each field, in the
order of the fields. Whatever the values are, the payload has an entry for each field, in that
order, exactly if no two fields have one name in snake case. In any case it has an entry for each
different key, with the last value of that key. -/
theorem payload_literal_iff {event : Event} (hfields : event.fields.Nodup)
    (groupPath runtime : String) :
    event.arm groupPath runtime =
      block (event.pattern groupPath ++ " =>")
        (outermost ("name = " ++ quote event.eventName ++ ";") ::
          literalLines runtime (event.keys.zip event.expressions)) ∧
    event.expressions.length = event.fields.length ∧
    ∀ values : List Value, values.length = event.fields.length →
      ((event.payload values).entries = event.keys.zip values ↔
        ApartInSnakeCase event.fields) ∧
      ((event.payload values).size = event.fields.length ↔ ApartInSnakeCase event.fields) ∧
      (event.payload values).size = event.keys.dedup.length ∧
      ∀ key, (event.payload values).get? key =
        (((event.keys.zip values).filter fun entry => entry.1 = key).getLast?).map Prod.snd := by
  refine ⟨?_, ?_, ?_⟩
  · rw [arm, payloadLines_eq_literalLines]
  · rw [expressions, List.length_map, length_boundFields]
  · intro values hvalues
    have hapart : event.keys.Nodup ↔ ApartInSnakeCase event.fields :=
      nodup_map_snakeCase_iff hfields
    refine ⟨?_, ?_, size_payload hvalues, get?_payload event values⟩
    · rw [entries_payload_eq_iff hvalues, hapart]
    · rw [size_payload_eq_iff hvalues, hapart]

/-- The payload of an event with the fields `userId` and `label` keeps both values. -/
theorem payload_of_apartFields :
    (payload ⟨⟨["crate", "Session", "Login"]⟩, .braced, ["userId", "label"]⟩
      [.bool true, .bool false]).size = 2 := by
  have hfields : ["userId", "label"].Nodup := by decide
  have hapart : ApartInSnakeCase ["userId", "label"] := by decide
  obtain ⟨-, -, hvalues⟩ := @payload_literal_iff
    ⟨⟨["crate", "Session", "Login"]⟩, .braced, ["userId", "label"]⟩ hfields
    "crate::Session" "::runtime"
  exact (hvalues [.bool true, .bool false] rfl).2.1.2 hapart

/-- A file whose marked enum has a variant with two fields that have one name in snake case. -/
def twinFieldsFile : File where
  path := "src/lib.rs"
  place := .root
  outline := ⟨[.enum [.mark 1] (.plain "Session" (by decide)) ⟨0, 0⟩
    [⟨.plain "Login" (by decide),
      .named [.plain "userId" (by decide), .plain "user_id" (by decide)]⟩]]⟩

/-- The payload of that variant loses the value of the first field. -/
theorem payload_of_twinFields :
    ∃ group ∈ (⟨[twinFieldsFile]⟩ : Project).groups, ∃ event ∈ group.registry.events,
      event.fields = ["userId", "user_id"] ∧ event.fields.Nodup ∧
        event.keys = ["user_id", "user_id"] ∧
        (event.payload [.bool true, .bool false]).entries = [("user_id", .bool false)] := by
  refine ⟨_, List.mem_singleton_self _, _, List.mem_singleton_self _, rfl, ?_, rfl, rfl⟩
  decide

end Event

end EventTracking
