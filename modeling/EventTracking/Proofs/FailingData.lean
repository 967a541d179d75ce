import EventTracking.Payload.Datum

/-!
# Failing data

A datum is recorded as a whole or not at all. It fails if one of its parts does, however deep
inside: a part that refuses, a whole number that is out of range, a key of a map that is no key.

Main statements: which data make keys (`isOk_key_iff`), which data fail
(`isOk_encode_eq_false_iff`), and how a datum is recorded (`isRecordedAs_record`).
-/

namespace EventTracking.Payload

/-! ## What fails -/

/-- The data that may be keys of maps: texts and what is written as a text. -/
inductive Datum.IsKey : Datum → Prop where
  /-- A text. -/
  | text (value : String) : IsKey (.text value)
  /-- A variant, by its name. -/
  | variant (name : String) : IsKey (.variant name)
  /-- A truth value. -/
  | bool (value : Bool) : IsKey (.bool value)
  /-- A whole number of any size. -/
  | integer (value : Int) : IsKey (.integer value)
  /-- A finite number. -/
  | float {precision : Precision} {bits : Nat}
      (h : (Binary.ofBits? precision bits).isSome = true) : IsKey (.float precision bits)
  /-- A structure around a key. -/
  | wrapped {value : Datum} (h : IsKey value) : IsKey (.wrapped value)

/-- The data of which some part, at any depth, cannot be recorded: a part that refuses, a whole
number that is out of range, or a key of a map that is no key. -/
inductive Datum.Fails : Datum → Prop where
  /-- The datum refuses. -/
  | refused (reason : String) : Fails (.refused reason)
  /-- The whole number is out of range. -/
  | integer {value : Int} (h : value < leastInteger ∨ greatestInteger < value) :
      Fails (.integer value)
  /-- The optional datum fails. -/
  | present {value : Datum} (h : Fails value) : Fails (.present value)
  /-- The wrapped datum fails. -/
  | wrapped {value : Datum} (h : Fails value) : Fails (.wrapped value)
  /-- The datum of the variant fails. -/
  | variantOf (name : String) {value : Datum} (h : Fails value) : Fails (.variantOf name value)
  /-- An item of the row fails. -/
  | sequence {item : Datum} {items : List Datum} (hmem : item ∈ items) (h : Fails item) :
      Fails (.sequence items)
  /-- An item of the variant's row fails. -/
  | variantSequence (name : String) {item : Datum} {items : List Datum} (hmem : item ∈ items)
      (h : Fails item) : Fails (.variantSequence name items)
  /-- A key of the map is no key. -/
  | mapKey {key value : Datum} {entries : List (Datum × Datum)} (hmem : (key, value) ∈ entries)
      (h : ¬ key.IsKey) : Fails (.map entries)
  /-- A value of the map fails. -/
  | mapValue {key value : Datum} {entries : List (Datum × Datum)} (hmem : (key, value) ∈ entries)
      (h : Fails value) : Fails (.map entries)
  /-- A named field fails. -/
  | fields {name : String} {value : Datum} {entries : List (String × Datum)}
      (hmem : (name, value) ∈ entries) (h : Fails value) : Fails (.fields entries)
  /-- A named field of the variant fails. -/
  | variantFields (variant : String) {name : String} {value : Datum}
      {entries : List (String × Datum)} (hmem : (name, value) ∈ entries) (h : Fails value) :
      Fails (.variantFields variant entries)

/-! ## Encoding -/

/-- A step that cannot fail itself keeps success and failure. -/
theorem isOk_bind_pure {α β : Type} (result : Except RecordError α) (step : α → β) :
    (do return step (← result) : Except RecordError β).isOk = result.isOk := by
  cases result <;> rfl

/-- A step after another one succeeds if both do. -/
theorem isOk_bind_bind_pure {α β γ : Type} (result : Except RecordError α)
    (more : Except RecordError β) (step : α → β → γ) :
    (do let first ← result; let second ← more; return step first second :
      Except RecordError γ).isOk = (result.isOk && more.isOk) := by
  cases result <;> cases more <;> rfl

/-- A datum makes a key exactly if it is one. -/
theorem Datum.isOk_key_iff (datum : Datum) : datum.key.isOk = true ↔ datum.IsKey := by
  fun_induction Datum.key datum with
  | case1 value => exact ⟨fun _ => .text value, fun _ => rfl⟩
  | case2 name => exact ⟨fun _ => .variant name, fun _ => rfl⟩
  | case3 value ih =>
      rw [ih]
      constructor
      · exact .wrapped
      · rintro (_ | _ | _ | _ | _ | h)
        exact h
  | case4 value => exact ⟨fun _ => .bool value, fun _ => rfl⟩
  | case5 value => exact ⟨fun _ => .integer value, fun _ => rfl⟩
  | case6 precision bits number hnumber =>
      refine ⟨fun _ => .float ?_, fun _ => rfl⟩
      rw [hnumber]
      rfl
  | case7 precision bits hnone =>
      constructor
      · rintro ⟨⟩
      · rintro (_ | _ | _ | _ | h)
        rw [hnone] at h
        cases h
  | case8 reason =>
      constructor
      · rintro ⟨⟩
      · rintro ⟨⟩
  | case9 datum htext hvariant hwrapped hbool hinteger hfloat hrefused =>
      constructor
      · rintro ⟨⟩
      · rintro (⟨value⟩ | ⟨name⟩ | ⟨value⟩ | ⟨value⟩ | _ | _)
        · exact absurd rfl (htext value)
        · exact absurd rfl (hvariant name)
        · exact absurd rfl (hbool value)
        · exact absurd rfl (hinteger value)
        · exact absurd rfl (hfloat _ _)
        · exact absurd rfl (hwrapped _)

/-- Data in a row can be encoded if each of them can be. -/
theorem Datum.isOk_encodeItems (items : List Datum) :
    (Datum.encodeItems items).isOk = items.all (·.encode.isOk) := by
  induction items with
  | nil => rfl
  | cons item rest ih => rw [encodeItems, isOk_bind_bind_pure, ih, List.all_cons]

/-- Named fields can be encoded if each of their data can be. -/
theorem Datum.isOk_encodeFields (entries : List (String × Datum)) :
    (Datum.encodeFields entries).isOk = entries.all (·.2.encode.isOk) := by
  induction entries with
  | nil => rfl
  | cons entry rest ih =>
      obtain ⟨name, value⟩ := entry
      rw [encodeFields, isOk_bind_bind_pure, ih, List.all_cons]

/-- A map can be encoded if each key is one and each value can be encoded. -/
theorem Datum.isOk_encodeMap (entries : List (Datum × Datum)) :
    (Datum.encodeMap entries).isOk =
      entries.all fun entry => entry.1.key.isOk && entry.2.encode.isOk := by
  induction entries with
  | nil => rfl
  | cons entry rest ih =>
      obtain ⟨key, value⟩ := entry
      rw [List.all_cons, ← ih, encodeMap]
      cases key.key with
      | error error => rfl
      | ok text =>
          exact isOk_bind_bind_pure value.encode (encodeMap rest) fun first others =>
            (text, first) :: others

/-- A whole number can be encoded unless it is out of range. -/
theorem isOk_encodeInteger_eq_false_iff (value : Int) :
    (encodeInteger value).isOk = false ↔ value < leastInteger ∨ greatestInteger < value := by
  rw [encodeInteger]
  by_cases h : leastInteger ≤ value ∧ value ≤ greatestInteger
  · rw [if_pos (by simpa using h)]
    constructor
    · rintro ⟨⟩
    · intro hrange
      omega
  · rw [if_neg (by simpa using h)]
    refine ⟨fun _ => ?_, fun _ => rfl⟩
    omega

/-- What fails cannot be encoded. -/
theorem Datum.Fails.isOk_encode {datum : Datum} (h : datum.Fails) : datum.encode.isOk = false := by
  induction h with
  | refused reason => rfl
  | integer h =>
      rw [encode]
      exact (isOk_encodeInteger_eq_false_iff _).2 h
  | present h ih => rw [encode, ih]
  | wrapped h ih => rw [encode, ih]
  | variantOf name h ih => rw [encode, isOk_bind_pure, ih]
  | sequence hmem h ih =>
      rw [encode, isOk_bind_pure, isOk_encodeItems, List.all_eq_false]
      exact ⟨_, hmem, by simp [ih]⟩
  | variantSequence name hmem h ih =>
      rw [encode, isOk_bind_pure, isOk_encodeItems, List.all_eq_false]
      exact ⟨_, hmem, by simp [ih]⟩
  | mapKey hmem h =>
      rw [encode, isOk_bind_pure, isOk_encodeMap, List.all_eq_false]
      refine ⟨_, hmem, ?_⟩
      rw [Bool.and_eq_true, isOk_key_iff]
      exact fun hboth => h hboth.1
  | mapValue hmem h ih =>
      rw [encode, isOk_bind_pure, isOk_encodeMap, List.all_eq_false]
      exact ⟨_, hmem, by simp [ih]⟩
  | fields hmem h ih =>
      rw [encode, isOk_bind_pure, isOk_encodeFields, List.all_eq_false]
      exact ⟨_, hmem, by simp [ih]⟩
  | variantFields variant hmem h ih =>
      rw [encode, isOk_bind_pure, isOk_encodeFields, List.all_eq_false]
      exact ⟨_, hmem, by simp [ih]⟩

/-- The second part of an entry is smaller than the list of entries. -/
theorem Datum.sizeOf_lt_of_mem {α : Type} [SizeOf α] {key : α} {value : Datum}
    {entries : List (α × Datum)} (h : (key, value) ∈ entries) :
    sizeOf value < sizeOf entries := by
  have hentry := List.sizeOf_lt_of_mem h
  rw [Prod.mk.sizeOf_spec] at hentry
  omega

/-- What cannot be encoded fails: somewhere inside it is a part that cannot. -/
theorem Datum.fails_of_isOk_encode : ∀ {datum : Datum}, datum.encode.isOk = false → datum.Fails
  | .bool _, h => by cases h
  | .integer value, h => by
      rw [encode, isOk_encodeInteger_eq_false_iff] at h
      exact .integer h
  | .float _ _, h => by
      rw [encode] at h
      cases h
  | .text _, h => by cases h
  | .bytes _, h => by cases h
  | .absent, h => by cases h
  | .present value, h => by
      rw [encode] at h
      exact .present (fails_of_isOk_encode h)
  | .empty, h => by cases h
  | .wrapped value, h => by
      rw [encode] at h
      exact .wrapped (fails_of_isOk_encode h)
  | .variant _, h => by cases h
  | .variantOf name value, h => by
      rw [encode, isOk_bind_pure] at h
      exact .variantOf name (fails_of_isOk_encode h)
  | .sequence items, h => by
      rw [encode, isOk_bind_pure, isOk_encodeItems, List.all_eq_false] at h
      obtain ⟨item, hmem, hitem⟩ := h
      have hsize := List.sizeOf_lt_of_mem hmem
      exact .sequence hmem (fails_of_isOk_encode (Bool.eq_false_iff.2 hitem))
  | .variantSequence name items, h => by
      rw [encode, isOk_bind_pure, isOk_encodeItems, List.all_eq_false] at h
      obtain ⟨item, hmem, hitem⟩ := h
      have hsize := List.sizeOf_lt_of_mem hmem
      exact .variantSequence name hmem (fails_of_isOk_encode (Bool.eq_false_iff.2 hitem))
  | .map entries, h => by
      rw [encode, isOk_bind_pure, isOk_encodeMap, List.all_eq_false] at h
      obtain ⟨⟨key, value⟩, hmem, hentry⟩ := h
      have hsize := sizeOf_lt_of_mem hmem
      by_cases hkey : key.IsKey
      · rw [(isOk_key_iff key).2 hkey, Bool.true_and] at hentry
        exact .mapValue hmem (fails_of_isOk_encode (Bool.eq_false_iff.2 hentry))
      · exact .mapKey hmem hkey
  | .fields entries, h => by
      rw [encode, isOk_bind_pure, isOk_encodeFields, List.all_eq_false] at h
      obtain ⟨⟨name, value⟩, hmem, hentry⟩ := h
      have hsize := sizeOf_lt_of_mem hmem
      exact .fields hmem (fails_of_isOk_encode (Bool.eq_false_iff.2 hentry))
  | .variantFields outer entries, h => by
      rw [encode, isOk_bind_pure, isOk_encodeFields, List.all_eq_false] at h
      obtain ⟨⟨name, value⟩, hmem, hentry⟩ := h
      have hsize := sizeOf_lt_of_mem hmem
      exact .variantFields outer hmem (fails_of_isOk_encode (Bool.eq_false_iff.2 hentry))
  | .refused reason, _ => .refused reason
termination_by datum => sizeOf datum
decreasing_by
  all_goals simp_wf
  all_goals omega

/-- A datum cannot be encoded exactly if it fails. -/
theorem Datum.isOk_encode_eq_false_iff (datum : Datum) :
    datum.encode.isOk = false ↔ datum.Fails :=
  ⟨fails_of_isOk_encode, Fails.isOk_encode⟩

instance : DecidablePred Datum.Fails := fun datum =>
  decidable_of_iff (datum.encode.isOk = false) datum.isOk_encode_eq_false_iff

/-! ## Recording -/

/-- How a datum is recorded: as a whole, or as null because it fails. -/
inductive Datum.IsRecordedAs (datum : Datum) : Value → Prop where
  /-- The datum is recorded as a whole. -/
  | whole {value : Value} (h : datum.encode = .ok value) : IsRecordedAs datum value
  /-- The datum fails. -/
  | null (h : datum.Fails) : IsRecordedAs datum .null

/-- A datum is recorded as null with one warning if it fails, and otherwise as a whole with none. -/
theorem Datum.isRecordedAs_record (datum : Datum) :
    datum.IsRecordedAs datum.record.1 ∧
      datum.record.2.length = (if datum.Fails then 1 else 0) ∧
      ∀ event ∈ datum.record.2, event.level = .warn := by
  cases hencode : datum.encode with
  | ok value =>
      have hwhole : ¬ datum.Fails := by
        rw [← isOk_encode_eq_false_iff, hencode]
        rintro ⟨⟩
      rw [log_record_of_ok hencode, if_neg hwhole]
      exact ⟨.whole hencode, rfl, fun _ hmem => by cases hmem⟩
  | error error =>
      have hfails : datum.Fails := by
        rw [← isOk_encode_eq_false_iff, hencode]
        rfl
      rw [record_of_error hencode, if_pos hfails]
      refine ⟨.null hfails, rfl, ?_⟩
      intro event hmem
      rw [List.mem_singleton.1 hmem]
      rfl

/-- A datum that fails is recorded as null. -/
theorem Datum.Fails.record_eq {datum : Datum} (h : datum.Fails) : datum.record.1 = .null := by
  have hok := h.isOk_encode
  cases hencode : datum.encode with
  | ok value =>
      rw [hencode] at hok
      cases hok
  | error error => rw [record_of_error hencode]

end EventTracking.Payload
