import EventTracking.Text.Utf8

/-!
# Encoded texts

What files hold, how they are called and what the environment hands over are bytes. Nearly always
they encode a text in UTF-8; bytes that do not are kept as they are. Encoded texts are compared by
their bytes.

Main statements: bytes and encoded texts are the same (`ofBytes_toBytes`, `toBytes_ofBytes`), the
order of texts is that of their bytes (`text_lt_text`), and whatever is shown is read from the bytes
in the same way (`toList_shown`).
-/

namespace EventTracking.Text

/-- A text, or bytes that encode none. -/
inductive Encoded where
  /-- A text. -/
  | text (value : String)
  /-- Bytes that are not valid UTF-8. -/
  | bytes (value : List UInt8) {unreadable : String.fromUTF8? ⟨value.toArray⟩ = none}
deriving DecidableEq, Repr

instance : Coe String Encoded := ⟨.text⟩

namespace Encoded

/-! ## Bytes -/

/-- Reads bytes as UTF-8. -/
def ofBytes (value : List UInt8) : Encoded :=
  match h : String.fromUTF8? ⟨value.toArray⟩ with
  | some decoded => text decoded
  | none => @bytes value h

/-- The bytes. -/
def toBytes : Encoded → List UInt8
  | text value => value.toByteArray.data.toList
  | bytes value => value

/-- Bytes are read as the text whose bytes they are. -/
theorem fromUTF8?_eq_some_iff {value : ByteArray} {decoded : String} :
    String.fromUTF8? value = some decoded ↔ decoded.toByteArray = value := by
  unfold String.fromUTF8?
  constructor
  · intro h
    split at h
    · rw [← Option.some.inj h]
      rfl
    · cases h
  · rintro rfl
    rw [dif_pos decoded.isValidUTF8]
    rfl

/-- What is encoded is read from its bytes. -/
@[simp] theorem ofBytes_toBytes (value : Encoded) : ofBytes value.toBytes = value := by
  unfold ofBytes
  cases value with
  | text value =>
    have hread : String.fromUTF8? ⟨(text value).toBytes.toArray⟩ = some value :=
      fromUTF8?_eq_some_iff.2 rfl
    split
    · rename_i found h
      rw [Option.some.inj (h.symm.trans hread)]
    · rename_i h
      cases h.symm.trans hread
  | bytes value =>
    rename_i unreadable
    split
    · rename_i found h
      cases h.symm.trans unreadable
    · rfl

/-- The bytes of what has been read are those that it was read from. -/
@[simp] theorem toBytes_ofBytes (value : List UInt8) : (ofBytes value).toBytes = value := by
  unfold ofBytes
  split
  · rename_i found h
    rw [toBytes, fromUTF8?_eq_some_iff.1 h]
  · rfl

/-- Different texts have different bytes. -/
theorem toBytes_injective {value other : Encoded} (h : value.toBytes = other.toBytes) :
    value = other := by
  rw [← ofBytes_toBytes value, h, ofBytes_toBytes]

/-- The bytes of a text are those of its characters. -/
theorem toBytes_text (value : String) :
    (text value).toBytes = value.toList.flatMap String.utf8EncodeChar := by
  rw [toBytes, ← String.utf8Encode_toList, List.utf8Encode, List.toList_data_toByteArray]

/-- The bytes as numbers. -/
def octets (value : Encoded) : List Nat := value.toBytes.map UInt8.toNat

/-- The bytes of a text as numbers. -/
theorem octets_text (value : String) : (text value).octets = Utf8.bytesOf value.toList := by
  rw [octets, toBytes_text, List.map_flatMap, Utf8.bytesOf]
  simp only [Utf8.map_toNat_utf8EncodeChar]

/-- Different texts have different bytes. -/
theorem octets_injective {value other : Encoded} (h : value.octets = other.octets) :
    value = other :=
  toBytes_injective (List.map_inj_right (fun _ _ => UInt8.toNat.inj) |>.1 h)

/-! ## Order -/

instance : LT Encoded := ⟨fun value other => value.octets < other.octets⟩

instance : LE Encoded := ⟨fun value other => ¬ other < value⟩

instance (value other : Encoded) : Decidable (value < other) :=
  inferInstanceAs (Decidable (value.octets < other.octets))

instance : Std.IsLinearOrder Encoded where
  le_refl value := List.le_refl value.octets
  le_trans _ _ _ := List.le_trans
  le_antisymm _ _ h h' := octets_injective (List.le_antisymm h h')
  le_total value other := List.le_total value.octets other.octets

instance : Std.LawfulOrderLT Encoded where
  lt_iff _ _ :=
    ⟨fun h => ⟨List.lt_asymm h, not_not_intro h⟩, fun h => Decidable.not_not.1 h.2⟩

/-- Texts are in the order of their bytes. -/
theorem text_lt_text {value other : String} : text value < text other ↔ value < other := by
  change (text value).octets < (text other).octets ↔ _
  rw [octets_text, octets_text, Utf8.bytesOf_lt_iff, String.lt_iff]

/-! ## Texts -/

/-- The text, if there is one. -/
def text? : Encoded → Option String
  | text value => some value
  | bytes _ => none

/-- The text, with replacement characters for what is none. -/
def shown : Encoded → String
  | text value => value
  | bytes value => String.ofList (Utf8.replacing none (value.map UInt8.toNat))

/-- What is shown are the bytes with replacement characters for what is no text. -/
theorem toList_shown (value : Encoded) :
    value.shown.toList = Utf8.replacing none value.octets := by
  cases value with
  | text value => rw [octets_text, Utf8.replacing_bytesOf, shown]
  | bytes value => rw [shown, String.toList_ofList, octets, toBytes]

/-- Whether nothing is encoded. -/
def isEmpty (value : Encoded) : Bool := value.toBytes.isEmpty

end Encoded

end EventTracking.Text
