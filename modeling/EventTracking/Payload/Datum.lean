import EventTracking.Log
import EventTracking.Payload.Value

/-!
# Event data

A datum is what an event's field holds: a number of some format, a text, an optional datum, a
structure, one variant of several, or a collection. It is recorded in the payload as a value. A
datum of which any part cannot be recorded becomes null, and a warning is logged.

Main statements: a recorded datum logs nothing (`log_record_of_ok`), one that fails is recorded as
null with a single log event (`record_of_error`).
-/

namespace EventTracking.Payload

/-- What an event's field holds. -/
inductive Datum where
  /-- A truth value. -/
  | bool (value : Bool)
  /-- A whole number. -/
  | integer (value : Int)
  /-- A floating-point number by its bits. -/
  | float (precision : Precision) (bits : Nat)
  /-- A text or a single character. -/
  | text (value : String)
  /-- Bytes. -/
  | bytes (value : List Nat)
  /-- No datum where one is optional. -/
  | absent
  /-- A datum where it is optional. -/
  | present (value : Datum)
  /-- A structure without content. -/
  | empty
  /-- A structure that only wraps a datum. -/
  | wrapped (value : Datum)
  /-- A variant without content. -/
  | variant (name : String)
  /-- A variant that wraps a datum. -/
  | variantOf (name : String) (value : Datum)
  /-- Data in a row. -/
  | sequence (items : List Datum)
  /-- A variant with data in a row. -/
  | variantSequence (name : String) (items : List Datum)
  /-- A map. -/
  | map (entries : List (Datum × Datum))
  /-- A structure with named fields. -/
  | fields (entries : List (String × Datum))
  /-- A variant with named fields. -/
  | variantFields (name : String) (entries : List (String × Datum))
  /-- A datum that refuses to be recorded, and why. -/
  | refused (reason : String)

/-! ## Failures -/

/-- Why a datum cannot be recorded. -/
inductive RecordError where
  /-- A whole number is out of range. -/
  | outOfRange
  /-- A key is an infinity or no number. -/
  | keyNotFinite
  /-- A key is no text. -/
  | keyNotText
  /-- A datum refuses. -/
  | refused (reason : String)
deriving DecidableEq, Repr

/-- The reason in words. -/
def RecordError.message : RecordError → String
  | outOfRange => "number out of range"
  | keyNotFinite => "float key must be finite (got NaN or +/-inf)"
  | keyNotText => "key must be a string"
  | refused reason => reason

/-! ## Encoding -/

/-- The least whole number that 64 bits can hold. -/
def leastInteger : Int := -9223372036854775808

/-- The greatest whole number that 64 bits can hold without a sign. -/
def greatestInteger : Int := 18446744073709551615

/-- A whole number as a value: 64 bits have to hold it, with or without a sign. -/
def encodeInteger (value : Int) : Except RecordError Value :=
  if leastInteger ≤ value && value ≤ greatestInteger then .ok (.integer value)
  else .error .outOfRange

/-- A floating-point number as a value; what is not finite becomes null. -/
def encodeFloat (precision : Precision) (bits : Nat) : Value :=
  match Binary.ofBits? precision bits with
  | some number => .float number.doubleBits
  | none => .null

/-- A datum as the key of a map. -/
def Datum.key : Datum → Except RecordError String
  | text value => .ok value
  | variant name => .ok name
  | wrapped value => value.key
  | bool value => .ok (if value then "true" else "false")
  | integer value => .ok value.repr
  | float precision bits =>
    match Binary.ofBits? precision bits with
    | some number => .ok (number.write precision)
    | none => .error .keyNotFinite
  | refused reason => .error (.refused reason)
  | _ => .error .keyNotText

/-- The object with a single key. -/
def single (key : String) (value : Value) : Value := .object [(key, value)]

mutual

/-- A datum as a value. -/
def Datum.encode : Datum → Except RecordError Value
  | .bool value => .ok (.bool value)
  | .integer value => encodeInteger value
  | .float precision bits => .ok (encodeFloat precision bits)
  | .text value => .ok (.text value)
  | .bytes value => .ok (.list (value.map fun (byte : Nat) => .integer byte))
  | .absent => .ok .null
  | .present value => value.encode
  | .empty => .ok .null
  | .wrapped value => value.encode
  | .variant name => .ok (.text name)
  | .variantOf name value => do return single name (← value.encode)
  | .sequence items => do return .list (← Datum.encodeItems items)
  | .variantSequence name items => do return single name (.list (← Datum.encodeItems items))
  | .map entries => do return .ofEntries (← Datum.encodeMap entries)
  | .fields entries => do return .ofEntries (← Datum.encodeFields entries)
  | .variantFields name entries => do
    return single name (.ofEntries (← Datum.encodeFields entries))
  | .refused reason => .error (.refused reason)

/-- Data in a row as values. -/
def Datum.encodeItems : List Datum → Except RecordError (List Value)
  | [] => .ok []
  | item :: rest => do
    let first ← item.encode
    let others ← Datum.encodeItems rest
    return first :: others

/-- The entries of a map, each key before its value. -/
def Datum.encodeMap : List (Datum × Datum) → Except RecordError (List (String × Value))
  | [] => .ok []
  | (key, value) :: rest => do
    let key ← key.key
    let first ← value.encode
    let others ← Datum.encodeMap rest
    return (key, first) :: others

/-- Named fields as entries. -/
def Datum.encodeFields : List (String × Datum) → Except RecordError (List (String × Value))
  | [] => .ok []
  | (name, value) :: rest => do
    let first ← value.encode
    let others ← Datum.encodeFields rest
    return (name, first) :: others

end

/-! ## Recording -/

/-- The warning that a datum could not be recorded. -/
def RecordError.logEvent (error : RecordError) : LogEvent :=
  .saying .warn [("err", error.message)] "payload value could not be serialized, recording null"

/-- The value that a datum is recorded as, and what is logged. -/
def Datum.record (datum : Datum) : Value × List LogEvent :=
  match datum.encode with
  | .ok value => (value, [])
  | .error error => (.null, [error.logEvent])

/-- A datum that can be recorded logs nothing. -/
theorem Datum.log_record_of_ok {datum : Datum} {value : Value} (h : datum.encode = .ok value) :
    datum.record = (value, []) := by
  simp [record, h]

/-- A datum that fails is recorded as null with a single log event. -/
theorem Datum.record_of_error {datum : Datum} {error : RecordError}
    (h : datum.encode = .error error) : datum.record = (.null, [error.logEvent]) := by
  simp [record, h]

end EventTracking.Payload
