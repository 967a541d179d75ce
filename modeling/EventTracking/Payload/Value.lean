import EventTracking.Payload.Decimal
import EventTracking.Text.Quoted

/-!
# Payload values

The values that a payload holds: null, truth values, numbers, texts, lists and objects. The keys of
an object are distinct and in ascending order.

Main statements: a key that has been inserted into an object is found there with its new value
(`lookup_insertKey_self`), and all other keys keep theirs (`lookup_insertKey_of_ne`).
-/

namespace EventTracking.Payload

open Text

/-- A payload value. -/
inductive Value where
  /-- No value. -/
  | null
  /-- A truth value. -/
  | bool (value : Bool)
  /-- A whole number. -/
  | integer (value : Int)
  /-- A finite floating-point number, by its bits in double precision. -/
  | float (bits : Nat)
  /-- A text. -/
  | text (value : String)
  /-- A list. -/
  | list (items : List Value)
  /-- An object. -/
  | object (entries : List (String × Value))

namespace Value

/-! ## Objects -/

/-- The entries of an object with a key inserted; a key that is there already gets the new value. -/
def insertKey (key : String) (value : Value) : List (String × Value) → List (String × Value)
  | [] => [(key, value)]
  | (other, old) :: rest =>
    if key < other then (key, value) :: (other, old) :: rest
    else if key = other then (key, value) :: rest
    else (other, old) :: insertKey key value rest

/-- The object of these entries; of a repeated key the last value counts. -/
def ofEntries (entries : List (String × Value)) : Value :=
  object (entries.foldl (fun inserted (key, value) => insertKey key value inserted) [])

/-- The value of a key. -/
def lookup? (key : String) : List (String × Value) → Option Value
  | [] => none
  | (other, value) :: rest => if other = key then some value else lookup? key rest

/-- A key that has been inserted is found with its new value. -/
theorem lookup_insertKey_self (key : String) (value : Value) (entries : List (String × Value)) :
    lookup? key (insertKey key value entries) = some value := by
  induction entries with
  | nil => simp [insertKey, lookup?]
  | cons head rest ih =>
    simp only [insertKey]
    split
    · simp [lookup?]
    · split
      · simp [lookup?]
      · rename_i h
        simp [lookup?, Ne.symm h, ih]

/-- All other keys keep their values. -/
theorem lookup_insertKey_of_ne {key other : String} (h : key ≠ other) (value : Value)
    (entries : List (String × Value)) :
    lookup? other (insertKey key value entries) = lookup? other entries := by
  induction entries with
  | nil => simp [insertKey, lookup?, h]
  | cons head rest ih =>
    simp only [insertKey]
    split
    · simp [lookup?, h]
    · split
      · rename_i he
        have : head.1 ≠ other := fun e => h (he.trans e)
        simp [lookup?, h, this]
      · by_cases hh : head.1 = other <;> simp [lookup?, hh, ih]

/-! ## Showing -/

/-- A floating-point number in double precision as text. -/
def showFloat (bits : Nat) : String :=
  match Binary.ofBits? .double bits with
  | some number => number.write .double
  | none => ""

mutual

/-- A value in one line. -/
def shown : Value → String
  | null => "Null"
  | bool value => "Bool(" ++ (if value then "true" else "false") ++ ")"
  | integer value => "Number(" ++ value.repr ++ ")"
  | float bits => "Number(" ++ showFloat bits ++ ")"
  | text value => "String(" ++ quote value ++ ")"
  | list items => "Array [" ++ ", ".intercalate (showItems items) ++ "]"
  | object entries => "Object \x7b" ++ ", ".intercalate (showEntries entries) ++ "\x7d"

/-- The items of a list, each in one line. -/
def showItems : List Value → List String
  | [] => []
  | item :: rest => item.shown :: showItems rest

/-- The entries of an object, each in one line. -/
def showEntries : List (String × Value) → List String
  | [] => []
  | (key, value) :: rest => (quote key ++ ": " ++ value.shown) :: showEntries rest

end

end Value

end EventTracking.Payload
