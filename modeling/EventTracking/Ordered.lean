/-!
# Lists with distinct keys

A list in which every item has a key is filled by `put`: an item with a new key goes to the end, an
item with a known key takes the place of the earlier one. So the keys stay in the order in which
they came first, each with the item that came last.

Main statements: `put` leaves the other keys alone (`find_put_of_ne`), finds its own item
(`find_put_self`) and adds no key twice (`map_put`).
-/

namespace EventTracking.Ordered

variable {α κ : Type} [DecidableEq κ]

/-- The list with an item put in: in place of the item with the same key, or at the end. -/
def put (key : α → κ) (new : α) : List α → List α
  | [] => [new]
  | item :: rest => if key item = key new then new :: rest else item :: put key new rest

/-- The list with several items put in, one after the other. -/
def putAll (key : α → κ) (items new : List α) : List α :=
  new.foldl (fun items item => put key item items) items

/-- The item with a key. -/
def find? (key : α → κ) (wanted : κ) (items : List α) : Option α :=
  items.find? fun item => decide (key item = wanted)

/-- The keys stay as they are, or the new one comes last. -/
theorem map_put (key : α → κ) (new : α) (items : List α) :
    (put key new items).map key =
      if key new ∈ items.map key then items.map key else items.map key ++ [key new] := by
  induction items with
  | nil => simp [put]
  | cons item rest ih =>
    by_cases h : key item = key new
    · simp [put, h]
    · simp only [put, if_neg h, List.map_cons, ih, List.mem_cons, Ne.symm h, false_or]
      split <;> simp

/-- An item that has been put in is found. -/
theorem find_put_self (key : α → κ) (new : α) (items : List α) :
    find? key (key new) (put key new items) = some new := by
  induction items with
  | nil => simp [put, find?]
  | cons item rest ih =>
    by_cases h : key item = key new
    · simp [put, find?, h]
    · simpa [put, find?, h] using ih

/-- Items with other keys are found as before. -/
theorem find_put_of_ne {key : α → κ} {new : α} {wanted : κ} (h : key new ≠ wanted)
    (items : List α) : find? key wanted (put key new items) = find? key wanted items := by
  induction items with
  | nil => simp [put, find?, h]
  | cons item rest ih =>
    by_cases hi : key item = key new
    · simp [put, find?, hi, h]
    · simp only [find?] at ih
      simp [put, find?, hi, List.find?_cons, ih]

/-- Putting in nothing changes nothing. -/
theorem putAll_nil (key : α → κ) (items : List α) : putAll key items [] = items := rfl

end EventTracking.Ordered
