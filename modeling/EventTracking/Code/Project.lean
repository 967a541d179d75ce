import EventTracking.Name
import EventTracking.Code.Outline

/-!
# Projects

A project holds the outlines of its source files, each with the module that the file defines. The
items of a project are placed in modules: an inline module places its items one level deeper.

Main statements: what holds of an item if it holds of those inside it holds of every item
(`of_inner`), placing the items of a list places those of its parts in order (`placedAll_append`),
and so it is for the files of a project (`placed_append`).
-/

namespace EventTracking.Code

/-- A source file that has been read. -/
structure File where
  /-- The path of the file. -/
  path : String
  /-- The module that the file defines. -/
  place : QualifiedName
  /-- What is known of its contents. -/
  outline : Outline

/-- The source files of a project, in order. -/
structure Project where
  /-- The files. -/
  files : List File

/-- An item and the module that it stands in. -/
structure PlacedItem where
  /-- The module. -/
  place : QualifiedName
  /-- The item. -/
  item : Item

/-! ## Items inside items -/

/-- The items inside an item, if it is an inline module. -/
def Item.inner : Item → List Item
  | .module _ _ items => items
  | _ => []

mutual

/-- What holds of an item if it holds of the items inside it holds of every item. -/
theorem Item.of_inner {property : Item → Prop}
    (h : ∀ item : Item, (∀ one ∈ item.inner, property one) → property item) :
    ∀ item, property item
  | .module _ _ items => h _ (Item.of_inner_all h items)
  | .enum _ _ _ _ => h _ (List.forall_mem_nil _)
  | .struct _ _ _ => h _ (List.forall_mem_nil _)
  | .use _ _ _ => h _ (List.forall_mem_nil _)
  | .named _ _ _ => h _ (List.forall_mem_nil _)
  | .unnamed _ _ => h _ (List.forall_mem_nil _)
  | .unread => h _ (List.forall_mem_nil _)

/-- It holds of every item of a list. -/
theorem Item.of_inner_all {property : Item → Prop}
    (h : ∀ item : Item, (∀ one ∈ item.inner, property one) → property item) :
    ∀ items : List Item, ∀ item ∈ items, property item
  | [] => List.forall_mem_nil _
  | item :: rest => List.forall_mem_cons.2 ⟨Item.of_inner h item, Item.of_inner_all h rest⟩

end

/-! ## Placing items -/

mutual

/-- An item that stands in a module, followed by the items inside it if it is an inline module. -/
def Item.placed (place : QualifiedName) : Item → List PlacedItem
  | .module attributes name items =>
    ⟨place, .module attributes name items⟩ :: Item.placedAll (place.child name.text) items
  | item => [⟨place, item⟩]

/-- The items of a list that stand in a module, each followed by the items inside it. -/
def Item.placedAll (place : QualifiedName) : List Item → List PlacedItem
  | [] => []
  | item :: rest => item.placed place ++ Item.placedAll place rest

end

/-- The items of a file at any depth, in order. -/
def File.placed (file : File) : List PlacedItem :=
  Item.placedAll file.place file.outline.items

/-- The items of all files. -/
def Project.placed (project : Project) : List PlacedItem := project.files.flatMap File.placed

/-- The items of two lists are placed one list after the other. -/
theorem Item.placedAll_append (place : QualifiedName) (items more : List Item) :
    Item.placedAll place (items ++ more) =
      Item.placedAll place items ++ Item.placedAll place more := by
  induction items with
  | nil => simp [placedAll]
  | cons item rest ih => simp [placedAll, ih]

/-- What is placed for a list is placed for one of its items. -/
theorem Item.mem_placedAll {place : QualifiedName} {placed : PlacedItem} {items : List Item} :
    placed ∈ Item.placedAll place items ↔ ∃ item ∈ items, placed ∈ item.placed place := by
  induction items with
  | nil => simp [placedAll]
  | cons item rest ih => simp [placedAll, ih]

/-- The items of two lists of files come one list after the other. -/
theorem Project.placed_append (files more : List File) :
    (⟨files ++ more⟩ : Project).placed =
      (⟨files⟩ : Project).placed ++ (⟨more⟩ : Project).placed := by
  simp [placed]

end EventTracking.Code
