import EventTracking.Proofs.DistinctKeys
import EventTracking.Proofs.ImportScope

/-!
# Leaves of `use` items

A `use` item names several things at once: its tree branches into paths, each with a leaf at its
end. The names that it binds are those of its leaves from left to right, whatever the nesting of
braces is. They are also what a walk through the tree collects that keeps one path, adds a word to
it on the way into a branch, takes the word off on the way out, and enters each name into one table,
in which a name that comes again replaces the earlier one.

Main statements: a tree binds the names of its leaves (`bindings_eq_leaves`), a walk enters these
and leaves its path as it was (`collect_eq`), and what a name stands for in a module is found in the
table of the walks through its `use` items (`bound?_eq_find?_imports`).
-/

namespace EventTracking.Code

namespace UseTree

/-! ## Trees below trees -/

/-- The trees directly below a tree. -/
def parts : UseTree → List UseTree
  | .within _ tree => [tree]
  | .several trees => trees
  | _ => []

mutual

/-- What holds of a tree if it holds of the trees below it holds of every tree. -/
theorem of_parts {property : UseTree → Prop}
    (h : ∀ tree : UseTree, (∀ part ∈ tree.parts, property part) → property tree) :
    ∀ tree, property tree
  | .within _ tree => h _ (List.forall_mem_singleton.2 (of_parts h tree))
  | .named _ => h _ (List.forall_mem_nil _)
  | .renamed _ _ => h _ (List.forall_mem_nil _)
  | .every => h _ (List.forall_mem_nil _)
  | .several trees => h _ (of_parts_all h trees)

/-- It holds of every tree of a list. -/
theorem of_parts_all {property : UseTree → Prop}
    (h : ∀ tree : UseTree, (∀ part ∈ tree.parts, property part) → property tree) :
    ∀ trees : List UseTree, ∀ tree ∈ trees, property tree
  | [] => List.forall_mem_nil _
  | tree :: rest => List.forall_mem_cons.2 ⟨of_parts h tree, of_parts_all h rest⟩

end

end UseTree

/-! ## Leaves -/

/-- What stands at the end of a path of a `use` item. -/
inductive UseEnding where
  /-- A name. -/
  | name (identifier : Identifier)
  /-- A name that is bound to another one. -/
  | renamed (identifier newName : Identifier)
  /-- The word `self`. -/
  | itself
  /-- The word `self`, bound to a name. -/
  | itselfAs (newName : Identifier)
  /-- Everything. -/
  | every
deriving DecidableEq

namespace UseEnding

/-- What is written as a single word. -/
def ofWord (identifier : Identifier) : UseEnding :=
  if identifier.isPlain "self" then .itself else .name identifier

/-- What is written as a word with a new name. -/
def ofRenamed (identifier newName : Identifier) : UseEnding :=
  if identifier.isPlain "self" then .itselfAs newName else .renamed identifier newName

/-- What is bound at the end of a path. A name stands for the path with the name at its end, and
`self` for the path, which it binds to its last word. The new name `_` binds nothing, and neither
does everything. -/
def binding? (path : List String) : UseEnding → Option Binding
  | .name identifier => some ⟨identifier.text, path ++ [identifier.text]⟩
  | .renamed identifier newName =>
    if newName.isPlain "_" then none else some ⟨newName.text, path ++ [identifier.text]⟩
  | .itself => path.getLast?.map (⟨·, path⟩)
  | .itselfAs newName => if newName.isPlain "_" then none else some ⟨newName.text, path⟩
  | .every => none

end UseEnding

/-- A leaf of a `use` item. -/
structure UseLeaf where
  /-- The words on the way to the leaf. -/
  words : List Identifier
  /-- What stands there. -/
  ending : UseEnding
deriving DecidableEq

/-- A leaf of a tree, seen from a word in front of the tree. -/
def UseLeaf.within (segment : Identifier) (leaf : UseLeaf) : UseLeaf :=
  { leaf with words := segment :: leaf.words }

/-- What a leaf binds, `before` being the path that leads to the tree. -/
def UseLeaf.binding? (before : List String) (leaf : UseLeaf) : Option Binding :=
  leaf.ending.binding? (before ++ leaf.words.map Identifier.text)

namespace UseTree

mutual

/-- The leaves of a tree, from left to right. -/
def leaves : UseTree → List UseLeaf
  | .within segment tree => tree.leaves.map (.within segment)
  | .named identifier => [⟨[], .ofWord identifier⟩]
  | .renamed identifier newName => [⟨[], .ofRenamed identifier newName⟩]
  | .every => [⟨[], .every⟩]
  | .several trees => leavesOfAll trees

/-- The leaves of several trees, one tree after the other. -/
def leavesOfAll : List UseTree → List UseLeaf
  | [] => []
  | tree :: rest => tree.leaves ++ leavesOfAll rest

end

/-- The names that the leaves of a tree bind, from left to right. -/
def leafBindings (before : List String) (tree : UseTree) : List Binding :=
  tree.leaves.filterMap (·.binding? before)

/-- The names that several trees bind are those of one tree after the other. -/
theorem bindingsOfAll_eq (before : List String) (trees : List UseTree) :
    bindingsOfAll before trees = trees.flatMap (·.bindings before) := by
  induction trees with
  | nil => rfl
  | cons tree rest ih => rw [bindingsOfAll, ih, List.flatMap_cons]

/-- The leaves of several trees are those of one tree after the other. -/
theorem leavesOfAll_eq (trees : List UseTree) : leavesOfAll trees = trees.flatMap leaves := by
  induction trees with
  | nil => rfl
  | cons tree rest ih => rw [leavesOfAll, ih, List.flatMap_cons]

/-- A tree without trees below it binds what its one leaf binds. -/
theorem leafBindings_eq_toList {tree : UseTree} {ending : UseEnding}
    (h : tree.leaves = [⟨[], ending⟩]) (before : List String) :
    tree.leafBindings before = (ending.binding? before).toList := by
  rw [leafBindings, h, List.filterMap_cons, UseLeaf.binding?, List.map_nil, List.append_nil]
  cases ending.binding? before <;> rfl

/-- A tree binds the names of its leaves. -/
theorem bindings_eq_leaves (tree : UseTree) (before : List String) :
    tree.bindings before = tree.leafBindings before := by
  induction tree using of_parts generalizing before with
  | h tree ih =>
    cases tree with
    | within segment tree =>
        -- a word that is added to the path before the tree stands in front of its leaves
        have hwithin : (UseLeaf.binding? before ∘ UseLeaf.within segment) =
            UseLeaf.binding? (before ++ [segment.text]) := by
          funext leaf
          rw [Function.comp, UseLeaf.binding?, UseLeaf.binding?, UseLeaf.within, List.map_cons,
            List.append_assoc, List.singleton_append]
        rw [bindings, ih tree (List.mem_singleton_self tree), leafBindings, leafBindings, leaves,
          List.filterMap_map, hwithin]
    | named identifier =>
        rw [leafBindings_eq_toList rfl, bindings, UseEnding.ofWord]
        split
        · rw [UseEnding.binding?]
          cases before.getLast? <;> rfl
        · rfl
    | renamed identifier newName =>
        rw [leafBindings_eq_toList rfl, bindings, UseEnding.ofRenamed]
        cases identifier.isPlain "self" <;> cases hblank : newName.isPlain "_" <;>
          simp [UseEnding.binding?, hblank]
    | every => rfl
    | several trees =>
        rw [bindings, bindingsOfAll_eq, leafBindings, leaves, leavesOfAll_eq,
          List.filterMap_flatMap]
        exact List.flatMap_congr fun part hpart => ih part hpart before

end UseTree

/-! ## Walks -/

/-- How far a walk through a tree has come. -/
structure UseWalk where
  /-- The words that lead to where the walk is. -/
  path : List String
  /-- The names that have been entered, each with its path. -/
  table : List Binding
deriving DecidableEq

namespace UseWalk

/-- The walk one word further down. -/
def enter (walk : UseWalk) (segment : Identifier) : UseWalk :=
  { walk with path := walk.path ++ [segment.text] }

/-- The walk one word further up. -/
def leave (walk : UseWalk) : UseWalk := { walk with path := walk.path.dropLast }

/-- The walk with a name entered, in place of an earlier entry of that name. -/
def bind (walk : UseWalk) (name : String) (path : List String) : UseWalk :=
  { walk with table := Ordered.put Binding.name ⟨name, path⟩ walk.table }

end UseWalk

namespace UseTree

mutual

/-- Walks through a tree. -/
def collect : UseTree → UseWalk → UseWalk
  | .within segment tree, walk => (tree.collect (walk.enter segment)).leave
  | .named identifier, walk =>
    if identifier.isPlain "self" then
      match walk.path.getLast? with
      | some last => walk.bind last walk.path
      | none => walk
    else walk.bind identifier.text (walk.path ++ [identifier.text])
  | .renamed identifier newName, walk =>
    if newName.isPlain "_" then walk
    else if identifier.isPlain "self" then walk.bind newName.text walk.path
    else walk.bind newName.text (walk.path ++ [identifier.text])
  | .every, walk => walk
  | .several trees, walk => collectAll trees walk

/-- Walks through several trees, one after the other. -/
def collectAll : List UseTree → UseWalk → UseWalk
  | [], walk => walk
  | tree :: rest, walk => collectAll rest (tree.collect walk)

end

/-- A walk through a tree leaves its path as it was and enters the names that the tree binds. -/
theorem collect_eq (tree : UseTree) (walk : UseWalk) :
    tree.collect walk =
      ⟨walk.path, Ordered.putAll Binding.name walk.table (tree.bindings walk.path)⟩ := by
  induction tree using of_parts generalizing walk with
  | h tree ih =>
    cases tree with
    | within segment tree =>
        rw [collect, ih tree (List.mem_singleton_self tree), UseWalk.leave, UseWalk.enter,
          List.dropLast_concat, bindings]
    | named identifier =>
        rw [collect, bindings]
        split
        · cases walk.path.getLast? <;> rfl
        · rfl
    | renamed identifier newName =>
        rw [collect, bindings]
        split
        · rfl
        · split <;> rfl
    | every => rfl
    | several trees =>
        rw [collect, bindings]
        replace ih : ∀ part ∈ trees, ∀ walk : UseWalk, part.collect walk =
            ⟨walk.path, Ordered.putAll Binding.name walk.table (part.bindings walk.path)⟩ := ih
        -- each tree finds the path as it was for the one before it
        induction trees generalizing walk with
        | nil => rfl
        | cons first rest ihrest =>
            obtain ⟨hfirst, hrest⟩ := List.forall_mem_cons.1 ih
            rw [collectAll, ihrest _ hrest, hfirst, bindingsOfAll, Ordered.putAll_append]

end UseTree

/-! ## Tables of modules -/

/-- The table after the walk through an item, if that is a `use` item. -/
def Item.collect (table : List Binding) : Item → List Binding
  | .use _ _ tree => (tree.collect ⟨[], table⟩).table
  | _ => table

/-- The table of a module after the walks through its `use` items, one after the other. -/
def Project.imports (project : Project) (place : QualifiedName) : List Binding :=
  (project.placed.filter (·.place == place)).foldl (fun table placed => placed.item.collect table)
    []

/-- The walk through an item enters the names that the item binds. -/
theorem Item.collect_eq_putAll (item : Item) (table : List Binding) :
    item.collect table = Ordered.putAll Binding.name table item.bindings := by
  cases item with
  | use attributes rooted tree =>
      rw [collect, UseTree.collect_eq]
      rfl
  | _ => rfl

/-- The table of a module holds what its `use` items bind. -/
theorem Project.imports_eq (project : Project) (place : QualifiedName) :
    project.imports place = Ordered.putAll Binding.name []
      ((project.placed.filter (·.place == place)).flatMap (·.item.bindings)) := by
  rw [imports]
  generalize project.placed.filter (·.place == place) = items
  generalize ([] : List Binding) = table
  induction items generalizing table with
  | nil => rfl
  | cons placed rest ih =>
      rw [List.foldl_cons, ih, Item.collect_eq_putAll, List.flatMap_cons, Ordered.putAll_append]

/-- The names that are bound in a module are those that its `use` items bind. -/
theorem Scope.filter_bindings_ofPlaced (items : List PlacedItem) (place : QualifiedName) :
    (Scope.ofPlaced items).bindings.filter (·.place == place) =
      ((items.filter (·.place == place)).flatMap (·.item.bindings)).map (⟨place, ·⟩) := by
  rw [Scope.ofPlaced]
  induction items with
  | nil => rfl
  | cons placed rest ih =>
      rw [List.flatMap_cons, List.filter_append, ih, PlacedItem.bindings, List.filter_map]
      by_cases hplace : placed.place = place
      · subst hplace
        have hall : placed.item.bindings.filter
            ((·.place == placed.place) ∘ PlacedBinding.mk placed.place) = placed.item.bindings :=
          List.filter_eq_self.2 fun _ _ => beq_self_eq_true _
        rw [List.filter_cons_of_pos (by simp), List.flatMap_cons, List.map_append, hall]
      · have hnone : placed.item.bindings.filter
            ((·.place == place) ∘ PlacedBinding.mk placed.place) = [] :=
          List.filter_eq_nil_iff.2 fun _ _ => by simpa using hplace
        rw [List.filter_cons_of_neg (by simpa using hplace), hnone, List.map_nil, List.nil_append]

/-- What a name stands for in a module is found in the table of the module. -/
theorem Project.bound?_eq_find?_imports (project : Project) (place : QualifiedName)
    (name : String) :
    project.scope.bound? place name =
      (Ordered.find? Binding.name name (project.imports place)).map Binding.path := by
  have hsplit : project.scope.bindings.filter (fun bound =>
        bound.place == place && bound.binding.name == name) =
      (project.scope.bindings.filter (·.place == place)).filter (·.binding.name == name) := by
    rw [List.filter_filter]
    exact List.filter_congr fun _ _ => Bool.and_comm _ _
  rw [Scope.bound?, List.findRev?_eq_find?_reverse, ← List.getLast?_filter, hsplit, scope,
    Scope.filter_bindings_ofPlaced, List.filter_map, List.getLast?_map, Option.map_map,
    imports_eq, Ordered.find?_putAll_nil]
  rfl

/-- A walk through the tree of a `use` item leaves its path as it was and enters exactly the names
that the leaves of the tree bind, from left to right. So under a name stands what the last leaf of
that name binds it to, and what stood there before if there is no such leaf. The names that a tree
binds are the same, and what a name stands for in a module of a project is what stands in the table
after the walks through the `use` items of the module. -/
theorem collect_of_leaves (tree : UseTree) (before : List String) (table : List Binding) :
    (tree.collect ⟨before, table⟩).path = before ∧
      (tree.collect ⟨before, table⟩).table =
        Ordered.putAll Binding.name table (tree.leafBindings before) ∧
      (∀ name, Ordered.find? Binding.name name (tree.collect ⟨before, table⟩).table =
        ((tree.leafBindings before).filter (·.name = name)).getLast?.or
          (Ordered.find? Binding.name name table)) ∧
      tree.bindings before = tree.leafBindings before ∧
      ∀ (project : Project) (place : QualifiedName) (name : String),
        project.scope.bound? place name =
          (Ordered.find? Binding.name name (project.imports place)).map Binding.path := by
  have hbindings := tree.bindings_eq_leaves before
  have hcollect := tree.collect_eq ⟨before, table⟩
  rw [hbindings] at hcollect
  rw [hcollect]
  exact ⟨rfl, rfl, Ordered.find?_putAll Binding.name table _, hbindings,
    Project.bound?_eq_find?_imports⟩

/-- A `use` item with braces in braces, with `self`, with new names and with a name that comes
again. -/
def shapesUse : String :=
  "use shapes::\x7bself, round::\x7bOval, self as r, *\x7d, Disc as _, Square as Oval\x7d;"

example :
    (Outline.ofSource shapesUse).toOption.map
        (·.items.foldl (fun table item => item.collect table) []) =
      some [⟨"shapes", ["shapes"]⟩, ⟨"Oval", ["shapes", "Square"]⟩,
        ⟨"r", ["shapes", "round"]⟩] := by
  decide +kernel

end EventTracking.Code
