import EventTracking.Proofs.ImportScope

/-!
# The order of files

The scope of a project collects the declared types and the bound names of all its files, one file
after the other. What it is asked for does not depend on that order: a path names the only type
among those that it could name, wherever that type is declared, and a name stands for the path that
its module binds it to. Only if a module binds one name to two paths does it matter which binding
comes last.

So a project whose files come in another order has the same declarations, file by file.

Main statements: a name stands for the path that it is bound to (`bound?_eq_some_iff`), a type
stands for the same declared type in scopes that differ in their order only
(`resolve?_eq_of_reorders`), and files in another order make such scopes (`reorders_of_perm`).
-/

namespace EventTracking.Code

/-! ## Names that are bound once -/

/-- No module binds one name to two different paths. -/
def Scope.BindsOnce (scope : Scope) : Prop :=
  ∀ bound ∈ scope.bindings, ∀ other ∈ scope.bindings,
    bound.place = other.place → bound.binding.name = other.binding.name →
      bound.binding.path = other.binding.path

instance (scope : Scope) : Decidable scope.BindsOnce :=
  inferInstanceAs (Decidable (∀ bound ∈ scope.bindings, ∀ other ∈ scope.bindings,
    bound.place = other.place → bound.binding.name = other.binding.name →
      bound.binding.path = other.binding.path))

/-- If no name is bound to two paths, then a name stands for a path exactly if it is bound to it,
wherever the binding stands. -/
theorem Scope.bound?_eq_some_iff {scope : Scope} (h : scope.BindsOnce) {place : QualifiedName}
    {name : String} {path : List String} :
    scope.bound? place name = some path ↔ ⟨place, ⟨name, path⟩⟩ ∈ scope.bindings := by
  rw [Scope.bound?, List.findRev?_eq_find?_reverse]
  constructor
  · intro hfound
    obtain ⟨⟨place', name', path'⟩, hfind, rfl⟩ := Option.map_eq_some_iff.1 hfound
    have hsame := List.find?_some hfind
    simp only [Bool.and_eq_true, beq_iff_eq] at hsame
    obtain ⟨rfl, rfl⟩ := hsame
    exact List.mem_reverse.1 (List.mem_of_find?_eq_some hfind)
  · intro hmem
    cases hfind : scope.bindings.reverse.find? fun bound =>
        bound.place == place && bound.binding.name == name with
    | none =>
        have hnone := List.find?_eq_none.1 hfind _ (List.mem_reverse.2 hmem)
        simp only [beq_self_eq_true, Bool.and_self, not_true_eq_false] at hnone
    | some found =>
        -- the last binding of the name has the path that every binding of the name has
        have hsame := List.find?_some hfind
        simp only [Bool.and_eq_true, beq_iff_eq] at hsame
        have hfound := List.mem_reverse.1 (List.mem_of_find?_eq_some hfind)
        rw [Option.map_some, h found hfound _ hmem hsame.1 hsame.2]

/-! ## Scopes in another order -/

/-- Two scopes differ in their order only: they have the same types and bind the same names to the
same paths. -/
structure Scope.Reorders (scope other : Scope) : Prop where
  /-- The types are the same, in some order. -/
  types : scope.types.Perm other.types
  /-- The names stand for the same paths. -/
  bound : ∀ place name, scope.bound? place name = other.bound? place name

/-- The only item of a list is found in any order of the list. -/
theorem only?_eq_of_perm {α : Type} {items others : List α} (h : items.Perm others) :
    only? items = only? others := by
  cases items with
  | nil => rw [h.nil_eq]
  | cons first rest =>
      cases rest with
      | nil => rw [List.singleton_perm.1 h]
      | cons second more =>
          -- neither list has an only item
          obtain ⟨one, two, many, rfl⟩ : ∃ one two many, others = one :: two :: many := by
            have hlength := h.length_eq
            match others, hlength with
            | one :: two :: many, _ => exact ⟨one, two, many, rfl⟩
          rfl

section

variable {scope other : Scope}

/-- Scopes that differ in their order find the same type for a path. -/
theorem Scope.lookup?_eq_of_reorders (h : scope.Reorders other) (place : QualifiedName)
    (path : List String) : scope.lookup? place path = other.lookup? place path := by
  unfold Scope.lookup?
  split
  · rfl
  · rename_i last _
    have hcandidates : (scope.types.filter fun declared => declared.name.simple == last).Perm
        (other.types.filter fun declared => declared.name.simple == last) :=
      h.types.filter _
    have hmatching := hcandidates.filter fun declared => path.isSuffixOf declared.name.segments
    dsimp only
    split
    · exact only?_eq_of_perm (hcandidates.filter _)
    · rw [only?_eq_of_perm hmatching, only?_eq_of_perm (hmatching.filter _)]

/-- In scopes that differ in their order a written type stands for the same declared type. -/
theorem Scope.resolve?_eq_of_reorders (h : scope.Reorders other) (place : QualifiedName)
    (written : WrittenType) : scope.resolve? place written = other.resolve? place written := by
  have hexpand (path : List String) : scope.expand place path = other.expand place path := by
    cases path with
    | nil => rfl
    | cons first rest => rw [Scope.expand, Scope.expand, h.bound]
  unfold Scope.resolve?
  split
  · rfl
  · rw [hexpand, lookup?_eq_of_reorders h]

/-- Scopes of the same items in some order differ in their order only, if no module binds one name
to two paths. -/
theorem Scope.reorders_ofPlaced {items others : List PlacedItem} (h : items.Perm others)
    (honce : (ofPlaced items).BindsOnce) : (ofPlaced items).Reorders (ofPlaced others) := by
  have hbindings : (ofPlaced items).bindings.Perm (ofPlaced others).bindings :=
    h.flatMap_right PlacedItem.bindings
  have honce' : (ofPlaced others).BindsOnce := by
    intro bound hbound found hfound
    exact honce bound (hbindings.mem_iff.2 hbound) found (hbindings.mem_iff.2 hfound)
  refine ⟨h.filterMap PlacedItem.declaredType?, ?_⟩
  intro place name
  ext path
  rw [bound?_eq_some_iff honce, bound?_eq_some_iff honce', hbindings.mem_iff]

end

/-- Files in another order make a scope that differs in its order only. -/
theorem Project.reorders_of_perm {files others : List File} (h : files.Perm others)
    (honce : (⟨files⟩ : Project).scope.BindsOnce) :
    (⟨files⟩ : Project).scope.Reorders (⟨others⟩ : Project).scope :=
  Scope.reorders_ofPlaced (h.flatMap_right File.placed) honce

/-! ## Projects in another order -/

/-- If no module binds one name to two paths, then the order of the files has no part in what the
items declare: in every order a written type stands for the same declared type, every item of every
file makes the same declaration, and the declarations of the project are those of its files, each as
it was, in the new order of the files. -/
theorem declarations_of_perm {files others : List File} (hperm : files.Perm others)
    (honce : (⟨files⟩ : Project).scope.BindsOnce) :
    (∀ place written, (⟨others⟩ : Project).scope.resolve? place written =
      (⟨files⟩ : Project).scope.resolve? place written) ∧
    (∀ (file : String) (placed : PlacedItem),
      placed.declaration? (⟨others⟩ : Project).scope file =
        placed.declaration? (⟨files⟩ : Project).scope file) ∧
    (⟨files⟩ : Project).declarations =
      files.flatMap (·.declarations (⟨files⟩ : Project).scope) ∧
    (⟨others⟩ : Project).declarations =
      others.flatMap (·.declarations (⟨files⟩ : Project).scope) := by
  have hreorders := Project.reorders_of_perm hperm honce
  have hresolve (place : QualifiedName) (written : WrittenType) :
      (⟨others⟩ : Project).scope.resolve? place written =
        (⟨files⟩ : Project).scope.resolve? place written :=
    (Scope.resolve?_eq_of_reorders hreorders place written).symm
  have hitem (file : String) (placed : PlacedItem) :
      placed.declaration? (⟨others⟩ : Project).scope file =
        placed.declaration? (⟨files⟩ : Project).scope file :=
    PlacedItem.declaration?_congr (hresolve placed.place) file
  refine ⟨hresolve, hitem, rfl, ?_⟩
  rw [Project.declarations]
  simp only [File.declarations, hitem]

/-- A file of payload types, two of which are called `Tap`. -/
def payloadsFile : File where
  path := "src/payloads.rs"
  place := Path.moduleFor "src" "src/payloads.rs"
  outline := ⟨[
    .struct [] (.plain "Tap" (by decide)) (.named [.plain "pressure" (by decide)]),
    .module [] (.plain "old" (by decide))
      [.struct [] (.plain "Tap" (by decide)) .none]]⟩

/-- A file with a marked enum that wraps one of these types under another name. -/
def gesturesFile : File where
  path := "src/gestures.rs"
  place := Path.moduleFor "src" "src/gestures.rs"
  outline := ⟨[
    .use [] false (.within (.plain "crate" (by decide)) (.within (.plain "payloads" (by decide))
      (.renamed (.plain "Tap" (by decide)) (.plain "Touch" (by decide))))),
    .enum [.mark 2] (.plain "Gesture" (by decide)) ⟨0, 0⟩
      [⟨.plain "Tapped" (by decide),
        .positional [.path false [.plain "Touch" (by decide)] false none]⟩]]⟩

/-- The enum has the fields of the imported type, whichever file comes first. -/
theorem declarations_of_gestures :
    [gesturesFile, payloadsFile].Perm [payloadsFile, gesturesFile] ∧
      (⟨[payloadsFile, gesturesFile]⟩ : Project).declarations =
        gesturesFile.declarations (⟨[gesturesFile, payloadsFile]⟩ : Project).scope ∧
      (⟨[payloadsFile, gesturesFile]⟩ : Project).declarations.map
          (fun declaration => declaration.members.map Member.constructors) =
        [[[["pressure"]]]] := by
  have hperm : [gesturesFile, payloadsFile].Perm [payloadsFile, gesturesFile] := .swap _ _ _
  obtain ⟨-, -, -, hdeclarations⟩ := declarations_of_perm hperm (by decide)
  refine ⟨hperm, ?_, ?_⟩
  · rw [hdeclarations]
    rfl
  · decide

end EventTracking.Code
