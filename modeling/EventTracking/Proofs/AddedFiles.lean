import EventTracking.Proofs.ImportScope
import EventTracking.Proofs.NamedTypes

/-!
# Further files

Files that are added to a project bring further types. A type that is the only one of its kind in
the larger project is either the only one of its kind among the types that were there before, or it
has come with the added files and was not there before. This is so for every kind of type, and so
for each of the three ways in which a path names a type.

So if the added files have no `use` items, what a variant's type stands for in the larger project is
what it stood for before, or a type of the added files, or nothing. It never changes from one old
type to another.

Main statements: an only type of the larger project is an old only type or a new type
(`hasOnly_or_new`), files without `use` items leave all names bound as they were
(`bindings_eq`), and what a written type stands for is what it stood for or new (`resolve?_or_new`).
-/

namespace EventTracking.Code

/-! ## Larger projects -/

/-- A project has the files of a smaller one, in their order, and further files anywhere between
them. -/
structure Project.Extends (whole project : Project) (added : List File) : Prop where
  /-- The files of the smaller project keep their order. -/
  kept : project.files.Sublist whole.files
  /-- The other files are the added ones. -/
  perm : whole.files.Perm (project.files ++ added)

/-- What a longer list gives is what a sublist gives, if the other items give nothing. -/
theorem flatMap_eq_of_sublist {α β : Type} {give : α → List β} {kept whole added : List α}
    (hkept : kept.Sublist whole) (hperm : whole.Perm (kept ++ added))
    (hnone : ∀ item ∈ added, give item = []) : whole.flatMap give = kept.flatMap give := by
  induction hkept generalizing added with
  | slnil => rfl
  | @cons kept whole item hkept ih =>
      -- this item is one of the added ones, and the rest of these are left over
      obtain ⟨rest, hrest⟩ := hkept.exists_perm_append
      have hadded : added.Perm (item :: rest) := by
        rw [← List.perm_append_left_iff kept]
        exact (hperm.symm.trans (hrest.cons item)).trans List.perm_middle.symm
      have hitem : give item = [] := hnone item (hadded.mem_iff.2 List.mem_cons_self)
      rw [List.flatMap_cons, hitem, List.nil_append]
      exact ih hrest fun other hother =>
        hnone other (hadded.mem_iff.2 (List.mem_cons_of_mem item hother))
  | @cons_cons kept whole item hkept ih =>
      rw [List.flatMap_cons, List.flatMap_cons, ih hperm.cons_inv hnone]

section

variable {whole project : Project} {added : List File}

/-- The types of a larger project are the old types and those of the added files. -/
theorem Project.Extends.types_perm (h : whole.Extends project added) :
    whole.scope.types.Perm (project.scope.types ++ (⟨added⟩ : Project).scope.types) := by
  have hplaced : whole.placed.Perm (project.placed ++ (⟨added⟩ : Project).placed) := by
    rw [← Project.placed_append]
    exact h.perm.flatMap_right File.placed
  have htypes := hplaced.filterMap PlacedItem.declaredType?
  rw [List.filterMap_append] at htypes
  exact htypes

/-- If the added files have no `use` items, all names are bound as they were. -/
theorem Project.Extends.bindings_eq (h : whole.Extends project added)
    (huses : ∀ file ∈ added, ∀ placed ∈ file.placed, placed.item.isUse = false) :
    whole.scope.bindings = project.scope.bindings := by
  have hfiles (one : Project) : one.scope.bindings =
      one.files.flatMap fun file => file.placed.flatMap PlacedItem.bindings := by
    rw [Project.scope, Scope.ofPlaced, Project.placed, List.flatMap_assoc]
  rw [hfiles, hfiles]
  refine flatMap_eq_of_sublist h.kept h.perm ?_
  intro file hfile
  rw [List.flatMap_eq_nil_iff]
  intro placed hplaced
  rw [PlacedItem.bindings, Item.bindings_eq_nil (huses file hfile placed hplaced), List.map_nil]

end

/-! ## Types of larger scopes -/

section

variable {scope wider : Scope} {added : List DeclaredType} {found : DeclaredType}

/-- The only type of its kind in a larger scope was the only one of its kind before, or it is
new. -/
theorem Scope.HasOnly.hasOnly_or_new {test : DeclaredType → Bool}
    (htypes : wider.types.Perm (scope.types ++ added)) (h : wider.HasOnly test found) :
    scope.HasOnly test found ∨ (found ∈ added ∧ found ∉ scope.types) := by
  have hfound := h.holds
  have hfiltered := htypes.filter test
  rw [List.filter_append, h] at hfiltered
  -- one type is left in all, either of the old types or of the new ones
  rcases List.append_eq_singleton_iff.1 (List.singleton_perm.1 hfiltered).symm with
    ⟨hold, hnew⟩ | ⟨hold, -⟩
  · right
    constructor
    · have hmem : found ∈ added.filter test := by
        rw [hnew]
        exact List.mem_singleton_self found
      exact (List.mem_filter.1 hmem).1
    · intro hmem
      exact List.filter_eq_nil_iff.1 hold found hmem hfound
  · exact .inl hold

/-- The type that a path names in a larger scope was named by it before, or it is new. -/
theorem Scope.Names.names_or_new {place : QualifiedName} {path : List String}
    (htypes : wider.types.Perm (scope.types ++ added)) (h : wider.Names place path found) :
    scope.Names place path found ∨ (found ∈ added ∧ found ∉ scope.types) := by
  cases h with
  | anchored hanchored hlast honly =>
      exact (honly.hasOnly_or_new htypes).imp_left (.anchored hanchored hlast)
  | ending hfree hne honly => exact (honly.hasOnly_or_new htypes).imp_left (.ending hfree hne)
  | here hfree hne honly => exact (honly.hasOnly_or_new htypes).imp_left (.here hfree hne)

/-- If no names are bound otherwise, a written type stands for what it stood for before, or for a
new type. -/
theorem Scope.resolve?_or_new {place : QualifiedName} {written : WrittenType}
    (htypes : wider.types.Perm (scope.types ++ added)) (hbindings : wider.bindings = scope.bindings)
    (h : wider.resolve? place written = some found) :
    scope.resolve? place written = some found ∨ (found ∈ added ∧ found ∉ scope.types) := by
  have hbound (name : String) : wider.bound? place name = scope.bound? place name := by
    rw [bound?, bound?, hbindings]
  have hexpand (path : List String) : wider.expand place path = scope.expand place path := by
    cases path with
    | nil => rfl
    | cons first rest => rw [expand, expand, hbound]
  -- the same path is looked up before and after
  obtain ⟨segments, hunboxed, hnames⟩ := resolve?_eq_some_iff.1 h
  rw [hexpand] at hnames
  refine (hnames.names_or_new htypes).imp_left fun hold => ?_
  exact resolve?_eq_some_iff.2 ⟨segments, hunboxed, hold⟩

end

/-! ## Variants in larger projects -/

/-- A variant of a project, seen in a larger project. -/
def WrappingVariant.inWhole {whole project : Project} {added : List File}
    (wrapping : WrappingVariant project) (h : whole.Extends project added) :
    WrappingVariant whole :=
  { wrapping with mem_files := h.kept.subset wrapping.mem_files }

/-- Let files without `use` items be added to a project, anywhere between its files. If a variant's
type stood for a declared type, then it now stands for this type, or for a type that only the added
files declare, or for nothing. If it stood for nothing, then it now stands for nothing or for a type
that only the added files declare. Before and after, the variant is described by what its type
stands for. -/
theorem target_of_added_files {whole project : Project} {added : List File}
    (hextends : whole.Extends project added)
    (huses : ∀ file ∈ added, ∀ placed ∈ file.placed, placed.item.isUse = false)
    (wrapping : WrappingVariant project) :
    (∀ found, wrapping.target? = some found →
      (wrapping.inWhole hextends).target? = some found ∨
      (∃ other ∈ (⟨added⟩ : Project).scope.types, other ∉ project.scope.types ∧
        (wrapping.inWhole hextends).target? = some other) ∨
      (wrapping.inWhole hextends).target? = none) ∧
    (wrapping.target? = none →
      (wrapping.inWhole hextends).target? = none ∨
      ∃ other ∈ (⟨added⟩ : Project).scope.types, other ∉ project.scope.types ∧
        (wrapping.inWhole hextends).target? = some other) ∧
    wrapping.IsDescribed (.ofWrapped wrapping.target?) ∧
    (wrapping.inWhole hextends).IsDescribed
      (.ofWrapped (wrapping.inWhole hextends).target?) := by
  have hold_or_new (other : DeclaredType)
      (hother : (wrapping.inWhole hextends).target? = some other) :
      wrapping.target? = some other ∨
        (other ∈ (⟨added⟩ : Project).scope.types ∧ other ∉ project.scope.types) :=
    Scope.resolve?_or_new hextends.types_perm (hextends.bindings_eq huses) hother
  refine ⟨?_, ?_, wrapping.isDescribed_ofWrapped,
    (wrapping.inWhole hextends).isDescribed_ofWrapped⟩
  · intro found hfound
    cases htarget : (wrapping.inWhole hextends).target? with
    | none => exact .inr (.inr rfl)
    | some other =>
        rcases hold_or_new other htarget with hold | ⟨hnew, hnone⟩
        · rw [← hold, hfound]
          exact .inl rfl
        · exact .inr (.inl ⟨other, hnew, hnone, rfl⟩)
  · intro hunfound
    cases htarget : (wrapping.inWhole hextends).target? with
    | none => exact .inl rfl
    | some other =>
        rcases hold_or_new other htarget with hold | ⟨hnew, hnone⟩
        · cases hold.symm.trans hunfound
        · exact .inr ⟨other, hnew, hnone, rfl⟩

/-- A file with a marked enum around the struct `Clicked` of a module `sounds`. -/
def mixerFile : File where
  path := "src/mixer.rs"
  place := Path.moduleFor "src" "src/mixer.rs"
  outline := ⟨[.enum [.mark 4] (.plain "Mixing" (by decide)) ⟨0, 0⟩
    [⟨.plain "Clicked" (.refl true),
      .positional [.path false
        [.plain "sounds" (by decide), .plain "Clicked" (.refl true)] false none]⟩]]⟩

/-- A project with this file and with two structs that are called `Clicked`. -/
def mixerProject : Project :=
  ⟨[mixerFile, clickedStructFile "src/panels.rs" (.plain "height" (by decide)), soundsFile]⟩

/-- The variant around one of the structs. -/
def mixerClicked : WrappingVariant mixerProject :=
  ⟨mixerFile, _, _, _, _, _, 0, _, _, List.mem_cons_self, List.mem_cons_self, rfl,
    any_isMarker_mark 4, rfl, rfl⟩

/-- A file that declares the struct `Clicked` in another module `sounds`. -/
def innerSoundsFile : File :=
  clickedStructFile "src/mixer/sounds.rs" (.plain "level" (by decide))

/-- The project with this file in front. -/
theorem extends_mixerProject :
    (⟨innerSoundsFile :: mixerProject.files⟩ : Project).Extends mixerProject [innerSoundsFile] :=
  ⟨.cons _ (.refl _), (List.perm_append_singleton _ _).symm⟩

/-- The file in front does not lead the variant from the one old struct to the other. -/
theorem target_of_innerSounds :
    mixerClicked.target? = some ⟨⟨["crate", "sounds", "Clicked"]⟩, .named ["volume"]⟩ ∧
      ∀ other ∈ mixerProject.scope.types,
        (mixerClicked.inWhole extends_mixerProject).target? = some other →
          other = ⟨⟨["crate", "sounds", "Clicked"]⟩, .named ["volume"]⟩ := by
  have hold : mixerClicked.target? =
      some ⟨⟨["crate", "sounds", "Clicked"]⟩, .named ["volume"]⟩ := by decide
  refine ⟨hold, fun other hother htarget => ?_⟩
  obtain ⟨hknown, -, -, -⟩ := target_of_added_files extends_mixerProject (by decide) mixerClicked
  rcases hknown _ hold with hsame | ⟨new, -, hnew, hfound⟩ | hnone
  · exact Option.some.inj (htarget.symm.trans hsame)
  · obtain rfl := Option.some.inj (htarget.symm.trans hfound)
    exact absurd hother hnew
  · cases htarget.symm.trans hnone

end EventTracking.Code
