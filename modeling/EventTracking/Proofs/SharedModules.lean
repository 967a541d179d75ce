import EventTracking.Proofs.PathComponents

/-!
# Modules of two files

A source file defines the module that its path leads to: a name for each directory and one for the
file. Some files stand for their directory instead: those that are called `mod`, and directly below
the root those that are called `lib` or `main`.

So two files define one module only if one of them stands for a directory that the other one is
named after, or if both stand for the root itself.

Main statements: the module of a file is known from the names that lead to it
(`moduleFor_of_leadsTo`), and plain names lead to a file from any root (`leadsTo_pathBelow`).
-/

namespace EventTracking.Path

/-! ## Paths of source files -/

/-- The way to a source file from a directory, by plain names. -/
structure SourcePath where
  /-- The directories on the way. -/
  directories : List String
  /-- The name of the file without its extension. -/
  stem : String
  /-- The names of the directories are plain. -/
  isPlain_directories : ∀ name ∈ directories, IsPlain name
  /-- The stem is not empty. -/
  stem_ne : stem ≠ ""
  /-- The stem holds no separator. -/
  separator_notMem : '/' ∉ stem.toList

namespace SourcePath

/-- The names on the way, the last of which is that of the file. -/
def names (path : SourcePath) : List String := path.directories ++ [path.stem ++ ".rs"]

/-- The way leads from a directory to a file. -/
def LeadsTo (path : SourcePath) (root file : String) : Prop :=
  below? root file = some (path.names.map .entry)

/-- The file stands for its directory. -/
def IsIndex (path : SourcePath) : Prop :=
  path.stem = "mod" ∨ path.directories = [] ∧ (path.stem = "lib" ∨ path.stem = "main")

instance (path : SourcePath) : Decidable path.IsIndex :=
  inferInstanceAs (Decidable
    (path.stem = "mod" ∨ path.directories = [] ∧ (path.stem = "lib" ∨ path.stem = "main")))

/-- The names of the modules that enclose what is in the file, below the crate's root. -/
def modules (path : SourcePath) : List String :=
  if path.IsIndex then path.directories else path.directories ++ [path.stem]

/-- The file is `D/s.rs` and the other one `D/s/mod.rs`, and the first does not stand for `D`. -/
structure IsNamedAfter (path index : SourcePath) : Prop where
  /-- The directory of the other file is called after this one. -/
  directories : index.directories = path.directories ++ [path.stem]
  /-- The other file is called `mod`. -/
  stem : index.stem = "mod"
  /-- This one is not. -/
  ne_mod : path.stem ≠ "mod"
  /-- Directly below the root it is not called `lib` or `main`. -/
  ne_root : path.directories = [] → path.stem ≠ "lib" ∧ path.stem ≠ "main"

/-- The file stands directly below the root and is called `lib`, `main` or `mod`. -/
structure IsRoot (path : SourcePath) : Prop where
  /-- No directory is on the way. -/
  directories : path.directories = []
  /-- The file has one of the three names. -/
  stem : path.stem ∈ ["lib", "main", "mod"]

end SourcePath

/-! ## Names that lead to a file -/

/-- A plain name is the only component of the path that it is. -/
theorem components_of_isPlain {name : String} (h : IsPlain name) :
    components name = [.entry name] := by
  have hleading : leadingComponent name.toList = some (.entry name) := by
    unfold leadingComponent
    split
    · rename_i hn
      exact absurd hn h.ne_nil
    · rename_i hn
      exact absurd hn h.ne_current
    · exact innerComponent_of_isPlain h
  rw [components_of_parts h.ne_nil (parts_of_notMem h.separator_notMem), hleading]
  rfl

/-- Plain names that are joined to any root are found below it. -/
theorem below?_pathBelow (root : String) {names : List String} (h : ∀ name ∈ names, IsPlain name) :
    below? root (pathBelow root names) = some (names.map .entry) := by
  have hcomponents : components (pathBelow root names) =
      components root ++ names.map .entry := by
    by_cases hroot : root.toList = []
    · -- the first name stands alone, and the others are joined to it
      obtain rfl : root = "" := by rwa [← String.toList_inj]
      cases names with
      | nil => rfl
      | cons first rest =>
          obtain ⟨hfirst, hrest⟩ := List.forall_mem_cons.1 h
          have hjoin : pathBelow "" (first :: rest) = pathBelow first rest := by
            rw [pathBelow, List.foldl_cons, join_empty, pathBelow]
          rw [hjoin, components_pathBelow hfirst.ne_nil hrest, components_of_isPlain hfirst]
          rfl
    · exact components_pathBelow hroot h
  rw [below?, hcomponents, if_pos (List.isPrefixOf_iff_prefix.2 ⟨_, rfl⟩), List.drop_left]

/-- A text that has got an ending has it. -/
theorem withoutEnding?_append (text ending : String) :
    withoutEnding? ending (text ++ ending) = some text := by
  have hsuffix : ending.toList.isSuffixOf (text ++ ending).toList = true := by
    rw [List.isSuffixOf_iff_suffix, String.toList_append]
    exact List.suffix_append _ _
  rw [withoutEnding?, if_pos hsuffix, String.toList_append, List.length_append,
    Nat.add_sub_cancel, List.take_left, String.ofList_toList]

namespace SourcePath

/-- All names on the way are plain. -/
theorem isPlain_of_mem_names {path : SourcePath} {name : String} (h : name ∈ path.names) :
    IsPlain name := by
  rcases List.mem_append.1 h with hdirectory | hfile
  · exact path.isPlain_directories name hdirectory
  · obtain rfl := List.mem_singleton.1 hfile
    have hlist : (path.stem ++ ".rs").toList = path.stem.toList ++ ['.', 'r', 's'] := by
      rw [String.toList_append]
      rfl
    have hlength : (path.stem ++ ".rs").toList.length = path.stem.toList.length + 3 := by
      rw [hlist, List.length_append]
      rfl
    refine ⟨?_, ?_, ?_, ?_⟩
    · intro hnil
      rw [hnil] at hlength
      cases hlength
    · intro hcurrent
      rw [hcurrent, List.length_singleton] at hlength
      omega
    · intro hparent
      rw [hparent, List.length_cons, List.length_singleton] at hlength
      omega
    · rw [hlist, List.mem_append, not_or]
      exact ⟨path.separator_notMem, by decide⟩

/-- Every way leads to a file from any root. -/
theorem leadsTo_pathBelow (path : SourcePath) (root : String) :
    path.LeadsTo root (pathBelow root path.names) :=
  below?_pathBelow root fun _ => isPlain_of_mem_names

/-! ## Modules of files -/

/-- A file defines the module of the names that lead there. -/
theorem moduleFor_of_leadsTo {path : SourcePath} {root file : String}
    (h : path.LeadsTo root file) : moduleFor root file = ⟨"crate" :: path.modules⟩ := by
  have htexts : (path.directories.map Component.entry).map Component.text = path.directories := by
    rw [List.map_map]
    exact List.map_id path.directories
  have hstem : withoutEnding? ".rs" (Component.entry (path.stem ++ ".rs")).text =
      some path.stem := withoutEnding?_append path.stem ".rs"
  rw [moduleFor, h]
  dsimp only
  rw [names, List.map_append, List.map_singleton, moduleOf, List.getLast?_concat]
  dsimp only
  rw [List.dropLast_concat, htexts, hstem, Option.getD_some, modules]
  have hindex : (path.stem = "mod" || (path.directories.map Component.entry).isEmpty &&
      (path.stem = "lib" || path.stem = "main")) = true ↔ path.IsIndex := by
    simp [IsIndex]
  by_cases hp : path.IsIndex
  · rw [if_pos (hindex.2 hp), if_pos hp]
  · rw [if_neg (mt hindex.1 hp), if_neg hp]
    rfl

variable {path other : SourcePath}

/-- The ways to two files are the same if the directories and the stems are. -/
theorem names_eq (hdirectories : path.directories = other.directories)
    (hstem : path.stem = other.stem) : path.names = other.names := by
  rw [names, names, hdirectories, hstem]

/-- A file that something else is named after does not stand for its directory. -/
theorem IsNamedAfter.not_isIndex (h : path.IsNamedAfter other) : ¬ path.IsIndex := by
  rintro (hmod | ⟨hroot, hlib | hmain⟩)
  · exact h.ne_mod hmod
  · exact (h.ne_root hroot).1 hlib
  · exact (h.ne_root hroot).2 hmain

/-- The file in a directory that is named after something else stands for that directory. -/
theorem IsNamedAfter.isIndex (h : path.IsNamedAfter other) : other.IsIndex := .inl h.stem

/-- A file at the root stands for the root. -/
theorem IsRoot.isIndex (h : path.IsRoot) : path.IsIndex := by
  have hstem := h.stem
  simp only [List.mem_cons, List.not_mem_nil, or_false] at hstem
  rcases hstem with hlib | hmain | hmod
  · exact .inr ⟨h.directories, .inl hlib⟩
  · exact .inr ⟨h.directories, .inr hmain⟩
  · exact .inl hmod

/-- A file that does not stand for its directory shares its modules with one that does, exactly if
that directory is named after it. -/
theorem modules_eq_iff_of_isIndex (hpath : ¬ path.IsIndex) (hother : other.IsIndex) :
    path.modules = other.modules ↔ path.IsNamedAfter other := by
  rw [modules, if_neg hpath, modules, if_pos hother]
  constructor
  · intro h
    have hne : other.directories ≠ [] := by
      rw [← h]
      exact List.concat_ne_nil _ _
    -- below a directory only the name `mod` stands for it
    have hmod : other.stem = "mod" := by
      rcases hother with hmod | ⟨hroot, -⟩
      · exact hmod
      · exact absurd hroot hne
    refine ⟨h.symm, hmod, fun hstem => hpath (.inl hstem), fun hroot => ⟨?_, ?_⟩⟩
    · exact fun hlib => hpath (.inr ⟨hroot, .inl hlib⟩)
    · exact fun hmain => hpath (.inr ⟨hroot, .inr hmain⟩)
  · intro h
    exact h.directories.symm

/-- Two files that both stand for their directories share their modules only at the root. -/
theorem modules_eq_iff_of_isIndex_of_isIndex (hne : path.names ≠ other.names)
    (hpath : path.IsIndex) (hother : other.IsIndex) :
    path.modules = other.modules ↔ path.IsRoot ∧ other.IsRoot := by
  rw [modules, if_pos hpath, modules, if_pos hother]
  constructor
  · intro h
    by_cases hroot : path.directories = []
    · have hstem {one : SourcePath} (hone : one.IsIndex) : one.stem ∈ ["lib", "main", "mod"] := by
        simp only [List.mem_cons, List.not_mem_nil, or_false]
        rcases hone with hmod | ⟨-, hlib | hmain⟩
        · exact .inr (.inr hmod)
        · exact .inl hlib
        · exact .inr (.inl hmain)
      exact ⟨⟨hroot, hstem hpath⟩, ⟨h ▸ hroot, hstem hother⟩⟩
    · -- below a directory both are called `mod`
      have hmod {one : SourcePath} (hone : one.IsIndex) (hinside : one.directories ≠ []) :
          one.stem = "mod" := by
        rcases hone with hmod | ⟨hnil, -⟩
        · exact hmod
        · exact absurd hnil hinside
      exact absurd (names_eq h ((hmod hpath hroot).trans (hmod hother (h ▸ hroot)).symm)) hne
  · rintro ⟨hpathRoot, hotherRoot⟩
    rw [hpathRoot.directories, hotherRoot.directories]

end SourcePath

open SourcePath

/-- Let different ways lead from a directory to two source files. The files define the same module
exactly if one of them is `D/s.rs`, without standing for `D` itself, and the other is `D/s/mod.rs`,
or if both stand directly below the directory and are called `lib`, `main` or `mod`. -/
theorem moduleFor_eq_iff {root file otherFile : String} {path other : SourcePath}
    (hfile : path.LeadsTo root file) (hother : other.LeadsTo root otherFile)
    (hne : path.names ≠ other.names) :
    moduleFor root file = moduleFor root otherFile ↔
      (path.IsNamedAfter other ∨ other.IsNamedAfter path) ∨ path.IsRoot ∧ other.IsRoot := by
  have hmodules : moduleFor root file = moduleFor root otherFile ↔
      path.modules = other.modules := by
    rw [moduleFor_of_leadsTo hfile, moduleFor_of_leadsTo hother, QualifiedName.mk.injEq,
      List.cons.injEq, eq_self, true_and]
  rw [hmodules]
  by_cases hp : path.IsIndex <;> by_cases ho : other.IsIndex
  · rw [modules_eq_iff_of_isIndex_of_isIndex hne hp ho]
    refine (or_iff_right ?_).symm
    rintro (h | h)
    · exact h.not_isIndex hp
    · exact h.not_isIndex ho
  · rw [eq_comm, modules_eq_iff_of_isIndex ho hp, or_assoc]
    rw [or_iff_right fun h : path.IsNamedAfter other => h.not_isIndex hp]
    exact (or_iff_left fun h : path.IsRoot ∧ other.IsRoot => ho h.2.isIndex).symm
  · rw [modules_eq_iff_of_isIndex hp ho, or_assoc]
    refine (or_iff_left ?_).symm
    rintro (h | h)
    · exact h.not_isIndex ho
    · exact hp h.1.isIndex
  · rw [modules, if_neg hp, modules, if_neg ho]
    refine iff_of_false ?_ ?_
    · intro h
      obtain ⟨hdirectories, hstem⟩ := List.append_inj' h rfl
      exact hne (names_eq hdirectories (List.singleton_inj.1 hstem))
    · rintro ((h | h) | h)
      · exact ho h.isIndex
      · exact hp h.isIndex
      · exact hp h.1.isIndex

/-- A way whose names are plain. -/
def wayTo (directories : List String) (stem : String)
    (h : (∀ name ∈ directories, IsPlain name) ∧ stem ≠ "" ∧ '/' ∉ stem.toList) : SourcePath :=
  ⟨directories, stem, h.1, h.2.1, h.2.2⟩

/-- A module `lib` is shared by a file and a directory of that name, unless the file is that of the
library, which shares its module with the root's own file. -/
theorem moduleFor_eq_of_lib :
    moduleFor "src" "src/ui/lib.rs" = moduleFor "src" "src/ui/lib/mod.rs" ∧
      moduleFor "src" "src/lib.rs" ≠ moduleFor "src" "src/lib/mod.rs" ∧
      moduleFor "src" "src/lib.rs" = moduleFor "src" "src/mod.rs" := by
  refine ⟨?_, ?_, ?_⟩
  · have hfile : (wayTo ["ui"] "lib" (by decide)).LeadsTo "src" "src/ui/lib.rs" := rfl
    have hother : (wayTo ["ui", "lib"] "mod" (by decide)).LeadsTo "src" "src/ui/lib/mod.rs" := rfl
    exact (moduleFor_eq_iff hfile hother (by decide)).2
      (.inl (.inl ⟨rfl, rfl, by decide, by decide⟩))
  · have hfile : (wayTo [] "lib" (by decide)).LeadsTo "src" "src/lib.rs" := rfl
    have hother : (wayTo ["lib"] "mod" (by decide)).LeadsTo "src" "src/lib/mod.rs" := rfl
    intro h
    rcases (moduleFor_eq_iff hfile hother (by decide)).1 h with (hnamed | hnamed) | ⟨-, hroot⟩
    · exact (hnamed.ne_root rfl).1 rfl
    · exact hnamed.ne_mod rfl
    · cases hroot.directories
  · have hfile : (wayTo [] "lib" (by decide)).LeadsTo "src" "src/lib.rs" := rfl
    have hother : (wayTo [] "mod" (by decide)).LeadsTo "src" "src/mod.rs" := rfl
    exact (moduleFor_eq_iff hfile hother (by decide)).2 (.inr ⟨⟨rfl, by decide⟩, ⟨rfl, by decide⟩⟩)

end EventTracking.Path
