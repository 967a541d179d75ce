import EventTracking.Proofs.ImportedPaths
import Mathlib.Data.List.DropRight

/-!
# Anchored paths

A path that begins with `crate` names a type by its full name. A path that begins with `self` or
`super` begins at the module in which it is written, or above it: each leading `super` takes the
last word off the module, and the words behind it are added. Such a path names the type of exactly
the name that it stands for, or nothing.

Something has to be left of the module. If the steps take off all of it, then the path stands for
nothing, and it is looked up as if it were not anchored: it names a type whose own name ends in it,
steps included. This takes a module that is called `super`, as a file of that name defines it.

Main statements: what anchored paths stand for (`anchored?_eq_some_iff`), that nothing but their
exact name is found (`exact_name_of_anchored_path`), and that a path which climbs above the root
ends no declared name without the word `super` (`ClimbsOut.endsIn_eq_false`).
-/

namespace EventTracking

/-! ## Modules above -/

namespace QualifiedName

variable {name parent : QualifiedName}

/-- A name of one segment or none has no parent. -/
theorem parent?_eq_none_iff : name.parent? = none ↔ name.segments.length ≤ 1 := by
  obtain ⟨segments⟩ := name
  rw [parent?]
  cases segments with
  | nil => simp
  | cons first rest =>
      cases rest with
      | nil => simp
      | cons second more => simp

/-- The parent of a name has one segment less, and it has one at least. -/
theorem length_of_parent? (h : name.parent? = some parent) :
    0 < parent.segments.length ∧ name.segments.length = parent.segments.length + 1 := by
  have hlength : name.segments.length = parent.segments.length + 1 := by
    rw [eq_child_of_parent? h, segments_child, List.length_append, List.length_singleton]
  have hlong : ¬ name.segments.length ≤ 1 := by
    rw [← parent?_eq_none_iff, h]
    simp
  omega

end QualifiedName

namespace Code

/-! ## Steps up -/

/-- The paths that begin with `self` or `super`, by the number of steps up and the words behind
them. -/
inductive IsRelative (ups : Nat) (rest : List String) : List String → Prop where
  /-- The steps may follow the word `self`. -/
  | fromSelf (hrest : rest.head? ≠ some "super") :
      IsRelative ups rest ("self" :: (List.replicate ups "super" ++ rest))
  /-- Without this word there is one step at least. -/
  | fromSuper (hups : 0 < ups) (hrest : rest.head? ≠ some "super") :
      IsRelative ups rest (List.replicate ups "super" ++ rest)

/-- What an anchored path stands for in a module. -/
inductive StandsFor (place : QualifiedName) : List String → List String → Prop where
  /-- A path from the root stands for itself. -/
  | fromRoot (rest : List String) : StandsFor place ("crate" :: rest) ("crate" :: rest)
  /-- Each step up takes a word off the module, of which something has to be left. -/
  | relative {ups : Nat} {rest path : List String} (hpath : IsRelative ups rest path)
      (hups : ups = 0 ∨ ups < place.segments.length) :
      StandsFor place path (place.segments.rdrop ups ++ rest)

/-- The steps of a path lead above the root of the module in which it is written. -/
def ClimbsOut (place : QualifiedName) (path : List String) : Prop :=
  ∃ ups rest, IsRelative ups rest path ∧ 0 < ups ∧ place.segments.length ≤ ups

/-- The steps up at the head of a path are counted. -/
theorem exists_eq_replicate_append (path : List String) :
    ∃ ups rest, path = List.replicate ups "super" ++ rest ∧ rest.head? ≠ some "super" := by
  induction path with
  | nil => exact ⟨0, [], rfl, by simp⟩
  | cons first rest ih =>
      by_cases hfirst : first = "super"
      · obtain ⟨ups, more, hrest, hmore⟩ := ih
        refine ⟨ups + 1, more, ?_, hmore⟩
        rw [List.replicate_succ, List.cons_append, ← hrest, hfirst]
      · refine ⟨0, first :: rest, rfl, ?_⟩
        simp [hfirst]

/-- A path that begins with `self` or `super` is relative. -/
theorem exists_isRelative {first : String} (h : first = "self" ∨ first = "super")
    (rest : List String) : ∃ ups more, IsRelative ups more (first :: rest) := by
  rcases h with rfl | rfl
  · obtain ⟨ups, more, hrest, hmore⟩ := exists_eq_replicate_append rest
    exact ⟨ups, more, hrest ▸ .fromSelf hmore⟩
  · obtain ⟨ups, more, hrest, hmore⟩ := exists_eq_replicate_append ("super" :: rest)
    have hups : 0 < ups := by
      -- without a step the words behind the steps would begin with `super`
      rw [Nat.pos_iff_ne_zero]
      rintro rfl
      rw [List.replicate_zero, List.nil_append] at hrest
      rw [← hrest] at hmore
      exact hmore rfl
    exact ⟨ups, more, hrest ▸ .fromSuper hups hmore⟩

/-- Steps up take words off the end of a module as long as something is left of it. -/
theorem climb?_replicate_append {rest : List String} (hrest : rest.head? ≠ some "super")
    (ups : Nat) (place : QualifiedName) :
    climb? place (List.replicate ups "super" ++ rest) =
      if ups = 0 ∨ ups < place.segments.length then some (place.segments.rdrop ups ++ rest)
      else none := by
  induction ups generalizing place with
  | zero =>
      cases rest with
      | nil => simp [climb?]
      | cons first more =>
          have hfirst : first ≠ "super" := by simpa using hrest
          simp [climb?, hfirst]
  | succ ups ih =>
      rw [List.replicate_succ, List.cons_append, climb?, if_pos rfl]
      cases hparent : place.parent? with
      | none =>
          have hshort := QualifiedName.parent?_eq_none_iff.1 hparent
          rw [if_neg (by omega)]
      | some parent =>
          obtain ⟨hpos, hlength⟩ := QualifiedName.length_of_parent? hparent
          -- one step leads to the parent, and the others start there
          have hdrop : place.segments.rdrop (ups + 1) = parent.segments.rdrop ups := by
            rw [QualifiedName.eq_child_of_parent? hparent, QualifiedName.segments_child,
              List.rdrop_concat_succ]
          dsimp only
          rw [ih parent, hdrop]
          by_cases hups : ups < parent.segments.length
          · rw [if_pos (.inr hups), if_pos (by omega)]
          · rw [if_neg (by omega), if_neg (by omega)]

variable {place : QualifiedName} {path : List String}

/-- The steps of a relative path are taken from the module in which it is written. -/
theorem IsRelative.anchored?_eq {ups : Nat} {rest : List String} (h : IsRelative ups rest path)
    (place : QualifiedName) :
    anchored? place path =
      if ups = 0 ∨ ups < place.segments.length then some (place.segments.rdrop ups ++ rest)
      else none := by
  cases h with
  | fromSelf hrest =>
      rw [anchored?, if_neg (by decide), if_pos rfl, climb?_replicate_append hrest]
  | fromSuper hups hrest =>
      rw [← climb?_replicate_append hrest]
      obtain ⟨more, rfl⟩ := Nat.exists_eq_succ_of_ne_zero (Nat.ne_of_gt hups)
      rw [List.replicate_succ, List.cons_append, anchored?, if_neg (by decide),
        if_neg (by decide), if_pos rfl]

/-- An anchored path is taken for what it stands for. -/
theorem anchored?_eq_some_iff {segments : List String} :
    anchored? place path = some segments ↔ StandsFor place path segments := by
  constructor
  · intro h
    cases path with
    | nil => cases h
    | cons first rest =>
        by_cases hcrate : first = "crate"
        · rw [anchored?, if_pos hcrate] at h
          obtain rfl := Option.some.inj h
          exact hcrate ▸ .fromRoot rest
        · have hanchor : first = "self" ∨ first = "super" := by
            by_contra hother
            rw [not_or] at hother
            rw [anchored?, if_neg hcrate, if_neg hother.1, if_neg hother.2] at h
            cases h
          obtain ⟨ups, more, hrelative⟩ := exists_isRelative hanchor rest
          rw [hrelative.anchored?_eq] at h
          split at h
          · rename_i hups
            obtain rfl := Option.some.inj h
            exact .relative hrelative hups
          · cases h
  · rintro (⟨rest⟩ | ⟨hrelative, hups⟩)
    · rw [anchored?, if_pos rfl]
    · rw [hrelative.anchored?_eq, if_pos hups]

/-- A path that climbs above the root is taken for a path without an anchor. -/
theorem ClimbsOut.anchored?_eq_none (h : ClimbsOut place path) : anchored? place path = none := by
  obtain ⟨ups, rest, hrelative, hpos, hups⟩ := h
  rw [hrelative.anchored?_eq, if_neg (by omega)]

/-- A path that climbs above the root holds the word `super`. -/
theorem ClimbsOut.super_mem (h : ClimbsOut place path) : "super" ∈ path := by
  obtain ⟨ups, rest, hrelative, hpos, -⟩ := h
  have hmem : "super" ∈ List.replicate ups "super" := List.mem_replicate.2 ⟨by omega, rfl⟩
  cases hrelative with
  | fromSelf => simp [hmem]
  | fromSuper => simp [hmem]

/-- A path with an anchor stands for a name, or it climbs above the root. -/
theorem standsFor_or_climbsOut {first : String} (h : first ∈ ["crate", "self", "super"])
    (rest : List String) (place : QualifiedName) :
    (∃ segments, StandsFor place (first :: rest) segments) ∨ ClimbsOut place (first :: rest) := by
  by_cases hcrate : first = "crate"
  · subst hcrate
    exact .inl ⟨_, .fromRoot rest⟩
  · have hanchor : first = "self" ∨ first = "super" := by
      simpa [hcrate] using h
    obtain ⟨ups, more, hrelative⟩ := exists_isRelative hanchor rest
    by_cases hups : ups = 0 ∨ ups < place.segments.length
    · exact .inl ⟨_, .relative hrelative hups⟩
    · exact .inr ⟨ups, more, hrelative, by omega, by omega⟩

/-! ## What anchored paths name -/

variable {scope : Scope} {found : DeclaredType}

/-- A path that stands for a name names the only type of that name. Both have to end in the same
word. -/
theorem StandsFor.names_iff {segments : List String} (h : StandsFor place path segments) :
    scope.Names place path found ↔
      found.name = ⟨segments⟩ ∧ path.getLast? = some found.name.simple ∧
        scope.HasOnly (fun declared => declared.name == found.name) found := by
  have hanchored := anchored?_eq_some_iff.2 h
  constructor
  · rintro (⟨hfound, hlast, honly⟩ | ⟨hfree, -, -⟩ | ⟨hfree, -, -⟩)
    · rw [hanchored] at hfound
      obtain rfl := Option.some.inj hfound
      exact ⟨rfl, hlast, honly⟩
    · cases hanchored.symm.trans hfree
    · cases hanchored.symm.trans hfree
  · rintro ⟨hname, hlast, honly⟩
    refine .anchored ?_ hlast honly
    rw [hanchored, hname]

/-- A path that climbs above the root names the only type whose name ends in it, or the only one of
these in the module. -/
theorem ClimbsOut.names_iff (h : ClimbsOut place path) :
    scope.Names place path found ↔
      scope.HasOnly (fun declared => declared.endsIn path) found ∨
        scope.HasOnly (fun declared => declared.endsIn path && declared.standsIn place) found := by
  have hfree := h.anchored?_eq_none
  have hne : path ≠ [] := List.ne_nil_of_mem h.super_mem
  constructor
  · rintro (⟨hanchored, -, -⟩ | ⟨-, -, honly⟩ | ⟨-, -, honly⟩)
    · cases hfree.symm.trans hanchored
    · exact .inl honly
    · exact .inr honly
  · rintro (honly | honly)
    · exact .ending hfree hne honly
    · exact .here hfree hne honly

/-- If no declared name holds the word `super`, no name ends in a path that climbs above the
root. -/
theorem ClimbsOut.endsIn_eq_false (h : ClimbsOut place path)
    (hnone : "super" ∉ found.name.segments) : found.endsIn path = false := by
  rw [Bool.eq_false_iff]
  intro hends
  rw [DeclaredType.endsIn, List.isSuffixOf_iff_suffix] at hends
  exact hnone (hends.subset h.super_mem)

/-- What a variant's type stands for is what its path names, once the leading name has been
replaced. -/
theorem WrappingVariant.target?_eq_some_iff_names {project : Project}
    {wrapping : WrappingVariant project} {words : List Identifier}
    (hunboxed : wrapping.written.unboxed? = some (false, words)) :
    wrapping.target? = some found ↔
      project.scope.Names wrapping.placed.place
        (project.scope.expand wrapping.placed.place (words.map Identifier.text)) found := by
  rw [target?, Scope.resolve?_eq_some_iff, hunboxed]
  constructor
  · rintro ⟨segments, hsegments, hnames⟩
    obtain rfl : words = segments := by cases hsegments; rfl
    exact hnames
  · intro hnames
    exact ⟨words, rfl, hnames⟩

/-- Let a variant's type be written as a path that begins with `crate`, `self` or `super` once its
leading name has been replaced by what it is bound to. The path stands for a name or climbs above
the root.

If it stands for a name, the variant's type is the only declared type of exactly this name, provided
that there is one and the path ends in the same word, and it is no other type. If it climbs above
the root, the variant's type stands for nothing exactly if there is no single type whose name ends
in the path as it is written, and no single one of these in the module. So it stands for nothing if
no declared name holds the word `super`. The variant is described accordingly. -/
theorem exact_name_of_anchored_path {project : Project} (wrapping : WrappingVariant project)
    {words : List Identifier} {first : String} {rest : List String}
    (hunboxed : wrapping.written.unboxed? = some (false, words))
    (hexpand : project.scope.expand wrapping.placed.place (words.map Identifier.text) =
      first :: rest)
    (hanchor : first ∈ ["crate", "self", "super"]) :
    ((∃ segments, StandsFor wrapping.placed.place (first :: rest) segments) ∨
      ClimbsOut wrapping.placed.place (first :: rest)) ∧
    (∀ segments, StandsFor wrapping.placed.place (first :: rest) segments → ∀ found,
      wrapping.target? = some found ↔
        found.name = ⟨segments⟩ ∧ (first :: rest).getLast? = some found.name.simple ∧
          project.scope.HasOnly (fun declared => declared.name == found.name) found) ∧
    (ClimbsOut wrapping.placed.place (first :: rest) →
      (wrapping.target? = none ↔ ∀ found,
        ¬ project.scope.HasOnly (fun declared => declared.endsIn (first :: rest)) found ∧
        ¬ project.scope.HasOnly (fun declared => declared.endsIn (first :: rest) &&
          declared.standsIn wrapping.placed.place) found) ∧
      ((∀ declared ∈ project.scope.types, "super" ∉ declared.name.segments) →
        wrapping.target? = none)) ∧
    wrapping.IsDescribed (.ofWrapped wrapping.target?) := by
  have htarget (found : DeclaredType) : wrapping.target? = some found ↔
      project.scope.Names wrapping.placed.place (first :: rest) found := by
    rw [WrappingVariant.target?_eq_some_iff_names hunboxed, hexpand]
  refine ⟨standsFor_or_climbsOut hanchor rest _, ?_, ?_, wrapping.isDescribed_ofWrapped⟩
  · intro segments hstands found
    rw [htarget, hstands.names_iff]
  · intro hclimbs
    have hnone : wrapping.target? = none ↔ ∀ found,
        ¬ project.scope.HasOnly (fun declared => declared.endsIn (first :: rest)) found ∧
        ¬ project.scope.HasOnly (fun declared => declared.endsIn (first :: rest) &&
          declared.standsIn wrapping.placed.place) found := by
      rw [Option.eq_none_iff_forall_ne_some]
      refine forall_congr' fun found => ?_
      rw [Ne, htarget, hclimbs.names_iff, not_or]
    refine ⟨hnone, fun hsuper => hnone.2 ?_⟩
    intro found
    constructor
    · intro honly
      have hends := hclimbs.endsIn_eq_false (hsuper found honly.mem)
      cases hends.symm.trans honly.holds
    · intro honly
      have hends := hclimbs.endsIn_eq_false (hsuper found honly.mem)
      have hboth := honly.holds
      rw [hends, Bool.false_and] at hboth
      cases hboth

/-- The word `super`. -/
def superWord : Identifier := .plain "super" (by decide)

/-- The word `Entry`. -/
def entryWord : Identifier := .plain "Entry" (by decide)

/-- The struct of an entry. -/
def entryItem : Item := .struct [] entryWord (.named [.plain "label" (.refl true)])

/-- A file of a module `menu` with a struct `Entry`, and a marked enum in an inline module. One of
its variants wraps the struct by an imported name, and one wraps a type by a path that climbs above
the root. -/
def menuFile : File where
  path := "src/menu.rs"
  place := Path.moduleFor "src" "src/menu.rs"
  outline := ⟨[
    entryItem,
    .module [] (.plain "actions" (by decide)) [
      .use [] false (.within superWord (.named entryWord)),
      .enum [.mark 5] (.plain "Action" (by decide)) ⟨0, 0⟩
        [⟨.plain "Chosen" (by decide), .positional [.path false [entryWord] false none]⟩,
         ⟨.plain "Left" (by decide),
          .positional [.path false [superWord, superWord, superWord, entryWord] false none]⟩]]]⟩

/-- The variant around the imported name. -/
def chosenEntry : WrappingVariant ⟨[menuFile]⟩ :=
  ⟨menuFile, _, _, _, _, _, 0, _, _, List.mem_cons_self,
    List.mem_cons_of_mem _ (List.mem_cons_of_mem _ (List.mem_cons_of_mem _ List.mem_cons_self)),
    rfl, any_isMarker_mark 5, rfl, rfl⟩

/-- The variant around the path that climbs above the root. -/
def leftMenu : WrappingVariant ⟨[menuFile]⟩ :=
  { chosenEntry with
    index := 1
    variant := _
    written := _
    getElem?_variants := rfl
    fields_eq := rfl }

/-- The imported name stands for the struct in the module above, and the path that climbs above the
root for nothing. -/
theorem exact_name_of_entry :
    chosenEntry.target? = some ⟨⟨["crate", "menu", "Entry"]⟩, .named ["label"]⟩ ∧
      leftMenu.target? = none := by
  constructor
  · obtain ⟨-, hnames, -, -⟩ := exact_name_of_anchored_path chosenEntry rfl
      (show _ = "super" :: ["Entry"] by decide) (by decide)
    refine (hnames ["crate", "menu", "Entry"] ?_ _).2 ⟨rfl, by decide, rfl⟩
    exact @StandsFor.relative _ 1 ["Entry"] _ (.fromSuper (by decide) (by decide)) (by decide)
  · obtain ⟨-, -, hclimbs, -⟩ := exact_name_of_anchored_path leftMenu rfl
      (show _ = "super" :: ["super", "super", "Entry"] by decide) (by decide)
    refine (hclimbs ⟨3, ["Entry"], .fromSuper (by decide) (by decide), by decide, by decide⟩).2 ?_
    decide

/-- A file that is named `super`, with a struct. -/
def superFile : File where
  path := "src/super.rs"
  place := Path.moduleFor "src" "src/super.rs"
  outline := ⟨[entryItem]⟩

/-- A file at the root with a marked enum around a type above the root. -/
def rootFile : File where
  path := "src/lib.rs"
  place := Path.moduleFor "src" "src/lib.rs"
  outline := ⟨[.enum [.mark 6] (.plain "Action" (by decide)) ⟨0, 0⟩
    [⟨.plain "Left" (by decide), .positional [.path false [superWord, entryWord] false none]⟩]]⟩

/-- The variant around that type, next to the file. -/
def leftRoot : WrappingVariant ⟨[rootFile, superFile]⟩ :=
  ⟨rootFile, _, _, _, _, _, 0, _, _, List.mem_cons_self, List.mem_cons_self, rfl,
    any_isMarker_mark 6, rfl, rfl⟩

/-- The path climbs above the root, and yet the variant has the field of the struct. -/
theorem known_above_root :
    leftRoot.written.unboxed? = some (false, [superWord, entryWord]) ∧
      (⟨[rootFile, superFile]⟩ : Project).scope.expand leftRoot.placed.place
        ([superWord, entryWord].map Identifier.text) = ["super", "Entry"] ∧
      ClimbsOut leftRoot.placed.place ["super", "Entry"] ∧
      leftRoot.target? = some ⟨⟨["crate", "super", "Entry"]⟩, .named ["label"]⟩ ∧
      leftRoot.IsDescribed ⟨true, .newtype, [["label"]]⟩ := by
  have htarget : leftRoot.target? =
      some ⟨⟨["crate", "super", "Entry"]⟩, .named ["label"]⟩ := by decide
  have hdescribed := leftRoot.isDescribed_ofWrapped
  rw [htarget] at hdescribed
  refine ⟨rfl, by decide, ?_, htarget, hdescribed⟩
  exact ⟨1, ["Entry"], .fromSuper (by decide) (by decide), by decide, by decide⟩

end Code

end EventTracking
