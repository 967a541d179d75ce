import EventTracking.Proofs.NamedTypes

/-!
# Paths through imports

A leading name that a `use` item binds is replaced by the path that the item gives to it, once, and
what comes out is looked up as if it had been written. Two things are lost on the way. Whether the
`use` item begins with `::` makes no difference, so a path into another crate may name a type of the
project that has the same words at its end. And the first word of the path is not replaced in turn,
although it may be bound as well.

So a path that is written with `::` never names a type, but one that is imported with `::` does so
exactly if it does without. A name that is bound through another bound name leads to the type that
is meant only if the path ends in the same words without the second replacement.

Main statements: the last binding of a name decides on it (`bound?_of_binds`), what a path through
an import names (`target?_eq_some_iff`), and when a path that is replaced once ends like the path
that is replaced twice (`endsIn_iff`).
-/

namespace EventTracking.Code

/-! ## Names that `use` items bind -/

/-- An item binds a name in a module, and no later item of the module binds the name again. -/
def Project.Binds (project : Project) (place : QualifiedName) (item : Item) (binding : Binding) :
    Prop :=
  ∃ before after front back,
    project.placed = before ++ ⟨place, item⟩ :: after ∧
      item.bindings = front ++ binding :: back ∧
      (∀ later ∈ back, later.name ≠ binding.name) ∧
      ∀ other ∈ after, other.place = place →
        ∀ later ∈ other.item.bindings, later.name ≠ binding.name

/-- A name stands for the path of its last binding. -/
theorem Project.bound?_of_binds {project : Project} {place : QualifiedName} {item : Item}
    {binding : Binding} (h : project.Binds place item binding) :
    project.scope.bound? place binding.name = some binding.path := by
  obtain ⟨before, after, front, back, hplaced, hbindings, hback, hafter⟩ := h
  have hitem : (Scope.ofPlaced [⟨place, item⟩]).bound? place binding.name = some binding.path := by
    have hall : (Scope.ofPlaced [⟨place, item⟩]).bindings =
        front.map (⟨place, ·⟩) ++ ⟨place, binding⟩ :: back.map (⟨place, ·⟩) := by
      rw [Scope.ofPlaced, List.flatMap_singleton, PlacedItem.bindings, hbindings, List.map_append,
        List.map_cons]
    -- the search begins at the end, where the name does not occur
    have hlater : (back.map (PlacedBinding.mk place)).reverse.find? (fun bound =>
        bound.place == place && bound.binding.name == binding.name) = none := by
      rw [List.find?_eq_none]
      intro bound hbound
      obtain ⟨later, hmem, rfl⟩ := List.mem_map.1 (List.mem_reverse.1 hbound)
      rw [Bool.and_eq_true, beq_iff_eq, beq_iff_eq, not_and]
      exact fun _ => hback later hmem
    rw [Scope.bound?, hall, List.findRev?_eq_find?_reverse, List.reverse_append, List.reverse_cons,
      List.append_assoc, List.find?_append, hlater, Option.none_or, List.singleton_append,
      List.find?_cons_of_pos (by rw [beq_self_eq_true, beq_self_eq_true, Bool.and_self])]
    rfl
  -- later items of the module leave the name alone, and earlier ones give way
  rw [Project.scope, hplaced, List.append_cons, Scope.bound?_ofPlaced_append,
    Scope.bound?_ofPlaced_append, Scope.bound?_eq_none hafter, Option.none_or, hitem,
    Option.some_or]

/-! ## What imported paths name -/

section

variable {project : Project}

/-- If the leading name of a variant's type is bound in its module, the type stands for what the
path of the name and the other words name there. -/
theorem WrappingVariant.target?_eq_some_iff {wrapping : WrappingVariant project}
    {first : Identifier} {rest : List Identifier} {path : List String}
    (hunboxed : wrapping.written.unboxed? = some (false, first :: rest))
    (hbound : project.scope.bound? wrapping.placed.place first.text = some path)
    {found : DeclaredType} :
    wrapping.target? = some found ↔
      project.scope.Names wrapping.placed.place (path ++ rest.map Identifier.text) found := by
  have hexpand : project.scope.expand wrapping.placed.place
      ((first :: rest).map Identifier.text) = path ++ rest.map Identifier.text := by
    rw [List.map_cons, Scope.expand, hbound]
  rw [target?, Scope.resolve?_eq_some_iff, hunboxed]
  constructor
  · rintro ⟨segments, hsegments, hnames⟩
    obtain rfl : first :: rest = segments := by cases hsegments; rfl
    rwa [hexpand] at hnames
  · intro hnames
    exact ⟨first :: rest, rfl, hexpand ▸ hnames⟩

/-- A variant whose type is written as a path that begins with `::` is never known. A variant whose
type is written as a path that begins with a name which the module binds by a `use` item that begins
with `::` is not known exactly if the path of the name without `::`, followed by the other words,
names no type of the project. -/
theorem unknown_of_rooted_path (wrapping : WrappingVariant project) :
    (∀ segments, wrapping.written.unboxed? = some (true, segments) →
      wrapping.target? = none ∧ wrapping.IsDescribed ⟨false, .newtype, []⟩) ∧
    ∀ (first : Identifier) (rest : List Identifier) (attributes : List Attribute)
      (tree : UseTree) (path : List String),
      wrapping.written.unboxed? = some (false, first :: rest) →
      project.Binds wrapping.placed.place (.use attributes true tree) ⟨first.text, path⟩ →
      (wrapping.IsDescribed ⟨false, .newtype, []⟩ ↔
        ∀ found, ¬ project.scope.Names wrapping.placed.place
          (path ++ rest.map Identifier.text) found) := by
  constructor
  · intro segments hunboxed
    have htarget : wrapping.target? = none := Scope.resolve_of_rooted hunboxed
    exact ⟨htarget, WrappingVariant.isDescribed_unknown_iff.2 htarget⟩
  · intro first rest attributes tree path hunboxed hbinds
    have hbound := Project.bound?_of_binds hbinds
    rw [WrappingVariant.isDescribed_unknown_iff, Option.eq_none_iff_forall_ne_some]
    refine forall_congr' fun found => not_congr ?_
    exact WrappingVariant.target?_eq_some_iff hunboxed hbound

end

/-- A `use` item for the name `Clicked` of the crate `analytics`. -/
def useOfAnalytics : Item :=
  .use [] true (.within (.plain "analytics" (by decide))
    (.named (.plain "Clicked" (.refl true))))

/-- A file with that item and a marked enum. One variant wraps the imported type, and one wraps a
type by a path that begins with `::`. -/
def importingFile : File where
  path := "src/lib.rs"
  place := Path.moduleFor "src" "src/lib.rs"
  outline := ⟨[useOfAnalytics,
    .enum [.mark 2] (.plain "Imported" (by decide)) ⟨0, 0⟩
      [⟨.plain "Clicked" (.refl true),
        .positional [.path false [.plain "Clicked" (.refl true)] false none]⟩,
       ⟨.plain "Rooted" (by decide),
        .positional [.path true
          [.plain "analytics" (by decide), .plain "Clicked" (.refl true)]
          false none]⟩]]⟩

/-- The variant around the imported type, next to another file. -/
def importedClicked (other : File) : WrappingVariant ⟨[other, importingFile]⟩ :=
  ⟨importingFile, _, _, _, _, _, 0, _, _, List.mem_cons_of_mem _ List.mem_cons_self,
    List.mem_cons_of_mem _ List.mem_cons_self, rfl, any_isMarker_mark 2, rfl, rfl⟩

/-- The variant around the type by its path, next to another file. -/
def rootedClicked (other : File) : WrappingVariant ⟨[other, importingFile]⟩ :=
  ⟨importingFile, _, _, _, _, _, 1, _, _, List.mem_cons_of_mem _ List.mem_cons_self,
    List.mem_cons_of_mem _ List.mem_cons_self, rfl, any_isMarker_mark 2, rfl, rfl⟩

/-- A file of the module `analytics` with a struct `Clicked`. -/
def analyticsFile : File := clickedStructFile "src/analytics.rs" (.plain "caption" (by decide))

/-- The file binds the name by its `use` item. -/
theorem binds_useOfAnalytics (other : File) :
    (⟨[other, importingFile]⟩ : Project).Binds QualifiedName.root useOfAnalytics
      ⟨"Clicked", ["analytics", "Clicked"]⟩ := by
  refine ⟨other.placed, importingFile.placed.tail, [], [], ?_, rfl, by decide, by decide⟩
  rw [Project.placed, List.flatMap_cons, List.flatMap_cons, List.flatMap_nil, List.append_nil]
  rfl

/-- The imported type is not known next to a module `sounds`, and the type by its path is not known
even next to a module `analytics`. -/
theorem unknown_clicked :
    (importedClicked soundsFile).IsDescribed ⟨false, .newtype, []⟩ ∧
      (rootedClicked analyticsFile).IsDescribed ⟨false, .newtype, []⟩ := by
  constructor
  · refine ((unknown_of_rooted_path (importedClicked soundsFile)).2 _ _ _ _ _ rfl
      (binds_useOfAnalytics soundsFile)).2 ?_
    intro found hnames
    have hlookup := Scope.lookup?_eq_some_iff.2 hnames
    have hnone : (⟨[soundsFile, importingFile]⟩ : Project).scope.lookup? QualifiedName.root
        ["analytics", "Clicked"] = none := by decide
    cases hnone.symm.trans hlookup
  · exact ((unknown_of_rooted_path (rootedClicked analyticsFile)).1 _ rfl).2

/-- Next to a module `analytics`, the variant around a type of the crate `analytics` has the fields
of the module's type. -/
theorem known_next_to_analytics :
    (importedClicked analyticsFile).written.unboxed? =
        some (false, [.plain "Clicked" (.refl true)]) ∧
      (⟨[analyticsFile, importingFile]⟩ : Project).Binds
        (importedClicked analyticsFile).placed.place useOfAnalytics
        ⟨"Clicked", ["analytics", "Clicked"]⟩ ∧
      (importedClicked analyticsFile).IsDescribed ⟨true, .newtype, [["caption"]]⟩ ∧
      ¬ (importedClicked analyticsFile).IsDescribed ⟨false, .newtype, []⟩ := by
  have hdescribed := (importedClicked analyticsFile).isDescribed_ofWrapped
  have htarget : (importedClicked analyticsFile).target? =
      some ⟨⟨["crate", "analytics", "Clicked"]⟩, .named ["caption"]⟩ := by decide
  rw [htarget] at hdescribed
  refine ⟨rfl, binds_useOfAnalytics analyticsFile, hdescribed, ?_⟩
  rw [WrappingVariant.isDescribed_unknown_iff, htarget]
  exact Option.some_ne_none _

/-! ## Names that are bound through other names -/

/-- A name ends in a path that begins with another word exactly if the part of the name that stands
before the common words ends in that word. -/
theorem DeclaredType.endsIn_iff {declared : DeclaredType} {word : String}
    {before rest : List String} (h : declared.name.segments = before ++ rest) :
    declared.endsIn (word :: rest) = true ↔ before.getLast? = some word := by
  rw [DeclaredType.endsIn, List.isSuffixOf_iff_suffix, h, List.getLast?_eq_some_iff]
  constructor
  · -- the words that follow are the same on both sides
    rintro ⟨front, hfront⟩
    rw [List.append_cons] at hfront
    exact ⟨front, (List.append_cancel_right hfront).symm⟩
  · rintro ⟨front, rfl⟩
    exact ⟨front, List.append_cons front word rest⟩

/-- Let a variant's type be written as a path whose leading name is bound in its module to a path
that begins with a further word, and let the module bind this word as well. The word is not replaced
in turn, so the variant's type is looked up under the path with the word in front.

Let a single item of the project declare a type under the path with the word replaced as well. If
the path with the word in front is not anchored, the variant's type stands for this type exactly if
the path that the word is bound to ends in the word, and either the type is declared in the module
itself or all types whose names end in the path with the word in front have this name. If it is
anchored, the variant's type stands for this type exactly if the path stands for this name, and ends
in the same word. If it does stand for it, then the variant is described by what the item
constructs. -/
theorem resolvesTo_of_chained_import {project : Project} (wrapping : WrappingVariant project)
    {declaring : PlacedItem} {first : Identifier} {further : List Identifier} {word : String}
    {rest path words : List String}
    (hunboxed : wrapping.written.unboxed? = some (false, first :: further))
    (hfirst : project.scope.bound? wrapping.placed.place first.text = some (word :: rest))
    (hword : project.scope.bound? wrapping.placed.place word = some path)
    (hwords : words = rest ++ further.map Identifier.text)
    (honly : (project.placed.filter fun other =>
      other.typeName? == some ⟨path ++ words⟩) = [declaring]) :
    project.scope.expand wrapping.placed.place ((first :: further).map Identifier.text) =
        word :: words ∧
    project.scope.expand wrapping.placed.place (word :: words) = path ++ words ∧
    (anchored? wrapping.placed.place (word :: words) = none →
      (wrapping.ResolvesTo declaring ↔
        path.getLast? = some word ∧
          ((⟨path ++ words⟩ : QualifiedName).parent? = some wrapping.placed.place ∨
            ∀ other ∈ project.scope.types,
              other.endsIn (word :: words) = true → other.name = ⟨path ++ words⟩))) ∧
    (∀ segments, anchored? wrapping.placed.place (word :: words) = some segments →
      (wrapping.ResolvesTo declaring ↔
        segments = path ++ words ∧ (word :: words).getLast? = (path ++ words).getLast?)) ∧
    (wrapping.ResolvesTo declaring →
      ∃ constructors, declaring.item.Constructs constructors ∧
        wrapping.IsDescribed ⟨true, .newtype, constructors⟩) := by
  obtain ⟨declared, hdeclared, hname, honlyType⟩ := Project.hasOnly_of_declares honly
  have hsegments : declared.name.segments = path ++ words := by rw [hname]
  -- the leading name is replaced once, and what comes out is looked up
  have hresolves : wrapping.ResolvesTo declaring ↔
      project.scope.Names wrapping.placed.place (word :: words) declared := by
    rw [WrappingVariant.resolvesTo_iff hdeclared,
      WrappingVariant.target?_eq_some_iff hunboxed hfirst, hwords, List.cons_append]
  refine ⟨?_, ?_, ?_, ?_, WrappingVariant.ResolvesTo.isDescribed⟩
  · rw [List.map_cons, Scope.expand, hfirst, hwords]
    rfl
  · rw [Scope.expand, hword]
  · intro hfree
    rw [hresolves, Scope.names_iff_of_not_anchored hfree (List.cons_ne_nil _ _) honlyType,
      DeclaredType.endsIn_iff hsegments, DeclaredType.standsIn, beq_iff_eq, hname]
  · intro segments hanchored
    -- a declared type has a simple name, so its name is not empty
    have hlast : (path ++ words).getLast? = some declared.name.simple := by
      rw [← hsegments, PlacedItem.segments_of_declaredType? hdeclared, List.getLast?_concat]
    rw [hresolves, Scope.names_iff_of_anchored hanchored honlyType, hsegments, hlast]

/-- A file of a module `shapes` with two structs that are called `Circle`. -/
def shapesFile : File where
  path := "src/shapes.rs"
  place := Path.moduleFor "src" "src/shapes.rs"
  outline := ⟨[
    .struct [] (.plain "Circle" (by decide)) (.named [.plain "radius" (by decide)]),
    .module [] (.plain "archive" (by decide)) [.struct [] (.plain "Circle" (by decide)) .none]]⟩

/-- The item of the first struct. -/
def circle : PlacedItem where
  place := ⟨["crate", "shapes"]⟩
  item := .struct [] (.plain "Circle" (by decide)) (.named [.plain "radius" (by decide)])

/-- A file that imports the module `shapes` by a tree, and then the struct through a name, and has a
marked enum with a variant around the struct. -/
def drawingFile (tree : UseTree) (through : Identifier) : File where
  path := "src/drawing.rs"
  place := Path.moduleFor "src" "src/drawing.rs"
  outline := ⟨[
    .use [] false (.within (.plain "crate" (.refl true)) tree),
    .use [] false (.within through (.named (.plain "Circle" (by decide)))),
    .enum [.mark 3] (.plain "Drawing" (by decide)) ⟨0, 0⟩
      [⟨.plain "Drawn" (by decide),
        .positional [.path false [.plain "Circle" (by decide)] false none]⟩]]⟩

/-- The two files. -/
def drawingProject (tree : UseTree) (through : Identifier) : Project :=
  ⟨[shapesFile, drawingFile tree through]⟩

/-- The variant around the struct. -/
def drawn (tree : UseTree) (through : Identifier) :
    WrappingVariant (drawingProject tree through) :=
  ⟨drawingFile tree through, _, _, _, _, _, 0, _, _, List.mem_cons_of_mem _ List.mem_cons_self,
    List.mem_cons_of_mem _ (List.mem_cons_of_mem _ List.mem_cons_self), rfl, any_isMarker_mark 3,
    rfl, rfl⟩

/-- The name of the module. -/
def shapes : Identifier := .plain "shapes" (by decide)

/-- Another name for it. -/
def figures : Identifier := .plain "figures" (by decide)

/-- If the module keeps its name, the variant has the fields of the struct. -/
theorem resolvesTo_circle_of_shapes :
    (drawn (.named shapes) shapes).IsDescribed ⟨true, .newtype, [["radius"]]⟩ := by
  obtain ⟨-, -, hfree, -, hdescribed⟩ := @resolvesTo_of_chained_import _
    (drawn (.named shapes) shapes) circle (.plain "Circle" (by decide)) [] "shapes" ["Circle"]
    ["crate", "shapes"] ["Circle"] rfl (by decide) (by decide) rfl rfl
  have hresolves := (hfree (by decide)).2 ⟨by decide, .inr (by decide)⟩
  obtain ⟨constructors, hconstructs, hmember⟩ := hdescribed hresolves
  cases hconstructs
  exact hmember

/-- If the module is given another name, it is not known what the variant holds, although the other
name leads to the module in which the struct is declared. -/
theorem not_resolvesTo_circle_of_figures :
    (drawn (.renamed shapes figures) figures).written.unboxed? =
        some (false, [.plain "Circle" (by decide)]) ∧
      (drawingProject (.renamed shapes figures) figures).scope.bound?
        (drawn (.renamed shapes figures) figures).placed.place "Circle" =
          some ["figures", "Circle"] ∧
      (drawingProject (.renamed shapes figures) figures).scope.bound?
        (drawn (.renamed shapes figures) figures).placed.place "figures" =
          some ["crate", "shapes"] ∧
      ((drawingProject (.renamed shapes figures) figures).placed.filter
        fun other => other.typeName? == some ⟨["crate", "shapes", "Circle"]⟩) = [circle] ∧
      ¬ (drawn (.renamed shapes figures) figures).ResolvesTo circle ∧
      (drawn (.renamed shapes figures) figures).IsDescribed ⟨false, .newtype, []⟩ := by
  have htarget : (drawn (.renamed shapes figures) figures).target? = none := by decide
  refine ⟨rfl, by decide, by decide, rfl, ?_, WrappingVariant.isDescribed_unknown_iff.2 htarget⟩
  rintro ⟨declared, -, hdeclared⟩
  cases htarget.symm.trans hdeclared

end EventTracking.Code
