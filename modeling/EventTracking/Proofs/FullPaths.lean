import EventTracking.Proofs.Discovery
import Mathlib.Data.List.Basic

/-!
# Types by their full paths

A variant that wraps a type takes its fields from the type, if the type is found. A type can always
be named by its full path: the module of its file, the inline modules around it and its own name.
Two walks have to agree for that. One lists the types of the project under their names, the other
describes the variants; both go through inline modules in the same way.

Main statements: items stand below the module of their file (`exists_segments_of_mem_placed`), a
type that is declared once is found by its full path (`resolve?_of_isPathTo`), and so the variant is
described by it (`member_of_full_path`).
-/

namespace EventTracking.Code

/-! ## Modules of items -/

/-- What stands in an item stands in the item's module or below it. -/
theorem Item.exists_segments_of_mem_placed {placed : PlacedItem} (item : Item) :
    ∀ place : QualifiedName, placed ∈ item.placed place →
      ∃ names, placed.place.segments = place.segments ++ names := by
  induction item using of_inner with
  | h item ih =>
      intro place h
      rw [placed_eq_cons, List.mem_cons] at h
      rcases h with rfl | h
      · exact ⟨[], (List.append_nil _).symm⟩
      · obtain ⟨one, hone, hmem⟩ := mem_placedAll.1 h
        obtain ⟨names, hnames⟩ := ih one hone _ hmem
        refine ⟨item.simpleName :: names, ?_⟩
        rw [hnames, QualifiedName.segments_child, List.append_assoc, List.singleton_append]

/-- If the modules of all files begin with `crate`, so do those of all items. -/
theorem Project.head?_place {project : Project}
    (hroots : ∀ file ∈ project.files, file.place.segments.head? = some "crate")
    {placed : PlacedItem} (h : placed ∈ project.placed) :
    placed.place.segments.head? = some "crate" := by
  obtain ⟨file, hfile, hmem⟩ := List.mem_flatMap.1 h
  obtain ⟨item, -, hitem⟩ := Item.mem_placedAll.1 hmem
  obtain ⟨names, hnames⟩ := item.exists_segments_of_mem_placed file.place hitem
  rw [hnames, List.head?_append, hroots file hfile]
  rfl

/-! ## Declared types -/

/-- The name of the type that an item declares, if it declares one. -/
def PlacedItem.typeName? (placed : PlacedItem) : Option QualifiedName :=
  placed.declaredType?.map DeclaredType.name

/-- What a variant gets from the type that it wraps: the fields of a struct with named fields, no
fields from an enum or a struct without a list of fields, and no constructor from a struct with
positional fields. -/
inductive Item.Constructs : Item → List (List String) → Prop where
  /-- A struct with named fields. -/
  | named (attributes : List Attribute) (name : Identifier) (fields : List Identifier) :
      Constructs (.struct attributes name (.named fields)) [fields.map Identifier.text]
  /-- A struct without a list of fields. -/
  | unit (attributes : List Attribute) (name : Identifier) :
      Constructs (.struct attributes name .none) [[]]
  /-- An enum. -/
  | enum (attributes : List Attribute) (name : Identifier) (generics : Generics)
      (variants : List Variant) : Constructs (.enum attributes name generics variants) [[]]
  /-- A struct with positional fields. -/
  | tuple (attributes : List Attribute) (name : Identifier) (types : List WrittenType) :
      Constructs (.struct attributes name (.positional types)) []

/-- The shape of a declared type gives what its item constructs. -/
theorem PlacedItem.constructs_of_declaredType? {placed : PlacedItem} {declared : DeclaredType}
    (h : placed.declaredType? = some declared) :
    placed.item.Constructs declared.shape.constructors := by
  obtain ⟨place, item⟩ := placed
  cases item with
  | enum attributes name generics variants =>
      cases h
      exact .enum attributes name generics variants
  | struct attributes name fields =>
      cases h
      cases fields with
      | named names => exact .named attributes name names
      | positional types => exact .tuple attributes name types
      | none => exact .unit attributes name
  | module => cases h
  | use => cases h
  | named => cases h
  | unnamed => cases h
  | unread => cases h

/-- A declared type is named below the module of its item. -/
theorem PlacedItem.segments_of_declaredType? {placed : PlacedItem} {declared : DeclaredType}
    (h : placed.declaredType? = some declared) :
    declared.name.segments = placed.place.segments ++ [declared.name.simple] := by
  obtain ⟨place, item⟩ := placed
  cases item with
  | enum attributes name generics variants =>
      cases h
      rw [QualifiedName.simple_child, QualifiedName.segments_child]
  | struct attributes name fields =>
      cases h
      rw [QualifiedName.simple_child, QualifiedName.segments_child]
  | module => cases h
  | use => cases h
  | named => cases h
  | unnamed => cases h
  | unread => cases h

/-! ## Finding types -/

/-- The types that are written as a path, within any number of boxes. The words may be raw. -/
inductive WrittenType.IsPathTo (name : QualifiedName) : WrittenType → Prop where
  /-- The path itself, with whatever generic arguments. -/
  | path {segments : List Identifier} {generic : Bool} {argument : Option WrittenType}
      (h : segments.map Identifier.text = name.segments) :
      IsPathTo name (.path false segments generic argument)
  /-- A box around such a type. -/
  | boxed {rooted generic : Bool} {segments : List Identifier} {last : Identifier}
      {inner : WrittenType} (hlast : segments.getLast? = some last)
      (hbox : last.isPlain "Box" = true) (h : IsPathTo name inner) :
      IsPathTo name (.path rooted segments generic (some inner))

/-- Once its boxes are taken off, such a type is the path. -/
theorem WrittenType.unboxed?_of_isPathTo {name : QualifiedName} {written : WrittenType}
    (h : written.IsPathTo name) (hne : name.segments ≠ []) (hbox : name.simple ≠ "Box") :
    ∃ segments, written.unboxed? = some (false, segments) ∧
      segments.map Identifier.text = name.segments := by
  induction h with
  | @path segments generic argument hsegments =>
      refine ⟨segments, ?_, hsegments⟩
      cases hlast : segments.getLast? with
      | none =>
          rw [List.getLast?_eq_none_iff.1 hlast] at hsegments
          exact absurd hsegments.symm hne
      | some last =>
          -- the last word is the name of the type, which is not `Box`
          have hsimple : name.simple = last.text := by
            rw [QualifiedName.simple, ← hsegments, List.getLast?_map, hlast]
            rfl
          have hplain : last.isPlain "Box" = false := by
            rw [Identifier.isPlain, ← hsimple, beq_false_of_ne hbox, Bool.and_false]
          rw [unboxed?.eq_def]
          simp only [hlast, hplain, Bool.false_eq_true, if_false]
  | boxed hlast hplain h ih =>
      obtain ⟨segments, hunboxed, hsegments⟩ := ih
      refine ⟨segments, ?_, hsegments⟩
      rw [unboxed?, hlast]
      simp only [hplain, if_true, hunboxed]

/-- A name that no item binds in a module stands for itself there. -/
theorem Scope.bound?_eq_none {items : List PlacedItem} {place : QualifiedName} {name : String}
    (h : ∀ placed ∈ items, placed.place = place → ∀ binding ∈ placed.item.bindings,
      binding.name ≠ name) : (Scope.ofPlaced items).bound? place name = none := by
  rw [bound?, Option.map_eq_none_iff, List.findRev?_eq_find?_reverse, List.find?_eq_none]
  intro bound hbound hfound
  obtain ⟨placed, hplaced, hmem⟩ := List.mem_flatMap.1 (List.mem_reverse.1 hbound)
  obtain ⟨binding, hbinding, rfl⟩ := List.mem_map.1 hmem
  rw [Bool.and_eq_true, beq_iff_eq, beq_iff_eq] at hfound
  exact h placed hplaced hfound.1 binding hbinding hfound.2

/-- Of some items, only one declares a type of its name, so that is the only type of this name. -/
theorem filter_types_eq {before after : List PlacedItem} {declaring : PlacedItem}
    {declared : DeclaredType} (hdeclares : declaring.declaredType? = some declared)
    (honce : ∀ other ∈ before ++ after, other.typeName? ≠ some declared.name) :
    ((Scope.ofPlaced (before ++ declaring :: after)).types.filter fun found =>
      found.name.segments == declared.name.segments) = [declared] := by
  have hnone (items : List PlacedItem) (h : ∀ other ∈ items,
      other.typeName? ≠ some declared.name) :
      ((items.filterMap PlacedItem.declaredType?).filter fun found =>
        found.name.segments == declared.name.segments) = [] := by
    rw [List.filter_eq_nil_iff]
    intro found hfound hsame
    obtain ⟨other, hother, hfinds⟩ := List.mem_filterMap.1 hfound
    apply h other hother
    rw [PlacedItem.typeName?, hfinds, Option.map_some]
    exact congrArg (some ∘ QualifiedName.mk) (beq_iff_eq.1 hsame)
  obtain ⟨hbefore, hafter⟩ := List.forall_mem_append.1 honce
  rw [Scope.ofPlaced, List.filterMap_append, List.filterMap_cons_some hdeclares,
    List.filter_append, hnone before hbefore, List.filter_cons_of_pos (by simp),
    hnone after hafter, List.nil_append]

/-- A type that is declared once is found by its full path, in every module that binds no name
`crate`. -/
theorem resolve?_of_isPathTo {before after : List PlacedItem} {declaring : PlacedItem}
    {declared : DeclaredType} (hdeclares : declaring.declaredType? = some declared)
    (honce : ∀ other ∈ before ++ after, other.typeName? ≠ some declared.name)
    (hroot : declared.name.segments.head? = some "crate") (hbox : declared.name.simple ≠ "Box")
    {place : QualifiedName}
    (hcrate : (Scope.ofPlaced (before ++ declaring :: after)).bound? place "crate" = none)
    {written : WrittenType} (h : written.IsPathTo declared.name) :
    (Scope.ofPlaced (before ++ declaring :: after)).resolve? place written = some declared := by
  obtain ⟨rest, hsegments⟩ : ∃ rest, declared.name.segments = "crate" :: rest := by
    cases hname : declared.name.segments with
    | nil =>
        rw [hname] at hroot
        cases hroot
    | cons first rest =>
        rw [hname] at hroot
        obtain rfl := Option.some.inj hroot
        exact ⟨rest, rfl⟩
  have hne : declared.name.segments ≠ [] := by
    rw [hsegments]
    exact List.cons_ne_nil _ _
  have hlast : declared.name.segments.getLast? = some declared.name.simple := by
    rw [PlacedItem.segments_of_declaredType? hdeclares, List.getLast?_concat]
  obtain ⟨words, hunboxed, hwords⟩ := WrittenType.unboxed?_of_isPathTo h hne hbox
  -- the path begins with `crate`, so it is kept and has to be matched as a whole
  have hexpand : (Scope.ofPlaced (before ++ declaring :: after)).expand place
      declared.name.segments = declared.name.segments := by
    rw [hsegments, Scope.expand, hcrate]
  have hanchored : anchored? place declared.name.segments = some declared.name.segments := by
    rw [hsegments, anchored?, if_pos rfl]
  have hcandidates : ((Scope.ofPlaced (before ++ declaring :: after)).types.filter fun found =>
      found.name.simple == declared.name.simple).filter (fun found =>
        found.name.segments == declared.name.segments) = [declared] := by
    rw [List.filter_comm, filter_types_eq hdeclares honce,
      List.filter_cons_of_pos (by simp), List.filter_nil]
  rw [Scope.resolve?, hunboxed]
  dsimp only
  rw [hwords, hexpand, Scope.lookup?, hlast]
  dsimp only
  rw [hanchored]
  dsimp only
  rw [hcandidates, only?]
  rfl

/-! ## Describing variants -/

/-- A variant that wraps a type which is found is described by what the type's item constructs. -/
theorem Variant.member_of_resolve? {scope : Scope} {place group : QualifiedName}
    {variant : Variant} {written : WrittenType} {declared : DeclaredType}
    (hfields : variant.fields = .positional [written])
    (h : scope.resolve? place written = some declared) :
    variant.member scope place group =
      { name := group.child variant.name.text
        isKnown := true
        form := .newtype
        supertypes := [group]
        constructors := declared.shape.constructors } := by
  rw [member, hfields, Fields.describe, h]
  rfl

/-- Let all files of a project stand below `crate`, and let an item declare a struct or an enum,
not named `Box`, whose full path is that of no other struct or enum of the project. Wherever a
marked enum has a variant around a single type that is written as this path, within any number of
boxes, and no `use` item of the enum's module binds `crate`, the enum is described with a member for
the variant of which it is known what it holds: the named fields of the struct in order, no fields
for a struct without a list of fields or an enum, and no constructor for a struct with positional
fields. -/
theorem member_of_full_path {project : Project} {before after : List PlacedItem}
    {declaring placed : PlacedItem} {typeName : QualifiedName} {file : File}
    {attributes : List Attribute} {name : Identifier} {generics : Generics}
    {variants : List Variant} {index : Nat} {variant : Variant} {written : WrittenType}
    (hroots : ∀ file ∈ project.files, file.place.segments.head? = some "crate")
    (hproject : project.placed = before ++ declaring :: after)
    (hdeclares : declaring.typeName? = some typeName)
    (honce : ∀ other ∈ before ++ after, other.typeName? ≠ some typeName)
    (hbox : typeName.simple ≠ "Box")
    (hfile : file ∈ project.files) (hplaced : placed ∈ file.placed)
    (hitem : placed.item = .enum attributes name generics variants)
    (hmarked : attributes.any Attribute.isMarker = true)
    (hcrate : ∀ other ∈ project.placed, other.place = placed.place →
      ∀ binding ∈ other.item.bindings, binding.name ≠ "crate")
    (hvariant : variants[index]? = some variant)
    (hfields : variant.fields = .positional [written]) (hwritten : written.IsPathTo typeName) :
    ∃ declaration ∈ project.declarations,
      declaration.name = placed.place.child name.text ∧
      ∃ constructors, declaring.item.Constructs constructors ∧
        declaration.members[index]? = some
          { name := declaration.name.child variant.name.text
            isKnown := true
            form := .newtype
            supertypes := [declaration.name]
            constructors := constructors } := by
  obtain ⟨declared, hdeclared, rfl⟩ := Option.map_eq_some_iff.1 hdeclares
  have hroot : declared.name.segments.head? = some "crate" := by
    have hmem : declaring ∈ project.placed := by
      rw [hproject]
      exact List.mem_append_right before List.mem_cons_self
    rw [PlacedItem.segments_of_declaredType? hdeclared, List.head?_append,
      Project.head?_place hroots hmem]
    rfl
  have hresolve : project.scope.resolve? placed.place written = some declared := by
    have hunbound := Scope.bound?_eq_none hcrate
    rw [hproject] at hunbound
    rw [Project.scope, hproject]
    exact resolve?_of_isPathTo hdeclared honce hroot hbox hunbound hwritten
  obtain ⟨declaration, hdescribed⟩ :
      ∃ declaration, placed.declaration? project.scope file.path = some declaration := by
    rw [← Option.isSome_iff_exists, PlacedItem.isSome_declaration?, hitem]
    exact hmarked
  obtain ⟨hname, -, -, hmembers⟩ := PlacedItem.eq_of_declaration?_enum hitem hdescribed
  refine ⟨declaration, Project.mem_declarations_iff.2 ⟨file, hfile, placed, hplaced, hdescribed⟩,
    hname, _, PlacedItem.constructs_of_declaredType? hdeclared, ?_⟩
  rw [hmembers, List.getElem?_map, hvariant, Option.map_some,
    Variant.member_of_resolve? hfields hresolve]

/-- A path from the crate's root to a struct in an inline module. -/
def swipePath : WrittenType :=
  .path false [.plain "crate" (.refl true), .plain "model" (by decide),
    .plain "gesture" (by decide), .plain "Swipe" (by decide)] false none

/-- A type in a box. -/
def WrittenType.inBox (inner : WrittenType) : WrittenType :=
  .path false [.plain "Box" (by decide)] true (some inner)

/-- That struct. -/
def swipe : Item :=
  .struct [] (.plain "Swipe" (by decide))
    (.named [.plain "direction" (by decide), .plain "speed" (by decide)])

/-- The inline module. -/
def gestures : Item := .module [] (.plain "gesture" (by decide)) [swipe]

/-- A file with the module. -/
def modelFile : File where
  path := "src/model.rs"
  place := Path.moduleFor "src" "src/model.rs"
  outline := ⟨[gestures]⟩

/-- A file with a marked enum that has a variant around the struct in two boxes. -/
def motionFile : File where
  path := "src/lib.rs"
  place := Path.moduleFor "src" "src/lib.rs"
  outline := ⟨[.enum [.mark 1] (.plain "Motion" (by decide)) ⟨0, 0⟩
    [⟨.plain "Still" (by decide), .none⟩,
     ⟨.plain "Swiped" (by decide), .positional [swipePath.inBox.inBox]⟩]]⟩

/-- The variant has the fields of the struct. -/
theorem member_of_swipePath :
    ∃ declaration ∈ (⟨[modelFile, motionFile]⟩ : Project).declarations,
      declaration.name = ⟨["crate", "Motion"]⟩ ∧
        declaration.members[1]? = some
          { name := declaration.name.child "Swiped"
            isKnown := true
            form := .newtype
            supertypes := [declaration.name]
            constructors := [["direction", "speed"]] } := by
  have hroots : ∀ file ∈ [modelFile, motionFile], file.place.segments.head? = some "crate" := by
    decide
  have hproject : (⟨[modelFile, motionFile]⟩ : Project).placed =
      [⟨⟨["crate", "model"]⟩, gestures⟩] ++
        ⟨⟨["crate", "model", "gesture"]⟩, swipe⟩ :: motionFile.placed := rfl
  have honce : ∀ other ∈ [⟨⟨["crate", "model"]⟩, gestures⟩] ++ motionFile.placed,
      other.typeName? ≠ some ⟨["crate", "model", "gesture", "Swipe"]⟩ := by
    decide
  have hcrate : ∀ other ∈ (⟨[modelFile, motionFile]⟩ : Project).placed,
      other.place = Path.moduleFor "src" "src/lib.rs" →
        ∀ binding ∈ other.item.bindings, binding.name ≠ "crate" := by
    decide
  have hwritten : swipePath.inBox.inBox.IsPathTo ⟨["crate", "model", "gesture", "Swipe"]⟩ :=
    .boxed rfl (by decide) (.boxed rfl (by decide) (.path rfl))
  obtain ⟨declaration, hmem, hname, constructors, hconstructs, hmember⟩ :=
    @member_of_full_path _ _ _ _ _ _ motionFile _ _ _ _ 1 _ _ hroots hproject rfl honce (by decide)
      (List.mem_cons_of_mem _ List.mem_cons_self) List.mem_cons_self rfl (by decide) hcrate rfl rfl
      hwritten
  cases hconstructs
  exact ⟨declaration, hmem, hname, hmember⟩

end EventTracking.Code
