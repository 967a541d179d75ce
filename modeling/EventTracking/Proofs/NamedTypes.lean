import EventTracking.Proofs.FullPaths
import EventTracking.Proofs.ImportScope

/-!
# Types that paths name

An anchored path names the type of exactly the name that it stands for. Any other path names the
type whose name ends in it or, if there are several of these, the one that is declared in the module
in which the path is written. Each time it has to be the only such type.

A simple name that no `use` item binds in a module is such a path. The type of this name that the
module itself declares is named by it, however many other types have the name elsewhere: if there
are none it is the only type whose name ends so, and if there are some it is the only one here.

Main statements: a lookup finds what the path names (`lookup?_eq_some_iff`), a variant around a
type is described by what the type stands for (`isDescribed_ofWrapped`), and a type of the module
itself is named by its simple name (`names_of_standsIn`).
-/

namespace EventTracking.Code

/-! ## Only types -/

/-- Whether the name of a type ends in a path. -/
def DeclaredType.endsIn (path : List String) (declared : DeclaredType) : Bool :=
  path.isSuffixOf declared.name.segments

/-- Whether a type is declared in a module. -/
def DeclaredType.standsIn (place : QualifiedName) (declared : DeclaredType) : Bool :=
  declared.name.parent? == some place

/-- Exactly one type of a scope has a property, this one. -/
def Scope.HasOnly (scope : Scope) (test : DeclaredType → Bool) (found : DeclaredType) : Prop :=
  scope.types.filter test = [found]

section

variable {scope : Scope} {test : DeclaredType → Bool} {found : DeclaredType}

/-- The only type with a property is among those that have it. -/
theorem Scope.HasOnly.mem_filter (h : scope.HasOnly test found) :
    found ∈ scope.types.filter test := by
  rw [h]
  exact List.mem_singleton_self found

/-- The only type with a property has it. -/
theorem Scope.HasOnly.holds (h : scope.HasOnly test found) : test found = true :=
  (List.mem_filter.1 h.mem_filter).2

/-- The only type with a property is declared. -/
theorem Scope.HasOnly.mem (h : scope.HasOnly test found) : found ∈ scope.types :=
  (List.mem_filter.1 h.mem_filter).1

/-- A type with the property is the only one. -/
theorem Scope.HasOnly.eq (h : scope.HasOnly test found) {other : DeclaredType}
    (hmem : other ∈ scope.types) (hother : test other = true) : other = found := by
  have hfiltered : other ∈ scope.types.filter test := List.mem_filter.2 ⟨hmem, hother⟩
  rw [h] at hfiltered
  exact List.mem_singleton.1 hfiltered

/-- The only type with a property is also the only one with a stronger property that it has. -/
theorem Scope.HasOnly.strengthen (h : scope.HasOnly test found)
    {stronger : DeclaredType → Bool} (hfound : stronger found = true)
    (himplies : ∀ other ∈ scope.types, stronger other = true → test other = true) :
    scope.HasOnly stronger found := by
  -- nothing is lost if the weaker property is asked first
  have hboth : scope.types.filter stronger =
      (scope.types.filter test).filter stronger := by
    rw [List.filter_filter]
    apply List.filter_congr
    intro other hother
    cases hstronger : stronger other with
    | false => rfl
    | true => rw [himplies other hother hstronger, Bool.and_self]
  rw [HasOnly, hboth, h, List.filter_cons_of_pos hfound, List.filter_nil]

end

/-- A list has an only item exactly if it is a list of one item. -/
theorem only?_eq_some_iff {α : Type} {items : List α} {item : α} :
    only? items = some item ↔ items = [item] := by
  constructor
  · intro h
    unfold only? at h
    split at h
    · obtain rfl := Option.some.inj h
      rfl
    · cases h
  · rintro rfl
    rfl

/-! ## Named types -/

/-- The type that a path names in a module. -/
inductive Scope.Names (scope : Scope) (place : QualifiedName) (path : List String)
    (found : DeclaredType) : Prop where
  /-- An anchored path names the only type of the name that it stands for. Both have to end in the
  same word, which a path of anchors alone may fail to do. -/
  | anchored (hanchored : anchored? place path = some found.name.segments)
      (hlast : path.getLast? = some found.name.simple)
      (honly : scope.HasOnly (fun declared => declared.name == found.name) found)
  /-- Another path names the only type whose name ends in it. -/
  | ending (hfree : anchored? place path = none) (hne : path ≠ [])
      (honly : scope.HasOnly (fun declared => declared.endsIn path) found)
  /-- It also names the only one of these that is declared in the module. -/
  | here (hfree : anchored? place path = none) (hne : path ≠ [])
      (honly : scope.HasOnly
        (fun declared => declared.endsIn path && declared.standsIn place) found)

/-- A type whose name ends in a path ends in the last word of the path. -/
theorem DeclaredType.simple_of_endsIn {path : List String} {last : String}
    {declared : DeclaredType} (hlast : path.getLast? = some last)
    (h : declared.endsIn path = true) : declared.name.simple = last := by
  obtain ⟨before, hsegments⟩ := List.isSuffixOf_iff_suffix.1 h
  rw [QualifiedName.simple, ← hsegments, List.getLast?_append, hlast]
  rfl

section

variable {scope : Scope} {place : QualifiedName} {path : List String}

/-- A lookup along an anchored path looks for the only type of the name. -/
theorem Scope.lookup?_of_anchored {last : String} {segments : List String}
    (hlast : path.getLast? = some last) (hanchored : anchored? place path = some segments) :
    scope.lookup? place path = only? (scope.types.filter fun declared =>
      declared.name.segments == segments && declared.name.simple == last) := by
  rw [lookup?, hlast]
  dsimp only
  rw [hanchored]
  dsimp only
  rw [List.filter_filter]

/-- A lookup along any other path looks for the only type whose name ends in it, and then for the
only one of these in the module. -/
theorem Scope.lookup?_of_not_anchored {last : String} (hlast : path.getLast? = some last)
    (hfree : anchored? place path = none) :
    scope.lookup? place path =
      (only? (scope.types.filter fun declared => declared.endsIn path)).or
        (only? (scope.types.filter fun declared =>
          declared.endsIn path && declared.standsIn place)) := by
  -- a name that ends in the path ends in its last word, so this need not be asked first
  have hmatching : (scope.types.filter fun declared => declared.name.simple == last).filter
      (fun declared => path.isSuffixOf declared.name.segments) =
        scope.types.filter fun declared => declared.endsIn path := by
    rw [List.filter_filter]
    apply List.filter_congr
    intro declared _
    cases hends : declared.endsIn path with
    | false => exact Bool.and_eq_false_iff.2 (.inl hends)
    | true =>
        rw [DeclaredType.simple_of_endsIn hlast hends, beq_self_eq_true, Bool.and_true]
        exact hends
  have hhere : (scope.types.filter fun declared => declared.endsIn path).filter
      (fun declared => declared.name.parent? == some place) =
        scope.types.filter fun declared => declared.endsIn path && declared.standsIn place := by
    rw [List.filter_filter]
    exact List.filter_congr fun declared _ => Bool.and_comm _ _
  rw [lookup?, hlast]
  dsimp only
  rw [hfree]
  dsimp only
  rw [hmatching, hhere]
  cases only? (scope.types.filter fun declared => declared.endsIn path) <;> rfl

/-- A lookup along an anchored path finds the type that the path names. -/
theorem Scope.lookup?_eq_some_iff_of_anchored {last : String} {segments : List String}
    {found : DeclaredType} (hlast : path.getLast? = some last)
    (hanchored : anchored? place path = some segments) :
    scope.lookup? place path = some found ↔ scope.Names place path found := by
  rw [lookup?_of_anchored hlast hanchored, only?_eq_some_iff]
  constructor
  · intro h
    have honly : scope.HasOnly (fun declared =>
        declared.name.segments == segments && declared.name.simple == last) found := h
    -- the segments and the last word are those of the type that is found
    have hfound := honly.holds
    rw [Bool.and_eq_true, beq_iff_eq, beq_iff_eq] at hfound
    obtain ⟨rfl, rfl⟩ := hfound
    refine .anchored hanchored hlast (honly.strengthen (beq_self_eq_true _) ?_)
    intro other _ hother
    rw [beq_iff_eq.1 hother, beq_self_eq_true, beq_self_eq_true, Bool.and_self]
  · rintro (⟨hanchored', hlast', honly⟩ | ⟨hfree, -, -⟩ | ⟨hfree, -, -⟩)
    · obtain rfl := Option.some.inj (hanchored.symm.trans hanchored')
      obtain rfl := Option.some.inj (hlast.symm.trans hlast')
      refine honly.strengthen (by rw [beq_self_eq_true, beq_self_eq_true, Bool.and_self]) ?_
      intro other _ hother
      rw [Bool.and_eq_true, beq_iff_eq] at hother
      exact beq_iff_eq.2 (congrArg QualifiedName.mk hother.1)
    · cases hanchored.symm.trans hfree
    · cases hanchored.symm.trans hfree

/-- A lookup along any other path finds the type that the path names. -/
theorem Scope.lookup?_eq_some_iff_of_not_anchored {last : String} {found : DeclaredType}
    (hlast : path.getLast? = some last) (hfree : anchored? place path = none) :
    scope.lookup? place path = some found ↔ scope.Names place path found := by
  have hne : path ≠ [] := by
    rintro rfl
    cases hlast
  rw [lookup?_of_not_anchored hlast hfree, Option.or_eq_some_iff, only?_eq_some_iff,
    only?_eq_some_iff]
  constructor
  · rintro (honly | ⟨-, honly⟩)
    · exact .ending hfree hne honly
    · exact .here hfree hne honly
  · rintro (⟨hanchored, -, -⟩ | ⟨-, -, honly⟩ | ⟨-, -, honly⟩)
    · cases hfree.symm.trans hanchored
    · exact .inl honly
    · -- if a single type ends in the path, it is the one in the module
      cases hending : only? (scope.types.filter fun declared => declared.endsIn path) with
      | none => exact .inr ⟨rfl, honly⟩
      | some only =>
          have honlyEnding : scope.HasOnly (fun declared => declared.endsIn path) only :=
            only?_eq_some_iff.1 hending
          have hends := (Bool.and_eq_true_iff.1 honly.holds).1
          rw [honlyEnding.eq honly.mem hends]
          exact .inl honlyEnding

/-- A lookup finds the type that the path names, and it finds nothing else. -/
theorem Scope.lookup?_eq_some_iff {found : DeclaredType} :
    scope.lookup? place path = some found ↔ scope.Names place path found := by
  cases hlast : path.getLast? with
  | none =>
      -- the path is empty
      obtain rfl := List.getLast?_eq_none_iff.1 hlast
      constructor
      · intro h
        cases h
      · rintro (⟨-, hlast', -⟩ | ⟨-, hne, -⟩ | ⟨-, hne, -⟩)
        · cases hlast'
        · exact absurd rfl hne
        · exact absurd rfl hne
  | some last =>
      cases hanchored : anchored? place path with
      | some segments => exact lookup?_eq_some_iff_of_anchored hlast hanchored
      | none => exact lookup?_eq_some_iff_of_not_anchored hlast hanchored

/-- A written type stands for the type that its path names once the leading name is replaced,
unless the path begins with `::`. -/
theorem Scope.resolve?_eq_some_iff {written : WrittenType} {found : DeclaredType} :
    scope.resolve? place written = some found ↔
      ∃ segments, written.unboxed? = some (false, segments) ∧
        scope.Names place (scope.expand place (segments.map Identifier.text)) found := by
  rw [resolve?]
  cases hunboxed : written.unboxed? with
  | none => simp
  | some unboxed =>
      obtain ⟨rooted, segments⟩ := unboxed
      cases rooted with
      | true => simp
      | false => simp [lookup?_eq_some_iff]

end

/-! ## Types that items declare -/

/-- If a single item of a project declares a type of a name, then its type is the only one of that
name. -/
theorem Project.hasOnly_of_declares {project : Project} {declaring : PlacedItem}
    {typeName : QualifiedName}
    (h : (project.placed.filter fun placed => placed.typeName? == some typeName) = [declaring]) :
    ∃ declared, declaring.declaredType? = some declared ∧ declared.name = typeName ∧
      project.scope.HasOnly (fun found => found.name == declared.name) declared := by
  have hdeclaring : declaring.typeName? = some typeName := by
    have hmem : declaring ∈ project.placed.filter fun placed =>
        placed.typeName? == some typeName := by
      rw [h]
      exact List.mem_singleton_self declaring
    exact beq_iff_eq.1 (List.mem_filter.1 hmem).2
  obtain ⟨declared, hdeclared, rfl⟩ := Option.map_eq_some_iff.1 hdeclaring
  refine ⟨declared, hdeclared, rfl, ?_⟩
  -- the types of this name are those of the items that declare one
  have htypes : (project.scope.types.filter fun found => found.name == declared.name) =
      (project.placed.filter fun placed => placed.typeName? == some declared.name).filterMap
        PlacedItem.declaredType? := by
    rw [Project.scope, Scope.ofPlaced, List.filter_filterMap, List.filterMap_filter]
    apply List.filterMap_congr
    intro placed _
    rw [PlacedItem.typeName?]
    cases placed.declaredType? with
    | none => rfl
    | some found => rw [Option.filter_some, Option.map_some, Option.some_beq_some]
  rw [Scope.HasOnly, htypes, h, List.filterMap_cons_some hdeclared, List.filterMap_nil]

/-! ## Variants around types -/

/-- A variant around a single type, in a marked enum of a project. -/
structure WrappingVariant (project : Project) where
  /-- The file of the enum. -/
  file : File
  /-- The enum, and the module that it stands in. -/
  placed : PlacedItem
  /-- The attributes of the enum. -/
  attributes : List Attribute
  /-- The name of the enum. -/
  name : Identifier
  /-- The generic parameters of the enum. -/
  generics : Generics
  /-- The variants of the enum. -/
  variants : List Variant
  /-- The place of the variant among them. -/
  index : Nat
  /-- The variant. -/
  variant : Variant
  /-- The type that the variant wraps. -/
  written : WrittenType
  /-- The file belongs to the project. -/
  mem_files : file ∈ project.files
  /-- The enum stands in the file. -/
  mem_placed : placed ∈ file.placed
  /-- The item is an enum of this name, with these variants. -/
  item_eq : placed.item = .enum attributes name generics variants
  /-- The enum is marked. -/
  isMarked : attributes.any Attribute.isMarker = true
  /-- The variant is one of its variants. -/
  getElem?_variants : variants[index]? = some variant
  /-- The variant holds a single type. -/
  fields_eq : variant.fields = .positional [written]

section

variable {project : Project}

/-- The declared type that the variant's type stands for. -/
def WrappingVariant.target? (wrapping : WrappingVariant project) : Option DeclaredType :=
  project.scope.resolve? wrapping.placed.place wrapping.written

/-- The enum is described as a declaration of the project, and the variant as a member of it in this
way. -/
def WrappingVariant.IsDescribed (wrapping : WrappingVariant project)
    (description : VariantDescription) : Prop :=
  ∃ declaration ∈ project.declarations,
    wrapping.placed.declaration? project.scope wrapping.file.path = some declaration ∧
      declaration.name = wrapping.placed.place.child wrapping.name.text ∧
      declaration.members[wrapping.index]? = some
        { name := declaration.name.child wrapping.variant.name.text
          isKnown := description.isKnown
          form := description.form
          supertypes := [declaration.name]
          constructors := description.constructors }

/-- The variant is described by what its type stands for. -/
theorem WrappingVariant.isDescribed_ofWrapped (wrapping : WrappingVariant project) :
    wrapping.IsDescribed (.ofWrapped wrapping.target?) := by
  -- the enum is marked, so there is a declaration for it
  obtain ⟨declaration, hdescribed⟩ : ∃ declaration,
      wrapping.placed.declaration? project.scope wrapping.file.path = some declaration := by
    rw [← Option.isSome_iff_exists, PlacedItem.isSome_declaration?, wrapping.item_eq]
    exact wrapping.isMarked
  obtain ⟨hname, -, -, hmembers⟩ :=
    PlacedItem.eq_of_declaration?_enum wrapping.item_eq hdescribed
  refine ⟨declaration, Project.mem_declarations_iff.2
    ⟨wrapping.file, wrapping.mem_files, wrapping.placed, wrapping.mem_placed, hdescribed⟩,
    hdescribed, hname, ?_⟩
  rw [hmembers, List.getElem?_map, wrapping.getElem?_variants, Option.map_some, Variant.member,
    wrapping.fields_eq]
  rfl

/-- The variant is described in one way only. -/
theorem WrappingVariant.IsDescribed.unique {wrapping : WrappingVariant project}
    {description other : VariantDescription} (h : wrapping.IsDescribed description)
    (hother : wrapping.IsDescribed other) : description = other := by
  obtain ⟨declaration, -, hdescribed, -, hmember⟩ := h
  obtain ⟨declaration', -, hdescribed', -, hmember'⟩ := hother
  -- one item makes one declaration, which has one member at each place
  obtain rfl := Option.some.inj (hdescribed.symm.trans hdescribed')
  have hsame := Option.some.inj (hmember.symm.trans hmember')
  rw [Member.mk.injEq] at hsame
  obtain ⟨-, hknown, hform, -, hconstructors⟩ := hsame
  obtain ⟨isKnown, form, constructors⟩ := description
  obtain ⟨isKnown', form', constructors'⟩ := other
  obtain rfl : isKnown = isKnown' := hknown
  obtain rfl : form = form' := hform
  obtain rfl : constructors = constructors' := hconstructors
  rfl

/-- The variant's type stands for the type that an item declares. -/
def WrappingVariant.ResolvesTo (wrapping : WrappingVariant project) (declaring : PlacedItem) :
    Prop :=
  ∃ declared, declaring.declaredType? = some declared ∧ wrapping.target? = some declared

/-- An item declares a single type at most. -/
theorem WrappingVariant.resolvesTo_iff {wrapping : WrappingVariant project}
    {declaring : PlacedItem} {declared : DeclaredType}
    (hdeclared : declaring.declaredType? = some declared) :
    wrapping.ResolvesTo declaring ↔ wrapping.target? = some declared := by
  constructor
  · rintro ⟨other, hother, htarget⟩
    rw [hdeclared] at hother
    rw [htarget, hother]
  · intro htarget
    exact ⟨declared, hdeclared, htarget⟩

/-- If the variant's type stands for the type that an item declares, the variant is described by
what the item constructs. -/
theorem WrappingVariant.ResolvesTo.isDescribed {wrapping : WrappingVariant project}
    {declaring : PlacedItem} (h : wrapping.ResolvesTo declaring) :
    ∃ constructors, declaring.item.Constructs constructors ∧
      wrapping.IsDescribed ⟨true, .newtype, constructors⟩ := by
  obtain ⟨declared, hdeclared, htarget⟩ := h
  refine ⟨_, PlacedItem.constructs_of_declaredType? hdeclared, ?_⟩
  have hdescribed := wrapping.isDescribed_ofWrapped
  rw [htarget] at hdescribed
  exact hdescribed

/-- It is not known what the variant holds exactly if its type stands for no declared type. -/
theorem WrappingVariant.isDescribed_unknown_iff {wrapping : WrappingVariant project} :
    wrapping.IsDescribed ⟨false, .newtype, []⟩ ↔ wrapping.target? = none := by
  have hdescribed := wrapping.isDescribed_ofWrapped
  constructor
  · intro h
    cases htarget : wrapping.target? with
    | none => rfl
    | some found =>
        rw [htarget] at hdescribed
        cases hdescribed.unique h
  · intro h
    rw [h] at hdescribed
    exact hdescribed

end

/-! ## Types of the same module -/

/-- A path is not anchored if its first word is no anchor. -/
theorem anchored?_eq_none {place : QualifiedName} {first : String} {rest : List String}
    (h : first ∉ ["crate", "self", "super"]) : anchored? place (first :: rest) = none := by
  simp only [List.mem_cons, List.not_mem_nil, or_false, not_or] at h
  obtain ⟨hcrate, hself, hsuper⟩ := h
  rw [anchored?, if_neg hcrate, if_neg hself, if_neg hsuper]

/-- The name of a type in a module is known from the last word of a path in which it ends. -/
theorem DeclaredType.name_of_standsIn {place : QualifiedName} {path : List String} {last : String}
    {declared : DeclaredType} (hlast : path.getLast? = some last)
    (hends : declared.endsIn path = true) (hstands : declared.standsIn place = true) :
    declared.name = place.child last := by
  rw [QualifiedName.eq_child_of_parent? (beq_iff_eq.1 hstands), simple_of_endsIn hlast hends]

/-- The type that a module declares is named there by every path in which its name ends, unless the
path is anchored, whatever other types have names that end in the path. -/
theorem Scope.names_of_standsIn {scope : Scope} {place : QualifiedName} {path : List String}
    {declared : DeclaredType} (hfree : anchored? place path = none) (hne : path ≠ [])
    (hends : declared.endsIn path = true) (hstands : declared.standsIn place = true)
    (honly : scope.HasOnly (fun found => found.name == declared.name) declared) :
    scope.Names place path declared := by
  refine .here hfree hne (honly.strengthen ?_ ?_)
  · rw [hends, hstands, Bool.and_self]
  · intro other _ hother
    rw [Bool.and_eq_true] at hother
    -- both stand in the module and end in the last word of the path, so they have one name
    have hlast := List.getLast?_eq_some_getLast hne
    rw [beq_iff_eq, DeclaredType.name_of_standsIn hlast hother.1 hother.2,
      DeclaredType.name_of_standsIn hlast hends hstands]

/-- The only type of its name is named by a path that is not anchored exactly if its name ends in the
path, and it stands in the module or no type of another name ends in the path. -/
theorem Scope.names_iff_of_not_anchored {scope : Scope} {place : QualifiedName}
    {path : List String} {declared : DeclaredType} (hfree : anchored? place path = none)
    (hne : path ≠ [])
    (honly : scope.HasOnly (fun found => found.name == declared.name) declared) :
    scope.Names place path declared ↔
      declared.endsIn path = true ∧ (declared.standsIn place = true ∨
        ∀ other ∈ scope.types, other.endsIn path = true → other.name = declared.name) := by
  constructor
  · rintro (⟨hanchored, -, -⟩ | ⟨-, -, honlyEnding⟩ | ⟨-, -, honlyHere⟩)
    · cases hfree.symm.trans hanchored
    · refine ⟨honlyEnding.holds, .inr fun other hother hends => ?_⟩
      rw [honlyEnding.eq hother hends]
    · have hholds := honlyHere.holds
      rw [Bool.and_eq_true] at hholds
      exact ⟨hholds.1, .inl hholds.2⟩
  · rintro ⟨hends, hstands | hothers⟩
    · exact names_of_standsIn hfree hne hends hstands honly
    · refine .ending hfree hne (honly.strengthen hends fun other hother hotherEnds => ?_)
      exact beq_iff_eq.2 (hothers other hother hotherEnds)

/-- The only type of its name is named by an anchored path exactly if the path stands for its name
and ends in the same word. -/
theorem Scope.names_iff_of_anchored {scope : Scope} {place : QualifiedName} {path : List String}
    {segments : List String} {declared : DeclaredType}
    (hanchored : anchored? place path = some segments)
    (honly : scope.HasOnly (fun found => found.name == declared.name) declared) :
    scope.Names place path declared ↔
      segments = declared.name.segments ∧ path.getLast? = some declared.name.simple := by
  constructor
  · rintro (⟨hanchored', hlast, -⟩ | ⟨hfree, -, -⟩ | ⟨hfree, -, -⟩)
    · exact ⟨Option.some.inj (hanchored.symm.trans hanchored'), hlast⟩
    · cases hanchored.symm.trans hfree
    · cases hanchored.symm.trans hfree
  · rintro ⟨rfl, hlast⟩
    exact .anchored hanchored hlast honly

/-- Let a module of at least one segment declare a struct or an enum under a simple name, other than
`Box`, `crate`, `self` and `super`, that no `use` item of the module binds, and let no other struct
or enum of the project have the same qualified name. Wherever a marked enum of the module has a
variant around a type that is written as this simple name, within any number of boxes, the variant
is described by the module's type, whatever other modules and files declare under the name. -/
theorem member_of_local_type {project : Project} (wrapping : WrappingVariant project)
    {declaring : PlacedItem} {name : String}
    (hname : name ∉ ["Box", "crate", "self", "super"])
    (hplace : wrapping.placed.place.segments ≠ [])
    (hunbound : ∀ other ∈ project.placed, other.place = wrapping.placed.place →
      ∀ binding ∈ other.item.bindings, binding.name ≠ name)
    (honly : (project.placed.filter fun other =>
      other.typeName? == some (wrapping.placed.place.child name)) = [declaring])
    (hwritten : wrapping.written.IsPathTo ⟨[name]⟩) :
    ∃ constructors, declaring.item.Constructs constructors ∧
      wrapping.IsDescribed ⟨true, .newtype, constructors⟩ := by
  rw [List.mem_cons, not_or] at hname
  obtain ⟨hbox, hanchor⟩ := hname
  obtain ⟨declared, hdeclared, hdeclaredName, honlyType⟩ := Project.hasOnly_of_declares honly
  obtain ⟨words, hunboxed, hwords⟩ :=
    WrittenType.unboxed?_of_isPathTo hwritten (List.cons_ne_nil _ _) hbox
  -- the name stands for itself, so it is looked up as it is written
  have hexpand : project.scope.expand wrapping.placed.place (words.map Identifier.text) =
      [name] := by
    rw [hwords, Scope.expand, Project.scope, Scope.bound?_eq_none hunbound]
  have htarget : wrapping.target? = some declared := by
    rw [WrappingVariant.target?, Scope.resolve?_eq_some_iff]
    refine ⟨words, hunboxed, ?_⟩
    rw [hexpand]
    have hends : declared.endsIn [name] = true := by
      rw [DeclaredType.endsIn, hdeclaredName, QualifiedName.segments_child]
      exact List.isSuffixOf_iff_suffix.2 (List.suffix_append _ _)
    have hstands : declared.standsIn wrapping.placed.place = true := by
      rw [DeclaredType.standsIn, hdeclaredName, QualifiedName.parent_child name hplace,
        beq_self_eq_true]
    exact Scope.names_of_standsIn (anchored?_eq_none hanchor) (List.cons_ne_nil _ _) hends hstands
      honlyType
  exact WrappingVariant.ResolvesTo.isDescribed ⟨declared, hdeclared, htarget⟩

/-- The attribute that marks an item is a marker. -/
theorem any_isMarker_mark (line : Nat) : [Attribute.mark line].any Attribute.isMarker = true := rfl

/-- A file with a struct that is called `Clicked` and has one field. -/
def clickedStructFile (path : String) (field : Identifier) : File where
  path := path
  place := Path.moduleFor "src" path
  outline := ⟨[.struct [] (.plain "Clicked" (.refl true)) (.named [field])]⟩

/-- Such a file, for another struct than that of the screens. -/
def soundsFile : File := clickedStructFile "src/sounds.rs" (.plain "volume" (by decide))

/-- A variant around `Clicked` in a module with a struct of that name. -/
def screenClicked : WrappingVariant ⟨[soundsFile, clickedFile "src/screens.rs"]⟩ :=
  ⟨clickedFile "src/screens.rs", _, _, _, _, _, 0, _, _,
    List.mem_cons_of_mem _ List.mem_cons_self, List.mem_cons_self, rfl, any_isMarker_mark 1, rfl,
    rfl⟩

/-- The variant has the field of the struct in its own module. -/
theorem member_of_screenClicked : screenClicked.IsDescribed ⟨true, .newtype, [["label"]]⟩ := by
  have hunbound : ∀ other ∈ (⟨[soundsFile, clickedFile "src/screens.rs"]⟩ : Project).placed,
      other.place = screenClicked.placed.place →
        ∀ binding ∈ other.item.bindings, binding.name ≠ "Clicked" := by
    decide
  obtain ⟨constructors, hconstructs, hdescribed⟩ :=
    member_of_local_type screenClicked (by decide) (by decide) hunbound rfl (.path rfl)
  cases hconstructs
  exact hdescribed

end EventTracking.Code
