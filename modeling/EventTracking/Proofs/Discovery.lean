import EventTracking.Run

/-!
# Discovered groups

A group comes from exactly one kind of marked item, an enum without parameters other than
lifetimes, and carries the enum's name. Whatever discovery has to say about an item, it says before
anything is generated.

Main statements: when a declaration makes a group (`toGroup_eq_ok_iff`), that its item is an enum
(`exists_enum_of_closed`), and that no finding belongs to the step of generation
(`step_ne_generate_of_mem_findings`).
-/

namespace EventTracking

open Code

namespace Declaration

/-! ## Making groups -/

/-- Only a closed type without parameters other than lifetimes is eligible. -/
theorem ineligible?_eq_none_iff {declaration : Declaration} :
    declaration.ineligible? = none ↔
      (∃ item, declaration.kind = .closed item) ∧ declaration.isGeneric = false := by
  unfold ineligible?
  split
  · rename_i item hk
    simp [hk]
  · rename_i item hk
    simp [hk]
  · rename_i item hk
    simp [hk]

/-- An eligible declaration makes a group unless it has no events. -/
theorem toGroup_of_eligible {declaration : Declaration} (h : declaration.ineligible? = none) :
    declaration.toGroup =
      if declaration.registry.isEmpty then .error .noEvents else .ok declaration.group := by
  rw [toGroup, h]

/-- A declaration makes a group exactly if it is eligible and has an event. -/
theorem toGroup_eq_ok_iff {declaration : Declaration} {group : EventGroup} :
    declaration.toGroup = .ok group ↔
      declaration.ineligible? = none ∧ declaration.registry.isEmpty = false ∧
        group = declaration.group := by
  cases h : declaration.ineligible? with
  | some skip => simp [toGroup, h]
  | none =>
      rw [toGroup_of_eligible h]
      cases declaration.registry.isEmpty <;> simp [eq_comm]

/-- The group that a declaration makes, if it makes one, is the one of `toGroup`. -/
theorem group?_eq_some_iff {declaration : Declaration} {group : EventGroup} :
    declaration.group? = some group ↔ declaration.toGroup = .ok group := by
  rw [group?]
  cases declaration.toGroup <;> simp [Except.toOption]

/-! ## Members -/

/-- A direct member makes an event if it is known what it holds and it has a constructor, the first
of which gives the fields. -/
theorem event?_of_isDirect {declaration : Declaration} {member : Member}
    (h : declaration.isDirect member = true) :
    declaration.event? member =
      if member.isKnown then
        member.constructors.head?.map fun fields => ⟨member.name, member.form, fields⟩
      else none := by
  rw [event?, event, if_pos h]
  split
  · cases member.constructors <;> rfl
  · rfl

/-- An event has the name of the member that makes it. -/
theorem name_of_event? {declaration : Declaration} {member : Member} {event : Event}
    (h : declaration.event? member = some event) : event.name = member.name := by
  unfold event? Declaration.event at h
  split at h
  · split at h
    · split at h
      · cases h
      · obtain rfl := Option.some.inj h
        rfl
    · cases h
  · cases h

/-! ## Findings -/

/-- What there is to say about a member is a note. -/
theorem severity_of_note? {declaration : Declaration} {member : Member} {note : Diagnostic}
    (h : declaration.note? member = some note) : note.severity = .note := by
  unfold note? at h
  split at h
  · cases h
  · obtain rfl := Option.some.inj h
    rfl

/-- What there is to say about a skipped declaration is a warning. -/
theorem severity_skipWarning (declaration : Declaration) (skip : Skip) :
    (declaration.skipWarning skip).severity = .warning := by
  cases skip <;> rfl

/-- A note belongs to one of the two steps that look at members. -/
theorem step_of_note? {declaration : Declaration} {member : Member} {note : Diagnostic}
    (h : declaration.note? member = some note) :
    note.step = .validMember ∨ note.step = .declaredEvents := by
  unfold note? at h
  split at h
  · cases h
  · rename_i exclusion he
    obtain rfl := Option.some.inj h
    cases exclusion with
    | unknown => exact .inl rfl
    | indirect => exact .inl rfl
    | noConstructor => exact .inr rfl

/-- A skip belongs to one of the two steps that look at declarations. -/
theorem step_skipWarning (declaration : Declaration) (skip : Skip) :
    (declaration.skipWarning skip).step = .process ∨
      (declaration.skipWarning skip).step = .analyticsElement := by
  cases skip with
  | noEvents => exact .inl rfl
  | notType item => exact .inr rfl
  | notClosed item => exact .inr rfl
  | generic => exact .inr rfl

/-- Nothing that discovery finds belongs to the step of generation. -/
theorem step_ne_generate_of_mem_findings {declaration : Declaration} {finding : Diagnostic}
    (h : finding ∈ declaration.findings) : finding.step ≠ .generate := by
  have hskip (skip : Skip) : (declaration.skipWarning skip).step ≠ .generate := by
    rcases step_skipWarning declaration skip with hs | hs <;> rw [hs] <;> decide
  unfold findings at h
  split at h
  · rename_i skip _
    rw [List.mem_singleton] at h
    rw [h]
    exact hskip skip
  · rcases List.mem_append.1 h with hn | hw
    · obtain ⟨member, -, hm⟩ := List.mem_filterMap.1 hn
      rcases step_of_note? hm with hs | hs <;> rw [hs] <;> decide
    · split at hw
      · rw [List.mem_singleton] at hw
        rw [hw]
        exact hskip .noEvents
      · cases hw

end Declaration

namespace Code

/-! ## Items as they are written -/

/-- A word as a plain identifier. -/
def Identifier.plain (word : String) (h : Text.isWord word.toList = true) : Identifier :=
  ⟨false, word, h, fun hraw => by cases hraw⟩

/-- The attribute that marks an item, on a line. -/
def Attribute.mark (line : Nat) : Attribute := ⟨[.plain marker (by decide)], line⟩

/-- An item is placed before the items inside it. -/
theorem Item.placed_eq_cons (place : QualifiedName) (item : Item) :
    item.placed place = ⟨place, item⟩ :: Item.placedAll (place.child item.simpleName) item.inner := by
  cases item <;> rfl

/-! ## Items that make groups -/

/-- A declaration of a project describes an item of one of its files. -/
theorem Project.mem_declarations_iff {project : Project} {declaration : Declaration} :
    declaration ∈ project.declarations ↔
      ∃ file ∈ project.files, ∃ placed ∈ file.placed,
        placed.declaration? project.scope file.path = some declaration := by
  simp only [declarations, File.declarations, List.mem_flatMap, List.mem_filterMap]

/-- A group of a project is made by one of its declarations. -/
theorem Project.mem_groups_iff {project : Project} {group : EventGroup} :
    group ∈ project.groups ↔
      ∃ declaration ∈ project.declarations, declaration.toGroup = .ok group := by
  simp only [groups, List.mem_filterMap, Declaration.group?_eq_some_iff]

/-- An enum is described with a member for each of its variants. -/
theorem PlacedItem.eq_of_declaration?_enum {scope : Scope} {file : String} {placed : PlacedItem}
    {attributes : List Attribute} {name : Identifier} {generics : Generics}
    {variants : List Variant} {declaration : Declaration}
    (hitem : placed.item = .enum attributes name generics variants)
    (h : placed.declaration? scope file = some declaration) :
    declaration.name = placed.place.child name.text ∧ declaration.kind = .closed "enum" ∧
      declaration.isGeneric = (generics.others != 0) ∧
      declaration.members = variants.map (·.member scope placed.place declaration.name) := by
  obtain ⟨line, -, rfl⟩ := Option.map_eq_some_iff.1 h
  obtain ⟨place, item⟩ := placed
  obtain rfl : item = .enum attributes name generics variants := hitem
  exact ⟨rfl, rfl, rfl, rfl⟩

/-- A variant belongs directly to the declaration of its enum. -/
theorem Variant.isDirect_member {declaration : Declaration} (scope : Scope)
    (place : QualifiedName) (variant : Variant) :
    declaration.isDirect (variant.member scope place declaration.name) = true := by
  rw [Declaration.isDirect_iff, member]
  exact List.mem_singleton_self _

/-- Only an enum is described as a closed type. -/
theorem PlacedItem.exists_enum_of_closed {scope : Scope} {file : String} {placed : PlacedItem}
    {declaration : Declaration} {item : String}
    (h : placed.declaration? scope file = some declaration)
    (hk : declaration.kind = .closed item) :
    ∃ attributes name generics variants,
      placed.item = .enum attributes name generics variants ∧
        declaration.name = placed.place.child name.text := by
  have hname := PlacedItem.parent_of_declaration? h
  obtain ⟨line, -, rfl⟩ := Option.map_eq_some_iff.1 h
  obtain ⟨place, item'⟩ := placed
  cases item' with
  | enum attributes name generics variants =>
      exact ⟨attributes, name, generics, variants, rfl, hname⟩
  | named attributes kind name => cases kind <;> cases hk
  | struct => cases hk
  | module => cases hk
  | use => cases hk
  | unnamed => cases hk
  | unread => cases hk

/-- A discovered group is named after an identifier of the source. -/
theorem Project.exists_simple_eq_text {project : Project} {group : EventGroup}
    (h : group ∈ project.groups) :
    ∃ identifier : Identifier, group.name.simple = identifier.text := by
  obtain ⟨declaration, hd, hg⟩ := mem_groups_iff.1 h
  obtain ⟨file, -, placed, -, hp⟩ := mem_declarations_iff.1 hd
  obtain ⟨he, -, rfl⟩ := Declaration.toGroup_eq_ok_iff.1 hg
  obtain ⟨⟨item, hk⟩, -⟩ := Declaration.ineligible?_eq_none_iff.1 he
  obtain ⟨_, name, _, _, -, hn⟩ := PlacedItem.exists_enum_of_closed hp hk
  refine ⟨name, ?_⟩
  rw [Declaration.group, hn, QualifiedName.simple_child]

end Code

end EventTracking
