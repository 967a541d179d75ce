import EventTracking.Proofs.ReadNames

/-!
# Parsed projects

The files of a project may have been read from source texts, as those of a loaded project have been.
Then whatever its items declare can be written as a name again, with one exception: a field in braces
may be the word `_`. The fields of an event come from a variant or from a struct, so this goes for
them too.

Main statements: loaded projects are parsed (`isParsed_loadProject`), and what is known of the events
of a parsed project can be written, blank fields apart (`exists_spelled_variant`,
`isWritable_of_mem_fields`).
-/

namespace EventTracking

open Code Text

/-- All files of a project have been read from source texts. -/
def Code.Project.IsParsed (project : Project) : Prop :=
  ∀ file ∈ project.files, ∃ source, Outline.ofSource source = .ok file.outline

/-! ## Loaded files -/

/-- A file of a loaded project has been read from a source text, and its module is the one that its
path stands for. -/
theorem exists_source_of_mem_files {tree : FileTree} {root : Encoded} {file : File}
    (h : file ∈ (loadProject tree root).project.files) :
    file.place = Path.moduleFor root.shown file.path ∧
      ∃ source, Outline.ofSource source = .ok file.outline := by
  have hread {path : Encoded} (hfile : readSource tree root path = .ok file) :
      file.place = Path.moduleFor root.shown file.path ∧
        ∃ source, Outline.ofSource source = .ok file.outline := by
    unfold readSource at hfile
    split at hfile
    · cases hfile
    · rename_i source _
      split at hfile
      · cases hfile
      · rename_i outline houtline
        cases hfile
        exact ⟨rfl, source, houtline⟩
  unfold loadProject at h
  split at h
  · obtain ⟨read, hmem, hsome⟩ := List.mem_filterMap.1 h
    obtain ⟨found, -, hfound⟩ := List.mem_map.1 hmem
    cases read with
    | error diagnostic => cases hsome
    | ok loaded =>
        obtain rfl := Option.some.inj hsome
        unfold readFound at hfound
        split at hfound
        · exact hread hfound
        · cases hfound
  · cases h

/-- A project that has been loaded is parsed. -/
theorem isParsed_loadProject (tree : FileTree) (root : Encoded) :
    (loadProject tree root).project.IsParsed :=
  fun _ h => (exists_source_of_mem_files h).2

namespace Code.Project.IsParsed

variable {project : Project} {file : File}

/-! ## Declared names -/

/-- What stands in a file of a parsed project is spelled. -/
theorem isSpelled_of_mem_placed (h : project.IsParsed) (hfile : file ∈ project.files)
    {placed : PlacedItem} (hplaced : placed ∈ file.placed) : placed.IsSpelled file.place := by
  obtain ⟨source, houtline⟩ := h file hfile
  exact Item.isSpelled_of_mem_placedAll (Outline.isSpelled_of_ofSource houtline) hplaced

/-- The named fields of a declared type can be written, blanks apart. -/
theorem isWritable_of_mem_types (h : project.IsParsed) {declared : DeclaredType}
    (hdeclared : declared ∈ project.scope.types) {fields : List String}
    (hshape : declared.shape = .named fields) :
    ∀ field ∈ fields, field = "_" ∨ IsWritable field := by
  obtain ⟨placed, hplaced, hdeclares⟩ := List.mem_filterMap.1 hdeclared
  obtain ⟨file, hfile, hmem⟩ := List.mem_flatMap.1 hplaced
  have hspells := (h.isSpelled_of_mem_placed hfile hmem).item
  obtain ⟨place, item⟩ := placed
  cases item with
  | struct attributes name written =>
      cases hdeclares
      intro field hfield
      -- only a struct with braces has the shape of named fields
      cases written with
      | named names =>
          cases hshape
          obtain ⟨identifier, hidentifier, rfl⟩ := List.mem_map.1 hfield
          exact hspells names rfl identifier hidentifier
      | positional types => cases hshape
      | none => cases hshape
  | enum attributes name generics variants =>
      cases hdeclares
      cases hshape
  | module => cases hdeclares
  | use => cases hdeclares
  | named => cases hdeclares
  | unnamed => cases hdeclares
  | unread => cases hdeclares

/-- The fields that are known of a spelled variant can be written, blanks apart. -/
theorem isWritable_of_mem_constructors (h : project.IsParsed) {written : Fields}
    (hwritten : written.IsSpelled) (place : QualifiedName) {fields : List String}
    (hfields : fields ∈ (written.describe project.scope place).constructors) :
    ∀ field ∈ fields, field = "_" ∨ IsWritable field := by
  have hempty (hnone : fields ∈ [([] : List String)]) :
      ∀ field ∈ fields, field = "_" ∨ IsWritable field := by
    rw [List.mem_singleton.1 hnone]
    exact List.forall_mem_nil _
  cases written with
  | none => exact hempty hfields
  | named names =>
      obtain rfl := List.mem_singleton.1 hfields
      intro field hfield
      obtain ⟨identifier, hidentifier, rfl⟩ := List.mem_map.1 hfield
      exact hwritten names rfl identifier hidentifier
  | positional types =>
      match types with
      | [] => exact hempty hfields
      | [wrapped] =>
          rw [Fields.describe] at hfields
          cases hresolve : project.scope.resolve? place wrapped with
          | none =>
              rw [hresolve] at hfields
              cases hfields
          | some found =>
              rw [hresolve] at hfields
              have hfound := Scope.mem_of_resolve? hresolve
              obtain ⟨name, shape⟩ := found
              cases shape with
              | enum => exact hempty hfields
              | unit => exact hempty hfields
              | positional => cases hfields
              | named names =>
                  obtain rfl := List.mem_singleton.1 hfields
                  exact h.isWritable_of_mem_types hfound rfl
      | _ :: _ :: _ => cases hfields

/-! ## Events -/

/-- A registered event of an enum that stands in a parsed project is named after a variant that can
be written, and so can its fields be, blanks apart. -/
theorem exists_spelled_variant (h : project.IsParsed) (hfile : file ∈ project.files)
    {placed : PlacedItem} (hplaced : placed ∈ file.placed) {attributes : List Attribute}
    {name : Identifier} {generics : Generics} {variants : List Variant}
    (hitem : placed.item = .enum attributes name generics variants) {declaration : Declaration}
    (hdescribed : placed.declaration? project.scope file.path = some declaration) {event : Event}
    (hevent : event ∈ declaration.registry.events) :
    ∃ variant ∈ variants, event.name = declaration.name.child variant.name.text ∧
      IsWritable variant.name.text ∧ ∀ field ∈ event.fields, field = "_" ∨ IsWritable field := by
  obtain ⟨variant, hvariant, hname, -, hfields⟩ :=
    exists_variant_of_mem_registry hitem hdescribed hevent
  have hspells := (h.isSpelled_of_mem_placed hfile hplaced).item
  rw [hitem] at hspells
  obtain ⟨hwritable, hspelled⟩ := hspells.2 variant hvariant
  exact ⟨variant, hvariant, hname, hwritable,
    h.isWritable_of_mem_constructors hspelled placed.place hfields⟩

/-- The fields of the events of a parsed project can be written, blanks apart. -/
theorem isWritable_of_mem_fields (h : project.IsParsed) {group : EventGroup}
    (hgroup : group ∈ project.groups) {event : Event} (hevent : event ∈ group.registry.events) :
    ∀ field ∈ event.fields, field = "_" ∨ IsWritable field := by
  obtain ⟨declaration, hmem, hmake⟩ := Project.mem_groups_iff.1 hgroup
  obtain ⟨file, hfile, placed, hplaced, hdescribed⟩ := Project.mem_declarations_iff.1 hmem
  obtain ⟨heligible, -, rfl⟩ := Declaration.toGroup_eq_ok_iff.1 hmake
  obtain ⟨⟨word, hkind⟩, -⟩ := Declaration.ineligible?_eq_none_iff.1 heligible
  obtain ⟨attributes, name, generics, variants, hitem, -⟩ :=
    PlacedItem.exists_enum_of_closed hdescribed hkind
  obtain ⟨-, -, -, -, hfields⟩ :=
    h.exists_spelled_variant hfile hplaced hitem hdescribed hevent
  exact hfields

end Code.Project.IsParsed

end EventTracking
