import EventTracking.Proofs.Discovery
import EventTracking.Proofs.DistinctKeys
import EventTracking.Proofs.Words

/-!
# Locals of arms

The pattern of an arm binds the fields of its event to locals, and the entries of the payload read
these locals. Every arm also sets the locals `name` and `payload`, so a field with one of these
names is bound to another one: the first that is free when underscores are added to it.

So no local stands for two things.

Main statements: the search for a free name ends (`searchEnds_localFor`), different fields are bound
to locals with different names (`inj_on_localName`), none of which is one that the arm sets
(`localName_notMem_reserved`), and the events of a project have no fields that their form could not
bind (`suits_of_mem_events`).
-/

namespace EventTracking

open Code Text Line

/-! ## The search for a free name -/

/-- Whether a name is taken, given the fields of a variant: by a local that every arm sets or by a
field. -/
def IsTaken (fields : List String) (name : String) : Prop :=
  name ∈ reservedLocals ∨ name ∈ fields

/-- The search for a free name that begins at `name` ends at `found`: a name that is not taken is
found, and a taken one is left for the same name with one more underscore. -/
inductive SearchEnds (fields : List String) : (name found : String) → Prop where
  /-- The name is free. -/
  | free {name : String} (h : ¬ IsTaken fields name) : SearchEnds fields name name
  /-- The name is taken, and the search goes on. -/
  | taken {name found : String} (h : IsTaken fields name)
      (rest : SearchEnds fields (name ++ "_") found) : SearchEnds fields name found

section

variable {fields : List String} {name found : String}

/-- What is found is free. -/
theorem not_isTaken_of_searchEnds (h : SearchEnds fields name found) : ¬ IsTaken fields found := by
  induction h with
  | free hfree => exact hfree
  | taken _ _ ih => exact ih

/-- What is found begins with the name from which the search began. -/
theorem isPrefix_of_searchEnds (h : SearchEnds fields name found) :
    name.toList <+: found.toList := by
  induction h with
  | free => exact List.prefix_rfl
  | taken _ _ ih =>
      rw [String.toList_append] at ih
      exact (List.prefix_append _ _).trans ih

/-- A name with an underscore at its end is taken by nothing but a field. -/
theorem isTaken_append_underscore_iff :
    IsTaken fields (name ++ "_") ↔ name ++ "_" ∈ fields := by
  have hreserved : name ++ "_" ∉ reservedLocals := by
    intro hmem
    have hlast : (name ++ "_").toList.getLast? = some '_' := by
      rw [String.toList_append]
      exact List.getLast?_concat
    rw [reservedLocals] at hmem
    generalize name ++ "_" = found at hmem hlast
    fin_cases hmem <;> cases hlast
  rw [IsTaken]
  exact or_iff_right hreserved

/-- The fields whose names are not shorter than a name. Only they can still take a name that the
search comes to. -/
def notShorter (fields : List String) (name : String) : List String :=
  fields.filter fun field => decide (name.toList.length ≤ field.toList.length)

/-- A field that takes a name is out of the way once the name has become longer. -/
theorem length_notShorter_lt (h : name ∈ fields) :
    (notShorter fields (name ++ "_")).length < (notShorter fields name).length := by
  have hlength : (name ++ "_").toList.length = name.toList.length + 1 := by
    rw [String.toList_append, List.length_append]
    rfl
  have hsublist : (notShorter fields (name ++ "_")).Sublist (notShorter fields name) := by
    refine List.monotone_filter_right fields ?_
    intro field hlong
    rw [decide_eq_true_eq] at hlong ⊢
    omega
  refine lt_of_le_of_ne hsublist.length_le ?_
  intro hequal
  -- otherwise the two lists are the same, but the name itself is in the second one only
  have hmem : name ∈ notShorter fields name :=
    List.mem_filter.2 ⟨h, decide_eq_true le_rfl⟩
  rw [← hsublist.eq_of_length hequal] at hmem
  have hlong := decide_eq_true_eq.mp (List.mem_filter.1 hmem).2
  omega

/-- The search from a name with an underscore at its end finds what `freeName` finds, as soon as
there are as many tries as fields that can be in the way. -/
theorem searchEnds_freeName {fuel : Nat}
    (hfuel : (notShorter fields (name ++ "_")).length ≤ fuel) :
    SearchEnds fields (name ++ "_") (freeName fields fuel (name ++ "_")) := by
  induction fuel generalizing name with
  | zero =>
      refine .free ?_
      rw [isTaken_append_underscore_iff]
      intro hmem
      have := length_notShorter_lt hmem
      omega
  | succ fuel ih =>
      rw [freeName]
      split
      · rename_i htaken
        have hfield : IsTaken fields (name ++ "_") := by
          simpa only [IsTaken, Bool.or_eq_true, List.contains_iff_mem] using htaken
        refine .taken hfield (ih ?_)
        have := length_notShorter_lt (isTaken_append_underscore_iff.1 hfield)
        omega
      · rename_i hfree
        refine .free ?_
        simpa only [IsTaken, Bool.or_eq_true, List.contains_iff_mem] using hfree

/-- Whatever the fields are, the search for the local of a field with a reserved name ends at that
local. -/
theorem searchEnds_localFor (fields : List String) {field : String} (h : field ∈ reservedLocals) :
    SearchEnds fields (field ++ "_") (localFor fields field) := by
  rw [localFor, if_pos (List.contains_iff_mem.2 h)]
  exact searchEnds_freeName (List.length_filter_le _ _)

end

/-! ## Locals of fields -/

/-- The name of the local that a field is bound to. -/
def localName (fields : List String) (field : String) : String :=
  if reservedLocals.contains field then freeName fields fields.length (field ++ "_") else field

section

variable {fields : List String} {field other : String}

/-- The local of a field with a reserved name is written as it is called. -/
theorem localName_of_mem (fields : List String) (h : field ∈ reservedLocals) :
    localName fields field = localFor fields field := by
  rw [localName, localFor, if_pos (List.contains_iff_mem.2 h), if_pos (List.contains_iff_mem.2 h)]

/-- The local of any other field has the name of the field. -/
theorem localName_of_notMem (fields : List String) (h : field ∉ reservedLocals) :
    localName fields field = field := by
  rw [localName, if_neg (by rwa [List.contains_iff_mem])]

/-- The local of a field with a reserved name is not taken. -/
theorem not_isTaken_localName (fields : List String) (h : field ∈ reservedLocals) :
    ¬ IsTaken fields (localName fields field) := by
  rw [localName_of_mem fields h]
  exact not_isTaken_of_searchEnds (searchEnds_localFor fields h)

/-- No field is bound to a local that every arm sets. -/
theorem localName_notMem_reserved (fields : List String) (field : String) :
    localName fields field ∉ reservedLocals := by
  by_cases h : field ∈ reservedLocals
  · exact fun hmem => not_isTaken_localName fields h (.inl hmem)
  · rwa [localName_of_notMem fields h]

/-- Fields with different reserved names are bound to different locals. -/
theorem localName_inj_of_mem (fields : List String) (h : field ∈ reservedLocals)
    (ho : other ∈ reservedLocals) (heq : localName fields field = localName fields other) :
    field = other := by
  have hfield := isPrefix_of_searchEnds (searchEnds_localFor fields h)
  have hother := isPrefix_of_searchEnds (searchEnds_localFor fields ho)
  rw [← localName_of_mem fields h, heq] at hfield
  rw [← localName_of_mem fields ho] at hother
  -- both names begin the same word, and the two reserved names differ in their first letters
  have hcomparable := List.prefix_or_prefix_of_prefix hfield hother
  rw [reservedLocals] at h ho
  revert hcomparable
  fin_cases h <;> fin_cases ho <;> first | exact fun _ => rfl | decide

/-- Different fields of a variant are bound to different locals. -/
theorem inj_on_localName (h : field ∈ fields) (ho : other ∈ fields)
    (heq : localName fields field = localName fields other) : field = other := by
  by_cases hr : field ∈ reservedLocals
  · by_cases hro : other ∈ reservedLocals
    · exact localName_inj_of_mem fields hr hro heq
    · rw [localName_of_notMem fields hro] at heq
      exact absurd (.inr (heq ▸ ho)) (not_isTaken_localName fields hr)
  · by_cases hro : other ∈ reservedLocals
    · rw [localName_of_notMem fields hr] at heq
      exact absurd (.inr (heq ▸ h)) (not_isTaken_localName fields hro)
    · rwa [localName_of_notMem fields hr, localName_of_notMem fields hro] at heq

end

/-! ## Events of a project -/

/-- The fields of an event suit its form: only forms that bind fields have some. -/
structure Event.Suits (event : Event) : Prop where
  /-- A bare name has no fields. -/
  unit : event.form = .unit → event.fields = []
  /-- Parentheses that are not around a single value have no fields. -/
  tuple : event.form = .tuple → event.fields = []

/-- What is known of a variant makes an event whose fields suit its form. -/
theorem suits_of_describe {written : Fields} {scope : Scope} {place : QualifiedName} {event : Event}
    (hform : event.form = (written.describe scope place).form)
    (hfields : event.fields ∈ (written.describe scope place).constructors) : event.Suits := by
  obtain ⟨name, form, fields⟩ := event
  obtain rfl : form = (written.describe scope place).form := hform
  cases written with
  | none => exact ⟨fun _ => List.mem_singleton.1 hfields, nofun⟩
  | named names => exact ⟨nofun, nofun⟩
  | positional types =>
      match types with
      | [] => exact ⟨nofun, fun _ => List.mem_singleton.1 hfields⟩
      | [type] =>
          -- whatever the wrapped type is, the form is that of a single value
          have hnewtype : ((Fields.positional [type]).describe scope place).form = .newtype := by
            rw [Fields.describe]
            cases scope.resolve? place type <;> rfl
          rw [hnewtype]
          exact ⟨nofun, nofun⟩
      | _ :: _ :: _ => cases hfields

/-- A registered event of a described enum is what is known of one of its variants. -/
theorem exists_variant_of_mem_registry {scope : Scope} {file : String} {placed : PlacedItem}
    {attributes : List Attribute} {name : Identifier} {generics : Generics}
    {variants : List Variant} {declaration : Declaration}
    (hitem : placed.item = .enum attributes name generics variants)
    (hplaced : placed.declaration? scope file = some declaration) {event : Event}
    (hevent : event ∈ declaration.registry.events) :
    ∃ variant ∈ variants, event.name = declaration.name.child variant.name.text ∧
      event.form = (variant.fields.describe scope placed.place).form ∧
        event.fields ∈ (variant.fields.describe scope placed.place).constructors := by
  obtain ⟨-, -, -, hmembers⟩ := PlacedItem.eq_of_declaration?_enum hitem hplaced
  -- the event is made by a member, and the member is a variant of the enum
  have hlisted := Registry.mem_of_mem_ofList hevent
  rw [hmembers] at hlisted
  obtain ⟨member, hmember, hmakes⟩ := List.mem_filterMap.1 hlisted
  obtain ⟨variant, hvariant, rfl⟩ := List.mem_map.1 hmember
  rw [Declaration.event?_of_isDirect (Variant.isDirect_member _ _ _)] at hmakes
  split at hmakes
  · obtain ⟨fields, hfields, rfl⟩ := Option.map_eq_some_iff.1 hmakes
    exact ⟨variant, hvariant, rfl, rfl, List.mem_of_mem_head? hfields⟩
  · cases hmakes

/-- A registered event of a project is what is known of a variant. -/
theorem exists_variant_of_mem_events {project : Project} {group : EventGroup} {event : Event}
    (hgroup : group ∈ project.groups) (hevent : event ∈ group.registry.events) :
    ∃ (place : QualifiedName) (variant : Variant),
      event.form = (variant.fields.describe project.scope place).form ∧
        event.fields ∈ (variant.fields.describe project.scope place).constructors := by
  obtain ⟨declaration, hmem, hmake⟩ := Project.mem_groups_iff.1 hgroup
  obtain ⟨file, -, placed, -, hplaced⟩ := Project.mem_declarations_iff.1 hmem
  obtain ⟨heligible, -, rfl⟩ := Declaration.toGroup_eq_ok_iff.1 hmake
  obtain ⟨⟨item, hkind⟩, -⟩ := Declaration.ineligible?_eq_none_iff.1 heligible
  obtain ⟨attributes, name, generics, variants, hitem, -⟩ :=
    PlacedItem.exists_enum_of_closed hplaced hkind
  obtain ⟨variant, -, -, hform, hfields⟩ := exists_variant_of_mem_registry hitem hplaced hevent
  exact ⟨placed.place, variant, hform, hfields⟩

/-- The registered events of a project have fields that suit their forms. -/
theorem suits_of_mem_events {project : Project} {group : EventGroup} {event : Event}
    (hgroup : group ∈ project.groups) (hevent : event ∈ group.registry.events) : event.Suits := by
  obtain ⟨place, variant, hform, hfields⟩ := exists_variant_of_mem_events hgroup hevent
  exact suits_of_describe hform hfields

end EventTracking
