import EventTracking.Proofs.ArmPatterns

/-!
# Hygiene of arms

An arm binds locals in its pattern, sets the locals `name` and `payload`, and reads what it has bound
in the entries of its payload. The locals of an arm are different names, and none of them is one that
the arm sets; and each entry reads the local that the pattern binds to its own field, or its field of
the wrapped value. All names here are what the texts of the arm are read as. So there is one
exception: nothing is read as the name of a blank field.

Main statements: what is read under a pattern is no blank (`ArmPattern.Reads.ne_blank`), an arm whose
fields can be written is hygienic (`hygienicArm_patternArm`), and so the arms of a parsed project are
hygienic exactly if no field is blank (`hygienic_arms_of_group`).
-/

namespace EventTracking

open Code Text Line

/-! ## What patterns bind and what is read -/

namespace ArmPattern

/-- The pattern binds the locals of those names. -/
def BindsAll (pattern : ArmPattern) (locals : List String) : Prop :=
  match pattern with
  | braces parts => List.Forall₂ (fun part word => ReadsAs part.target word) parts locals
  | wrapped => locals = ["event"]
  | _ => locals = []

/-- Whether, under the pattern, an expression is the value of a field: it is read as the local that
the pattern binds to the field, or it is the field of the wrapped value if the pattern binds that
value to `event`. -/
def Reads (pattern : ArmPattern) (field value : String) : Prop :=
  match pattern with
  | braces parts => ∃ part ∈ parts, ∃ word, part.Binds field word ∧ ReadsAs value word
  | wrapped => ∃ text, value = "&event." ++ text ∧ ReadsAs text field
  | _ => False -- nothing is bound

/-- A field that is read is no blank. -/
theorem Reads.ne_blank {pattern : ArmPattern} {field value : String} (h : pattern.Reads field value) :
    field ≠ "_" := by
  cases pattern with
  | braces parts =>
      obtain ⟨part, -, word, ⟨hfield, -⟩, -⟩ := h
      exact hfield.ne_blank
  | wrapped =>
      obtain ⟨text, -, hfield⟩ := h
      exact hfield.ne_blank
  | bare => cases h
  | emptyBraces => cases h
  | ignored => cases h
  | emptyParentheses => cases h

end ArmPattern

/-! ## Hygienic arms -/

/-- An arm of an event is hygienic under a pattern: the locals that the pattern binds have different
names, none of which is that of a local that the arm sets, and each value that the payload reads is
what the pattern binds to its field. -/
structure Event.HygienicArm (event : Event) (path runtime : String) (pattern : ArmPattern)
    (arm : Arm) : Prop where
  /-- The arm has the pattern. -/
  text : arm.pattern = pattern.text path
  /-- Fields in braces are those of the event. -/
  named : ∀ parts, pattern = .braces parts →
    List.Forall₂ (fun part field => ReadsAs part.field field) parts event.fields
  /-- The locals have different names, and these are neither `name` nor `payload`. -/
  locals : ∃ locals, pattern.BindsAll locals ∧ locals.Nodup ∧
    ∀ word ∈ locals, word ≠ "name" ∧ word ≠ "payload"
  /-- The payload has an entry for each field, which reads what the pattern binds to the field. -/
  reads : ∃ values, arm.body = event.settingLines runtime values ∧
    List.Forall₂ pattern.Reads event.fields values

section

variable {event : Event}

/-- The fields in the pattern of an event's arm are the fields of the event. -/
theorem named_ofEvent (hfields : ∀ field ∈ event.fields, IsWritable field)
    {parts : List FieldPattern} (h : ArmPattern.ofEvent event = .braces parts) :
    List.Forall₂ (fun part field => ReadsAs part.field field) parts event.fields := by
  obtain ⟨name, form, fields⟩ := event
  cases form with
  | unit => cases h
  | braced =>
      cases fields with
      | nil => cases h
      | cons first rest =>
          obtain rfl := ArmPattern.braces.inj h
          rw [List.forall₂_map_left_iff, List.forall₂_same]
          exact fun field hfield => (FieldPattern.binds_ofField _ (hfields field hfield)).1
  | newtype => cases fields <;> cases h
  | tuple => cases h

/-- The locals of an event's arm are those of its fields, or the wrapped value alone. -/
theorem bindsAll_ofEvent (hfields : ∀ field ∈ event.fields, IsWritable field) :
    (ArmPattern.ofEvent event).BindsAll [] ∨ (ArmPattern.ofEvent event).BindsAll ["event"] ∨
      (ArmPattern.ofEvent event).BindsAll (event.fields.map (localName event.fields)) := by
  obtain ⟨name, form, fields⟩ := event
  cases form with
  | unit => exact .inl rfl
  | braced =>
      cases fields with
      | nil => exact .inl rfl
      | cons first rest =>
          refine .inr (.inr ?_)
          rw [ArmPattern.ofEvent, ArmPattern.BindsAll, List.forall₂_map_left_iff,
            List.forall₂_map_right_iff, List.forall₂_same]
          exact fun field hfield => (FieldPattern.binds_ofField _ (hfields field hfield)).2
  | newtype =>
      cases fields with
      | nil => exact .inl rfl
      | cons first rest => exact .inr (.inl rfl)
  | tuple => exact .inl rfl

/-- The values of an event's payload are what the pattern of its arm binds to the fields. -/
theorem forall₂_reads (hsuits : event.Suits) (hfields : ∀ field ∈ event.fields, IsWritable field) :
    List.Forall₂ (ArmPattern.ofEvent event).Reads event.fields event.expressions := by
  obtain ⟨name, form, fields⟩ := event
  -- forms that bind nothing have no fields to be read
  cases form with
  | unit =>
      obtain rfl : fields = [] := hsuits.unit rfl
      exact .nil
  | braced =>
      cases fields with
      | nil => exact .nil
      | cons first rest =>
          rw [Event.expressions, Event.boundFields, List.map_map, List.forall₂_map_right_iff,
            List.forall₂_same]
          intro field hfield
          exact ⟨FieldPattern.ofField (first :: rest) field, List.mem_map_of_mem hfield,
            localName (first :: rest) field, FieldPattern.binds_ofField _ (hfields field hfield),
            .of_localFor _ (hfields field hfield)⟩
  | newtype =>
      cases fields with
      | nil => exact .nil
      | cons first rest =>
          rw [Event.expressions, Event.boundFields, List.map_map, List.forall₂_map_right_iff,
            List.forall₂_same]
          exact fun field hfield => ⟨_, rfl, .of_isWritable (hfields field hfield)⟩
  | tuple =>
      obtain rfl : fields = [] := hsuits.tuple rfl
      exact .nil

/-- The arm of an event with different fields that can be written is hygienic. -/
theorem hygienicArm_patternArm (hsuits : event.Suits) (hdistinct : event.fields.Nodup)
    (hfields : ∀ field ∈ event.fields, IsWritable field) (groupPath runtime : String) :
    event.HygienicArm (groupPath ++ "::" ++ writtenName event.name.simple) runtime
      (.ofEvent event) (event.patternArm groupPath runtime) where
  text := event.pattern_eq_text_ofEvent hsuits groupPath
  named := fun parts => named_ofEvent hfields
  locals := by
    rcases bindsAll_ofEvent hfields with hbinds | hbinds | hbinds
    · exact ⟨_, hbinds, List.nodup_nil, List.forall_mem_nil _⟩
    · exact ⟨_, hbinds, List.nodup_singleton _, by decide⟩
    · -- renaming keeps the locals of different fields apart
      refine ⟨_, hbinds, hdistinct.map_on fun field h other ho => inj_on_localName h ho, ?_⟩
      intro word hword
      obtain ⟨field, -, rfl⟩ := List.mem_map.1 hword
      have hreserved := localName_notMem_reserved event.fields field
      exact ⟨fun heq => hreserved (heq ▸ by decide), fun heq => hreserved (heq ▸ by decide)⟩
  reads := ⟨event.expressions, event.body_patternArm groupPath runtime,
    forall₂_reads hsuits hfields⟩

/-- Under a hygienic arm no field is blank. -/
theorem Event.HygienicArm.blank_notMem {path runtime : String} {pattern : ArmPattern} {arm : Arm}
    (h : event.HygienicArm path runtime pattern arm) : "_" ∉ event.fields := by
  obtain ⟨values, -, hreads⟩ := h.reads
  have hnamed := hreads.imp fun _ _ hone => And.intro (ArmPattern.Reads.ne_blank hone) hone
  exact fun hblank => ((List.forall₂_and_left _ _).1 hnamed).1 "_" hblank rfl

end

/-! ## Arms of groups -/

/-- The artifact of a group of a parsed project has an arm for each event, in order, and the arm of
every event with different fields is hygienic exactly if no field is blank. An event whose form binds
no fields has none. The search for a free local ends, whatever the fields are. -/
theorem hygienic_arms_of_group {project : Project} {group : EventGroup} (hparsed : project.IsParsed)
    (hgroup : group ∈ project.groups) (runtime : String) :
    (∃ arms : List Arm,
      (group.artifact runtime).contents = render (group.linesWithArms (runtimeText runtime) arms) ∧
        List.Forall₂
          (fun event arm => event.fields.Nodup →
            ((∃ pattern : ArmPattern,
              event.HygienicArm (writtenPath group.name ++ "::" ++ writtenName event.name.simple)
                (runtimeText runtime) pattern arm) ↔ "_" ∉ event.fields))
          group.registry.events arms) ∧
    (∀ event ∈ group.registry.events,
      event.form = .unit ∨ event.form = .tuple → event.fields = []) ∧
    ∀ fields : List String, ∀ field ∈ reservedLocals,
      SearchEnds fields (field ++ "_") (localFor fields field) := by
  refine ⟨⟨_, congrArg render (group.lines_eq_linesWithArms _), ?_⟩, ?_, ?_⟩
  · rw [List.forall₂_map_right_iff, List.forall₂_same]
    intro event hevent hdistinct
    refine ⟨fun ⟨_, harm⟩ => harm.blank_notMem, fun hblank => ?_⟩
    -- what has been read from a source can be written again, unless it is blank
    have hfields : ∀ field ∈ event.fields, IsWritable field := by
      intro field hfield
      refine (hparsed.isWritable_of_mem_fields hgroup hevent field hfield).resolve_left ?_
      exact fun heq => hblank (heq ▸ hfield)
    exact ⟨_, hygienicArm_patternArm (suits_of_mem_events hgroup hevent) hdistinct hfields _ _⟩
  · rintro event hevent (hunit | htuple)
    · exact (suits_of_mem_events hgroup hevent).unit hunit
    · exact (suits_of_mem_events hgroup hevent).tuple htuple
  · intro fields field hfield
    exact searchEnds_localFor fields hfield

/-- A file tree with a marked enum, two of whose fields have reserved names. One of these becomes the
name of a third field when an underscore is added, and a fourth is a keyword. -/
def shadowingFiles : FileTree :=
  ((FileTree.workspace "work").makeDirectory "src").put ["work", "src", "lib.rs"] (.file (.text
    "#[auto_analytics_event]
    enum Screen \x7b Opened \x7b name: u8, name_: u8, payload: u8, r#type: u8 \x7d \x7d"))

/-- The arm of that enum binds the four fields to different locals. -/
theorem hygienic_arms_of_shadowing :
    ∃ group ∈ (loadProject shadowingFiles "src").project.groups, ∃ event ∈ group.registry.events,
      event.fields = ["name", "name_", "payload", "type"] ∧
        event.fields.map (localFor event.fields) = ["name__", "name_", "payload_", "r#type"] ∧
        ∃ (pattern : ArmPattern) (arm : Arm),
          event.HygienicArm (writtenPath group.name ++ "::" ++ writtenName event.name.simple)
            "::auto_analytics" pattern arm := by
  obtain ⟨group, hgroup, event, hevent, hevents, hfields, hlocals⟩ :
      ∃ group ∈ (loadProject shadowingFiles "src").project.groups,
        ∃ event ∈ group.registry.events, group.registry.events = [event] ∧
          event.fields = ["name", "name_", "payload", "type"] ∧
          event.fields.map (localFor event.fields) =
            ["name__", "name_", "payload_", "r#type"] := by
    decide +kernel
  obtain ⟨⟨arms, -, harms⟩, -, -⟩ :=
    hygienic_arms_of_group (isParsed_loadProject shadowingFiles "src") hgroup defaultRuntime
  rw [hevents] at harms
  obtain ⟨arm, _, harm, -, -⟩ := List.forall₂_cons_left_iff.1 harms
  obtain ⟨pattern, hpattern⟩ := (harm (hfields ▸ by decide)).2 (hfields ▸ by decide)
  exact ⟨group, hgroup, event, hevent, hfields, hlocals, pattern, arm, hpattern⟩

/-- A file tree with a marked enum that has a blank field. -/
def blankStepFiles : FileTree :=
  ((FileTree.workspace "work").makeDirectory "src").put ["work", "src", "lib.rs"] (.file (.text
    "#[auto_analytics_event]\nenum Step \x7b Skipped \x7b at: u32, _: u32 \x7d \x7d\n"))

/-- The fields of that enum are different. Its arm is written with a text for the blank one, but is
not hygienic under any pattern, nor is any other arm. -/
theorem unhygienic_arm_of_blankStepFiles :
    ∃ group ∈ (loadProject blankStepFiles "src").project.groups,
      ∃ event ∈ group.registry.events, event.fields.Nodup ∧
        event.pattern (writtenPath group.name) = "crate::Step::Skipped \x7b at, r#_ \x7d" ∧
        event.expressions = ["at", "r#_"] ∧
        ∀ (path runtime : String) (pattern : ArmPattern) (arm : Arm),
          ¬ event.HygienicArm path runtime pattern arm := by
  obtain ⟨group, hgroup, event, hevent, hdistinct, hpattern, hvalues, hblank⟩ :
      ∃ group ∈ (loadProject blankStepFiles "src").project.groups,
        ∃ event ∈ group.registry.events, event.fields.Nodup ∧
          event.pattern (writtenPath group.name) = "crate::Step::Skipped \x7b at, r#_ \x7d" ∧
          event.expressions = ["at", "r#_"] ∧ "_" ∈ event.fields := by
    decide +kernel
  exact ⟨group, hgroup, event, hevent, hdistinct, hpattern, hvalues,
    fun path runtime pattern arm harm => harm.blank_notMem hblank⟩

end EventTracking
