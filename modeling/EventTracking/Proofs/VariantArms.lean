import EventTracking.Proofs.ArmPatterns

/-!
# Arms of variants

Each variant of a marked enum that makes an event has an arm of its own, whose pattern has the form
in which the variant is declared. The pattern is read here as the compiler would read it: its path
has to lead to the variant, and each field in braces has to name a declared field. That goes wrong in
two cases only. A module that is named after a file whose name is no word is on no path, and a field
that is called `_` has no name in a pattern.

Main statements: the pattern of an event matches its variant exactly if the variant has a path and no
blank field (`isMatchedBy_pattern_iff`), and so the arms of a marked enum are those of its registered
variants (`arms_of_marked_enum`).
-/

namespace EventTracking

open Code Text Line

/-! ## Patterns in the form of a variant -/

/-- The patterns for a variant with some fields, in the form in which the variant is declared. None of
them matches another variant. -/
inductive Code.Fields.HasPattern : Fields → ArmPattern → Prop where
  /-- The bare path of a variant without fields. -/
  | unit : HasPattern .none .bare
  /-- Braces that bind every field once. -/
  | braces {names : List Identifier} {parts : List FieldPattern} (nonempty : names ≠ [])
      (distinct : (names.map Identifier.text).Nodup)
      (bound : List.Forall₂ (fun name part => ∃ word, part.Binds name.text word) names parts) :
      HasPattern (.named names) (.braces parts)
  /-- Braces around no field at all. -/
  | emptyBraces : HasPattern (.named []) .emptyBraces
  /-- A single positional field whose own fields are read. -/
  | wrapped (type : WrittenType) : HasPattern (.positional [type]) .wrapped
  /-- A single positional field of which nothing is read. -/
  | ignored (type : WrittenType) : HasPattern (.positional [type]) .ignored
  /-- Parentheses around no field at all. -/
  | emptyParentheses : HasPattern (.positional []) .emptyParentheses

/-- Fields that are named in a pattern are not blank. -/
theorem Code.Fields.HasPattern.blank_notMem {fields : Fields} {pattern : ArmPattern}
    (h : fields.HasPattern pattern) : "_" ∉ fields.names.map Identifier.text := by
  cases h with
  | unit => exact List.not_mem_nil
  | @braces names parts _ _ bound =>
      have hnamed := bound.imp fun name part hone =>
        And.intro (hone.choose_spec.1.ne_blank : name.text ≠ "_") hone
      rw [List.mem_map]
      rintro ⟨name, hname, hblank⟩
      exact ((List.forall₂_and_left _ _).1 hnamed).1 name hname hblank
  | emptyBraces => exact List.not_mem_nil
  | wrapped => exact List.not_mem_nil
  | ignored => exact List.not_mem_nil
  | emptyParentheses => exact List.not_mem_nil

/-- A text is a pattern for a variant of the group of that name: a path that leads to the variant,
and behind it what is needed for the form in which the variant is declared. -/
def Code.Variant.IsMatchedBy (variant : Variant) (group : QualifiedName) (text : String) : Prop :=
  ∃ (path : String) (pattern : ArmPattern), text = pattern.text path ∧
    (group.child variant.name.text).IsWrittenAs path ∧ variant.fields.HasPattern pattern

section

variable {declaration : Declaration} {scope : Scope} {place : QualifiedName} {variant : Variant}
  {event : Event}

/-- The event of a variant that wraps a single type is of that form. -/
theorem form_of_event?_wrapped {type : WrittenType} (hfields : variant.fields = .positional [type])
    (h : declaration.event? (variant.member scope place declaration.name) = some event) :
    event.form = .newtype := by
  rw [Declaration.event?_of_isDirect (Variant.isDirect_member scope place variant)] at h
  split at h
  · obtain ⟨_, -, rfl⟩ := Option.map_eq_some_iff.1 h
    show (variant.fields.describe scope place).form = .newtype
    rw [hfields, Fields.describe]
    cases scope.resolve? place type <;> rfl
  · cases h

/-- The pattern of an event has the form in which its variant is declared, if the fields in braces
can be written. -/
theorem hasPattern_ofEvent
    (h : declaration.event? (variant.member scope place declaration.name) = some event)
    (hdistinct : (variant.fields.names.map Identifier.text).Nodup)
    (hwritable : ∀ name ∈ variant.fields.names, IsWritable name.text) :
    variant.fields.HasPattern (.ofEvent event) := by
  have hevent := h
  rw [Declaration.event?_of_isDirect (Variant.isDirect_member scope place variant)] at h
  obtain ⟨name, fields⟩ := variant
  -- only a variant that wraps a single type depends on what the scope knows
  cases fields with
  | none =>
      obtain rfl := Option.some.inj h
      exact .unit
  | named names =>
      obtain rfl := Option.some.inj h
      cases names with
      | nil => exact .emptyBraces
      | cons first rest =>
          have hbound : List.Forall₂
              (fun name part => ∃ word, FieldPattern.Binds part name.text word) (first :: rest)
              (((first :: rest).map Identifier.text).map
                (FieldPattern.ofField ((first :: rest).map Identifier.text))) := by
            rw [List.forall₂_map_right_iff, List.forall₂_map_right_iff, List.forall₂_same]
            exact fun name hname => ⟨_, FieldPattern.binds_ofField _ (hwritable name hname)⟩
          exact .braces (List.cons_ne_nil first rest) hdistinct hbound
  | positional types =>
      match types with
      | [] =>
          obtain rfl := Option.some.inj h
          exact .emptyParentheses
      | [type] =>
          rw [ArmPattern.ofEvent, form_of_event?_wrapped rfl hevent]
          cases event.fields with
          | nil => exact .ignored type
          | cons => exact .wrapped type
      | _ :: _ :: _ => cases h

/-- The fields of an event suit its form, as its variant has them. -/
theorem suits_of_event?
    (h : declaration.event? (variant.member scope place declaration.name) = some event) :
    event.Suits := by
  rw [Declaration.event?_of_isDirect (Variant.isDirect_member scope place variant)] at h
  split at h
  · obtain ⟨fields, hfields, rfl⟩ := Option.map_eq_some_iff.1 h
    exact suits_of_describe rfl (List.mem_of_mem_head? hfields)
  · cases h

/-- The pattern of an event matches its variant exactly if the variant has a path in code and no
field of it is blank. -/
theorem isMatchedBy_pattern_iff
    (h : declaration.event? (variant.member scope place declaration.name) = some event)
    (hdistinct : (variant.fields.names.map Identifier.text).Nodup)
    (hspelled : variant.fields.IsSpelled) (hgroup : declaration.name.segments ≠ []) :
    variant.IsMatchedBy declaration.name (event.pattern (writtenPath declaration.name)) ↔
      (declaration.name.child variant.name.text).CanBeWritten ∧
        "_" ∉ variant.fields.names.map Identifier.text := by
  constructor
  · rintro ⟨path, pattern, -, hpath, hpattern⟩
    exact ⟨QualifiedName.exists_isWrittenAs_iff.1 ⟨path, hpath⟩, hpattern.blank_notMem⟩
  · rintro ⟨hpath, hblank⟩
    have hwritable : ∀ name ∈ variant.fields.names, IsWritable name.text := by
      intro name hname
      refine (hspelled.isWritable name hname).resolve_left ?_
      exact fun heq => hblank (List.mem_map.2 ⟨name, hname, heq⟩)
    refine ⟨_, .ofEvent event, ?_, QualifiedName.isWrittenAs_writtenPath hpath,
      hasPattern_ofEvent h hdistinct hwritable⟩
    have hsimple : event.name.simple = variant.name.text := by
      rw [Declaration.name_of_event? h, Variant.member, QualifiedName.simple_child]
    rw [Event.pattern_eq_text_ofEvent (suits_of_event? h), hsimple,
      QualifiedName.writtenPath_child hgroup]

/-- The pattern of an event is no wildcard. -/
theorem pattern_ne_wildcard (hsuits : event.Suits) (groupPath : String) :
    event.pattern groupPath ≠ "_" := by
  obtain ⟨rest, hrest⟩ := ArmPattern.exists_text_eq_append
    (groupPath ++ "::" ++ writtenName event.name.simple) (.ofEvent event)
  rw [Event.pattern_eq_text_ofEvent hsuits, hrest]
  intro heq
  -- the path of a variant holds colons, the wildcard does not
  have hcolon : ':' ∈ (groupPath ++ "::" ++ writtenName event.name.simple ++ rest).toList := by
    simp only [String.toList_append, List.mem_append]
    exact .inl (.inl (.inr (by decide)))
  rw [heq] at hcolon
  revert hcolon
  decide

end

/-! ## Coverage -/

/-- The path of a variant of an enum in a parsed project can be written exactly if the module of the
file can be. -/
theorem canBeWritten_child_iff {file : File} {placed : PlacedItem} {attributes : List Attribute}
    {name : Identifier} {generics : Generics} {variants : List Variant}
    (hspelled : placed.IsSpelled file.place)
    (hitem : placed.item = .enum attributes name generics variants) {variant : Variant}
    (hvariant : variant ∈ variants) :
    ((placed.place.child name.text).child variant.name.text).CanBeWritten ↔
      file.place.CanBeWritten := by
  have hspells := hspelled.item
  rw [hitem] at hspells
  obtain ⟨names, hinside, hnames⟩ := hspelled.inside
  have hsegments : ((placed.place.child name.text).child variant.name.text).segments =
      file.place.segments ++ (names ++ [name.text, variant.name.text]) := by
    simp only [QualifiedName.segments_child, hinside, List.append_assoc, List.singleton_append]
  refine QualifiedName.canBeWritten_iff_of_append hsegments (List.forall_mem_append.2 ⟨hnames, ?_⟩)
  exact List.forall_mem_cons.2
    ⟨hspells.1, List.forall_mem_singleton.2 (hspells.2 variant hvariant).1⟩

/-- In a parsed project the pattern of an event matches the variant of an enum that makes the event
exactly if the module of the file can be written and no field of the variant is blank. -/
theorem isMatchedBy_pattern_iff_of_mem {project : Project} {file : File} {placed : PlacedItem}
    {attributes : List Attribute} {name : Identifier} {generics : Generics}
    {variants : List Variant} {declaration : Declaration} (hparsed : project.IsParsed)
    (hfile : file ∈ project.files) (hplaced : placed ∈ file.placed)
    (hitem : placed.item = .enum attributes name generics variants)
    (hname : declaration.name = placed.place.child name.text) {variant : Variant} {event : Event}
    (hvariant : variant ∈ variants)
    (hdistinct : (variant.fields.names.map Identifier.text).Nodup)
    (hevent : declaration.event? (variant.member project.scope placed.place declaration.name) =
      some event) :
    variant.IsMatchedBy declaration.name (event.pattern (writtenPath declaration.name)) ↔
      file.place.CanBeWritten ∧ "_" ∉ variant.fields.names.map Identifier.text := by
  -- the variant stands in the enum, where it is spelled
  have hspelled := hparsed.isSpelled_of_mem_placed hfile hplaced
  have hspells := hspelled.item
  rw [hitem] at hspells
  have hsegments : declaration.name.segments ≠ [] := by
    rw [hname, QualifiedName.segments_child]
    exact List.append_ne_nil_of_right_ne_nil _ (List.cons_ne_nil _ _)
  rw [isMatchedBy_pattern_iff hevent hdistinct (hspells.2 variant hvariant).2 hsegments, hname,
    canBeWritten_child_iff hspelled hitem hvariant]

/-- A marked enum of a parsed project, without parameters other than lifetimes, is a declaration of
the project, which is skipped only for want of events. Otherwise it makes a group in which every
variant is either registered or excluded, each kind in the order of declaration. The artifact of the
group holds a match with one arm for each registered variant, in order, that sets the name and the
payload of its event; no arm has a wildcard. The pattern of an arm matches the variant, in the form
in which the variant is declared, exactly if the module of the file can be written and no field of
the variant is blank. If no variant is excluded, the arms cover all variants. -/
theorem arms_of_marked_enum {project : Project} {file : File} {placed : PlacedItem}
    {attributes : List Attribute} {name : Identifier} {generics : Generics}
    {variants : List Variant} {declaration : Declaration} (hparsed : project.IsParsed)
    (hfile : file ∈ project.files) (hplaced : placed ∈ file.placed)
    (hitem : placed.item = .enum attributes name generics variants)
    (hmarked : placed.declaration? project.scope file.path = some declaration)
    (hgenerics : generics.others = 0)
    (hvariants : (variants.map fun variant => variant.name.text).Nodup)
    (hfields : ∀ variant ∈ variants, (variant.fields.names.map Identifier.text).Nodup)
    (runtime : String) :
    declaration ∈ project.declarations ∧
      (declaration.toGroup = .error .noEvents ∨
        ∃ (group : EventGroup) (registered excluded : List Variant) (arms : List Arm),
          declaration.toGroup = .ok group ∧
          (registered ++ excluded).Perm variants ∧
          registered.Sublist variants ∧ excluded.Sublist variants ∧
          group.registry.names =
            registered.map (fun variant => group.name.child variant.name.text) ∧
          group.excluded = excluded.map (fun variant => group.name.child variant.name.text) ∧
          (group.registry.names ++ group.excluded).Nodup ∧
          (group.artifact runtime).contents =
            render (group.linesWithArms (runtimeText runtime) arms) ∧
          List.Forall₂
            (fun event arm =>
              arm.body = event.settingLines (runtimeText runtime) event.expressions ∧
                arm.pattern ≠ "_")
            group.registry.events arms ∧
          List.Forall₂
            (fun variant arm => variant.IsMatchedBy group.name arm.pattern ↔
              file.place.CanBeWritten ∧ "_" ∉ variant.fields.names.map Identifier.text)
            registered arms ∧
          (group.excluded = [] → registered = variants)) := by
  refine ⟨Project.mem_declarations_iff.2 ⟨file, hfile, placed, hplaced, hmarked⟩, ?_⟩
  obtain ⟨hname, hkind, hgeneric, hmembers⟩ :=
    PlacedItem.eq_of_declaration?_enum hitem hmarked
  have heligible : declaration.ineligible? = none := by
    rw [Declaration.ineligible?_eq_none_iff, hgeneric, hgenerics]
    exact ⟨⟨"enum", hkind⟩, rfl⟩
  rw [Declaration.toGroup_of_eligible heligible]
  split
  · exact .inl rfl
  · refine .inr ?_
    have hevents := events_registry hmembers hvariants
    have hregistered : declaration.group.registry.names =
        (variants.filter (registers declaration project.scope placed.place)).map
          fun variant => declaration.group.name.child variant.name.text := by
      rw [Declaration.group, Registry.names, hevents, map_name_events]
    have hexcluded : declaration.group.excluded =
        (variants.filter fun variant =>
          !registers declaration project.scope placed.place variant).map
          fun variant => declaration.group.name.child variant.name.text := by
      rw [Declaration.group, hmembers, map_name_excluded]
    have hperm : (variants.filter (registers declaration project.scope placed.place) ++
        variants.filter fun variant =>
          !registers declaration project.scope placed.place variant).Perm variants :=
      List.filter_append_perm _ variants
    have hmakes := forall₂_registered_events declaration project.scope placed.place variants
    rw [← hevents] at hmakes
    refine ⟨declaration.group, _, _, declaration.group.registry.events.map
        (Event.patternArm (writtenPath declaration.group.name) (runtimeText runtime)), rfl, hperm,
      List.filter_sublist, List.filter_sublist, hregistered, hexcluded, ?_, ?_, ?_, ?_, ?_⟩
    · rw [hregistered, hexcluded, ← List.map_append]
      exact (hperm.map _).nodup_iff.2 (nodup_map_child declaration.group.name hvariants)
    · rw [EventGroup.artifact, EventGroup.lines_eq_linesWithArms]
    · rw [List.forall₂_map_right_iff, List.forall₂_same]
      intro event hevent
      obtain ⟨variant, -, -, hform, hknown⟩ :=
        exists_variant_of_mem_registry hitem hmarked hevent
      exact ⟨event.body_patternArm _ _, pattern_ne_wildcard (suits_of_describe hform hknown) _⟩
    · have hstands : ∀ variant ∈ variants.filter
          (registers declaration project.scope placed.place), variant ∈ variants :=
        fun variant => List.mem_of_mem_filter
      rw [List.forall₂_map_right_iff]
      refine ((List.forall₂_and_left _ _).2 ⟨hstands, hmakes⟩).imp ?_
      rintro variant event ⟨hvariant, hevent⟩
      exact isMatchedBy_pattern_iff_of_mem hparsed hfile hplaced hitem hname hvariant
        (hfields variant hvariant) hevent
    · intro hnone
      rw [hexcluded, List.map_eq_nil_iff, List.filter_eq_nil_iff] at hnone
      rw [List.filter_eq_self]
      intro variant hmem
      simpa using hnone variant hmem

/-- The parameters and the variants of an enum. -/
def Code.Item.enum? : Item → Option (Generics × List Variant)
  | .enum _ _ generics variants => some (generics, variants)
  | _ => none

/-- An item with variants is an enum. -/
theorem Code.Item.exists_eq_enum {item : Item} {generics : Generics} {variants : List Variant}
    (h : item.enum? = some (generics, variants)) :
    ∃ attributes name, item = .enum attributes name generics variants := by
  cases item with
  | enum attributes name generics variants =>
      cases h
      exact ⟨attributes, name, rfl⟩
  | _ => cases h

/-- A file tree with an enum that has a variant of every form, and a struct that one of them wraps. -/
def everyFormFiles : FileTree :=
  ((FileTree.workspace "work").makeDirectory "src").put ["work", "src", "lib.rs"] (.file (.text
    "struct Inner \x7b offset: u32 \x7d
    #[auto_analytics_event]
    enum Forms \x7b
      Unit, Braced \x7b name: u8, r#in: u8 \x7d, NoFields \x7b \x7d, Wrapped(Inner),
      Unknown(Elsewhere), Empty(), Pair(u8, u8),
    \x7d"))

/-- Five of the seven variants of that enum have an arm, whose pattern matches them. -/
theorem arms_of_everyForm :
    ∃ declaration ∈ (loadProject everyFormFiles "src").project.declarations,
      ∃ (group : EventGroup) (registered : List Variant) (arms : List Arm),
        declaration.toGroup = .ok group ∧
        (group.artifact defaultRuntime).contents =
          render (group.linesWithArms (runtimeText defaultRuntime) arms) ∧
        registered.length + group.excluded.length = 7 ∧
        group.excluded.map QualifiedName.simple = ["Unknown", "Pair"] ∧
        List.Forall₂ (fun variant arm => variant.IsMatchedBy group.name arm.pattern)
          registered arms := by
  have hparsed := isParsed_loadProject everyFormFiles "src"
  -- what the theorem asks for is checked where the enum stands
  obtain ⟨file, hfile, placed, hplaced, hplace, hmakes, hchecked⟩ :
      ∃ file ∈ (loadProject everyFormFiles "src").project.files, ∃ placed ∈ file.placed,
        file.place = .root ∧
        ((placed.declaration? (loadProject everyFormFiles "src").project.scope file.path).any
          fun declaration => declaration.toGroup.isOk &&
            (declaration.group.excluded.map QualifiedName.simple == ["Unknown", "Pair"])) = true ∧
        (placed.item.enum?.any fun parts =>
          parts.1.others = 0 ∧ (parts.2.map fun variant => variant.name.text).Nodup ∧
            parts.2.length = 7 ∧
            ∀ variant ∈ parts.2, (variant.fields.names.map Identifier.text).Nodup ∧
              "_" ∉ variant.fields.names.map Identifier.text) = true := by decide +kernel
  obtain ⟨declaration, hmarked, hmade⟩ := (Option.any_eq_true _ _).1 hmakes
  obtain ⟨hok, hleft⟩ := (Bool.and_eq_true _ _).mp hmade
  obtain ⟨⟨generics, variants⟩, hparts, hall⟩ := (Option.any_eq_true _ _).1 hchecked
  obtain ⟨hgenerics, hvariants, hseven, hfields⟩ := of_decide_eq_true hall
  obtain ⟨attributes, name, hitem⟩ := Item.exists_eq_enum hparts
  obtain ⟨hlisted, hskipped | ⟨group, registered, excluded, arms, hgroup, hperm, hsublist, -, -,
      hexcluded, -, hcontents, -, harms, -⟩⟩ :=
    arms_of_marked_enum hparsed hfile hplaced hitem hmarked hgenerics hvariants
      (fun variant hvariant => (hfields variant hvariant).1) defaultRuntime
  · rw [hskipped] at hok
    cases hok
  · obtain ⟨-, -, rfl⟩ := Declaration.toGroup_eq_ok_iff.1 hgroup
    have hroot : file.place.CanBeWritten := by
      rw [hplace]
      exact ⟨fun segment hsegment => .inl (Option.some.inj hsegment).symm, List.forall_mem_nil _⟩
    refine ⟨declaration, hlisted, _, registered, arms, hgroup, hcontents, ?_, beq_iff_eq.1 hleft,
      ?_⟩
    · rw [hexcluded, List.length_map, ← List.length_append, hperm.length_eq, hseven]
    · refine ((List.forall₂_and_left _ _).2 ⟨fun variant => hsublist.mem, harms⟩).imp ?_
      rintro variant arm ⟨hvariant, hmatched⟩
      exact hmatched.2 ⟨hroot, (hfields variant hvariant).2⟩

/-- A file tree with an enum that has a blank field. -/
def blankFiles : FileTree :=
  ((FileTree.workspace "work").makeDirectory "src").put ["work", "src", "lib.rs"] (.file (.text
    "#[auto_analytics_event]\nenum Playback \x7b Paused \x7b _: u32 \x7d \x7d\n"))

/-- The group of that enum. -/
def blankGroup : EventGroup where
  name := ⟨["crate", "Playback"]⟩
  lifetimes := 0
  location := ⟨"src/lib.rs", 1⟩
  registry := ⟨[⟨⟨["crate", "Playback", "Paused"]⟩, .braced, ["_"]⟩]⟩
  excluded := []

/-- That group is discovered, without an excluded variant. No text is a pattern for the variant, the
artifact that is generated makes no sense. -/
theorem unmatched_arm_of_blankFiles :
    (loadProject blankFiles "src").project.groups = [blankGroup] ∧
      (blankGroup.registry.events.map fun event => event.pattern (writtenPath blankGroup.name)) =
        ["crate::Playback::Paused \x7b r#_ \x7d"] ∧
      (∀ variant : Variant, variant.fields.names.map Identifier.text = ["_"] → ∀ text,
        ¬ variant.IsMatchedBy blankGroup.name text) ∧
      (Outline.ofSource (blankGroup.artifact defaultRuntime).contents).isOk = false := by
  have hcontents : (blankGroup.artifact defaultRuntime).contents.toList =
      (blankGroup.lines (runtimeText defaultRuntime)).flatMap fun line => line.shown ++ ['\n'] :=
    Line.toList_render _
  refine ⟨by decide +kernel, by decide +kernel, ?_, ?_⟩
  · rintro variant hblank text ⟨path, pattern, -, -, hpattern⟩
    apply hpattern.blank_notMem
    rw [hblank]
    exact List.mem_singleton_self "_"
  · rw [Outline.ofSource, hcontents]
    decide +kernel

end EventTracking
