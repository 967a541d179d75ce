import EventTracking.Proofs.Discovery
import EventTracking.Proofs.DistinctKeys

/-!
# Events of any declaration

Discovery works on any declaration, not only on those that describe an enum: members may share
names, belong to several types, and have any number of constructors. Each member goes one of three
ways. It qualifies and is registered, in place of an earlier member of its name; or it belongs to
the declaration and is excluded, with a note; or it does not even belong, which leaves a note alone.

Main statements: which members make events (`isSome_event?_iff`), what is noted of the others
(`forall₂_notes`), what stands in the registry (`forall₂_events_registry`), and all of that together
(`discovery_of_declaration`).
-/

namespace EventTracking

namespace Declaration

variable {declaration : Declaration}

/-! ## Qualifying members -/

/-- The members that make events: it is known what they hold, they belong to the declaration
directly and they have a constructor. -/
structure Qualifies (declaration : Declaration) (member : Member) : Prop where
  /-- It is known what the member holds. -/
  known : member.isKnown = true
  /-- The declaration is one of the member's direct supertypes. -/
  direct : declaration.name ∈ member.supertypes
  /-- The member has a constructor. -/
  constructor : member.constructors ≠ []

instance (declaration : Declaration) (member : Member) :
    Decidable (declaration.Qualifies member) :=
  decidable_of_iff
    (member.isKnown = true ∧ declaration.name ∈ member.supertypes ∧ member.constructors ≠ [])
    ⟨fun h => ⟨h.1, h.2.1, h.2.2⟩, fun h => ⟨h.known, h.direct, h.constructor⟩⟩

/-- The members of a declaration that make events, in order. -/
def qualifying (declaration : Declaration) : List Member :=
  declaration.members.filter fun member => declaration.Qualifies member

/-- A member makes an event exactly if it qualifies. -/
theorem isSome_event?_iff {member : Member} :
    (declaration.event? member).isSome = true ↔ declaration.Qualifies member := by
  constructor
  · intro h
    unfold event? event at h
    split at h
    · rename_i hknown
      split at h
      · rename_i hdirect
        split at h
        · cases h
        · rename_i hconstructors
          refine ⟨hknown, isDirect_iff.1 hdirect, ?_⟩
          rw [hconstructors]
          exact List.cons_ne_nil _ _
      · cases h
    · cases h
  · intro h
    obtain ⟨fields, rest, hconstructors⟩ := List.exists_cons_of_ne_nil h.constructor
    rw [event?_of_isDirect (isDirect_iff.2 h.direct), if_pos h.known, hconstructors]
    rfl

/-- An event has the form and the first constructor of the member that makes it. -/
theorem eq_of_event? {member : Member} {event : Event}
    (h : declaration.event? member = some event) :
    event.name = member.name ∧ event.form = member.form ∧
      member.constructors.head? = some event.fields := by
  have hqualifies : declaration.Qualifies member := by
    rw [← isSome_event?_iff, h]
    rfl
  rw [event?_of_isDirect (isDirect_iff.2 hqualifies.direct), if_pos hqualifies.known] at h
  obtain ⟨fields, hfields, rfl⟩ := Option.map_eq_some_iff.1 h
  exact ⟨rfl, rfl, hfields⟩

/-- The events of some members are those of the qualifying ones, one for each and in order. -/
theorem forall₂_event? (declaration : Declaration) (members : List Member) :
    List.Forall₂ (fun member event => declaration.event? member = some event)
      (members.filter fun member => declaration.Qualifies member)
      (members.filterMap declaration.event?) := by
  induction members with
  | nil => exact .nil
  | cons member rest ih =>
      rw [List.filterMap_cons]
      cases hevent : declaration.event? member with
      | none =>
          have hother : ¬ declaration.Qualifies member := by
            rw [← isSome_event?_iff, hevent]
            exact Bool.false_ne_true
          rw [List.filter_cons_of_neg (by simpa using hother)]
          exact ih
      | some event =>
          have hqualifies : declaration.Qualifies member := by
            rw [← isSome_event?_iff, hevent]
            rfl
          rw [List.filter_cons_of_pos (by simpa using hqualifies)]
          exact .cons hevent ih

/-! ## Registered events -/

/-- What is registered under a name: the form and the first constructor of the last qualifying
member of that name. -/
def RegistersAs (declaration : Declaration) (name : QualifiedName) (event : Event) : Prop :=
  event.name = name ∧ ∃ member : Member,
    (declaration.qualifying.filter fun other => other.name = name).getLast? = some member ∧
      event.form = member.form ∧ member.constructors.head? = some event.fields

/-- The events have the names of the qualifying members. -/
theorem map_name_filterMap_event? (declaration : Declaration) :
    (declaration.members.filterMap declaration.event?).map Event.name =
      declaration.qualifying.map Member.name := by
  symm
  rw [← List.forall₂_eq_eq_eq, List.forall₂_map_left_iff, List.forall₂_map_right_iff]
  refine (declaration.forall₂_event? declaration.members).imp ?_
  intro member event hevent
  exact (eq_of_event? hevent).1.symm

/-- The last items of two lists that correspond item by item correspond too. -/
theorem exists_getLast?_of_forall₂ {α β : Type} {corresponds : α → β → Prop} {items : List α}
    {others : List β} (h : List.Forall₂ corresponds items others) {other : β}
    (hlast : others.getLast? = some other) :
    ∃ item, items.getLast? = some item ∧ corresponds item other := by
  induction h with
  | nil => cases hlast
  | cons hfirst hrest ih =>
      cases hrest with
      | nil =>
          obtain rfl := Option.some.inj hlast
          exact ⟨_, rfl, hfirst⟩
      | cons _ _ =>
          rw [List.getLast?_cons_cons] at hlast ⊢
          exact ih hlast

/-- The last event of some name is made by the last qualifying member of that name. -/
theorem exists_getLast?_qualifying {name : QualifiedName} {event : Event}
    (h : ((declaration.members.filterMap declaration.event?).filter fun other =>
      other.name = name).getLast? = some event) :
    ∃ member, (declaration.qualifying.filter fun other => other.name = name).getLast? =
      some member ∧ declaration.event? member = some event := by
  have hpairs : List.Forall₂ (fun member event => declaration.event? member = some event)
      (declaration.qualifying.filter fun other => other.name = name)
      ((declaration.members.filterMap declaration.event?).filter fun other =>
        other.name = name) := by
    refine List.rel_filter ?_ (declaration.forall₂_event? declaration.members)
    intro member made hmade
    dsimp only
    rw [(eq_of_event? hmade).1]
  exact exists_getLast?_of_forall₂ hpairs h

/-- The registry has the names of the qualifying members in the order in which they come first, and
under each name what the last one of them makes. -/
theorem forall₂_events_registry (declaration : Declaration) :
    List.Forall₂ declaration.RegistersAs (declaration.qualifying.map Member.name).eraseDups
      declaration.registry.events := by
  have hevents : declaration.registry.events =
      Ordered.putAll Event.name [] (declaration.members.filterMap declaration.event?) := by
    rw [registry, Registry.events_ofList]
  rw [← map_name_filterMap_event?, ← Ordered.map_putAll_nil, ← hevents,
    List.forall₂_map_left_iff, List.forall₂_same]
  intro event hevent
  rw [hevents] at hevent
  obtain ⟨member, hlast, hmade⟩ :=
    exists_getLast?_qualifying (Ordered.getLast?_of_mem_putAll hevent)
  obtain ⟨-, hform, hfields⟩ := eq_of_event? hmade
  exact ⟨rfl, member, hlast, hform, hfields⟩

/-- A declaration has events exactly if one of its members qualifies. -/
theorem isEmpty_registry_eq_false_iff :
    declaration.registry.isEmpty = false ↔
      ∃ member ∈ declaration.members, declaration.Qualifies member := by
  rw [Registry.isEmpty, List.isEmpty_eq_false_iff_exists_mem]
  constructor
  · rintro ⟨event, hevent⟩
    obtain ⟨member, hmember, hmade⟩ := List.mem_filterMap.1 (Registry.mem_of_mem_ofList hevent)
    refine ⟨member, hmember, ?_⟩
    rw [← isSome_event?_iff, hmade]
    rfl
  · rintro ⟨member, hmember, hqualifies⟩
    obtain ⟨event, hmade⟩ := Option.isSome_iff_exists.1 (isSome_event?_iff.2 hqualifies)
    have hname : event.name ∈ declaration.registry.events.map Event.name := by
      rw [registry, Registry.events_ofList, Ordered.mem_map_putAll]
      exact .inr (List.mem_map_of_mem (List.mem_filterMap.2 ⟨member, hmember, hmade⟩))
    obtain ⟨registered, hregistered, -⟩ := List.mem_map.1 hname
    exact ⟨registered, hregistered⟩

/-! ## Notes -/

/-- The note that a member is left out for a reason. -/
def leftOut (declaration : Declaration) (member : Member) (step : Step) (reason : String) :
    Diagnostic :=
  declaration.diagnostic .note step
    ("`" ++ member.name.display ++ "` " ++ reason ++ ", skipping")

/-- What is noted of a member that makes no event: the first of the three things that it lacks. -/
inductive NotedAs (declaration : Declaration) (member : Member) : Diagnostic → Prop where
  /-- It is not known what the member holds. -/
  | unknown (h : member.isKnown = false) :
      NotedAs declaration member
        (declaration.leftOut member .validMember "has no structural metadata")
  /-- The member does not belong to the declaration directly. -/
  | indirect (hknown : member.isKnown = true) (h : declaration.name ∉ member.supertypes) :
      NotedAs declaration member
        (declaration.leftOut member .validMember
          ("does not extend `" ++ declaration.name.display ++ "`"))
  /-- The member has no constructor. -/
  | noConstructor (hknown : member.isKnown = true) (hdirect : declaration.name ∈ member.supertypes)
      (h : member.constructors = []) :
      NotedAs declaration member
        (declaration.leftOut member .declaredEvents "has no named constructor")

/-- A member that makes no event is noted as such. -/
theorem exists_notedAs {member : Member} (h : ¬ declaration.Qualifies member) :
    ∃ note, declaration.note? member = some note ∧ declaration.NotedAs member note := by
  rw [note?, event]
  by_cases hknown : member.isKnown = true
  · rw [if_pos hknown]
    by_cases hdirect : declaration.name ∈ member.supertypes
    · rw [if_pos (isDirect_iff.2 hdirect)]
      cases hconstructors : member.constructors with
      | nil => exact ⟨_, rfl, .noConstructor hknown hdirect hconstructors⟩
      | cons fields rest =>
          -- a member that lacks none of the three qualifies
          refine absurd ⟨hknown, hdirect, ?_⟩ h
          rw [hconstructors]
          exact List.cons_ne_nil fields rest
    · rw [if_neg (mt isDirect_iff.1 hdirect)]
      exact ⟨_, rfl, .indirect hknown hdirect⟩
  · rw [if_neg hknown]
    exact ⟨_, rfl, .unknown (Bool.eq_false_iff.2 hknown)⟩

/-- There is one note about each member that does not qualify, in order. -/
theorem forall₂_notes (declaration : Declaration) :
    List.Forall₂ declaration.NotedAs
      (declaration.members.filter fun member => ¬ declaration.Qualifies member)
      declaration.notes := by
  rw [notes]
  induction declaration.members with
  | nil => exact .nil
  | cons member rest ih =>
      rw [List.filterMap_cons]
      by_cases hqualifies : declaration.Qualifies member
      · have hnote : declaration.note? member = none := by
          rw [← Option.not_isSome_iff_eq_none, isSome_note?_iff, ← Option.not_isSome_iff_eq_none,
            isSome_event?_iff, not_not]
          exact hqualifies
        rw [List.filter_cons_of_neg (by simpa using hqualifies), hnote]
        exact ih
      · obtain ⟨note, hnote, hnoted⟩ := exists_notedAs hqualifies
        rw [List.filter_cons_of_pos (by simpa using hqualifies), hnote]
        exact .cons hnoted ih

/-- If a declaration has no events, there is a note about each of its members. -/
theorem forall₂_notes_of_isEmpty (declaration : Declaration)
    (h : declaration.registry.isEmpty = true) :
    List.Forall₂ declaration.NotedAs declaration.members declaration.notes := by
  have hall : (declaration.members.filter fun member => ¬ declaration.Qualifies member) =
      declaration.members := by
    rw [List.filter_eq_self]
    intro member hmember
    rw [decide_eq_true_iff]
    intro hqualifies
    rw [isEmpty_registry_eq_false_iff.2 ⟨member, hmember, hqualifies⟩] at h
    cases h
  have hnotes := declaration.forall₂_notes
  rw [hall] at hnotes
  exact hnotes

/-! ## Discovery -/

/-- The declarations that may make groups: closed types without parameters other than lifetimes. -/
def IsEligible (declaration : Declaration) : Prop :=
  (∃ item, declaration.kind = .closed item) ∧ declaration.isGeneric = false

/-- The members that a group leaves out are direct and do not qualify. -/
theorem excluded_group (declaration : Declaration) :
    declaration.group.excluded =
      (declaration.members.filter fun member =>
        declaration.name ∈ member.supertypes ∧ ¬ declaration.Qualifies member).map Member.name := by
  rw [group]
  dsimp only
  congr 1
  apply List.filter_congr
  intro member _
  rw [excludes, Bool.eq_iff_iff, Bool.and_eq_true, isDirect_iff, decide_eq_true_iff,
    ← isSome_event?_iff, Option.not_isSome_iff_eq_none, Option.isNone_iff_eq_none]

/-- Discovery makes a group of a declaration exactly if it is a closed type without parameters
other than lifetimes and one of its members qualifies. The registry has the names of the qualifying
members, each once and in the order in which they come first, with the form and the first
constructor of the last qualifying member of that name. The excluded members are the direct ones
that do not qualify. There is one note about each member that does not qualify, in order, and
nothing else. A declaration that is skipped has one warning, which comes last; before it there is
one note about each member if the declaration is eligible, and nothing if it is not. -/
theorem discovery_of_declaration (declaration : Declaration) :
    ((∃ group, declaration.toGroup = .ok group) ↔
      declaration.IsEligible ∧ ∃ member ∈ declaration.members, declaration.Qualifies member) ∧
    (∀ group, declaration.toGroup = .ok group →
      List.Forall₂ declaration.RegistersAs (declaration.qualifying.map Member.name).eraseDups
        group.registry.events ∧
      group.excluded = (declaration.members.filter fun member =>
        declaration.name ∈ member.supertypes ∧ ¬ declaration.Qualifies member).map Member.name ∧
      List.Forall₂ declaration.NotedAs
        (declaration.members.filter fun member => ¬ declaration.Qualifies member)
        declaration.findings) ∧
    (∀ skip, declaration.toGroup = .error skip →
      ∃ notes warning, declaration.findings = notes ++ [warning] ∧
        warning.severity = .warning ∧ (∀ note ∈ notes, note.severity = .note) ∧
        (¬ declaration.IsEligible → notes = []) ∧
        (declaration.IsEligible → List.Forall₂ declaration.NotedAs declaration.members notes)) := by
  refine ⟨?_, ?_, ?_⟩
  · simp only [toGroup_eq_ok_iff, ineligible?_eq_none_iff, isEmpty_registry_eq_false_iff]
    constructor
    · rintro ⟨group, heligible, hqualifies, -⟩
      exact ⟨heligible, hqualifies⟩
    · rintro ⟨heligible, hqualifies⟩
      exact ⟨declaration.group, heligible, hqualifies, rfl⟩
  · intro group hgroup
    rw [findings_of_group hgroup]
    obtain ⟨-, -, rfl⟩ := toGroup_eq_ok_iff.1 hgroup
    exact ⟨declaration.forall₂_events_registry, declaration.excluded_group,
      declaration.forall₂_notes⟩
  · intro skip hskip
    rw [findings]
    cases hineligible : declaration.ineligible? with
    | some found =>
        have hnot : ¬ declaration.IsEligible := by
          intro heligible
          rw [ineligible?_eq_none_iff.2 heligible] at hineligible
          cases hineligible
        refine ⟨[], declaration.skipWarning found, rfl, severity_skipWarning _ _, ?_, ?_, ?_⟩
        · intro note hnote
          cases hnote
        · intro _
          rfl
        · intro heligible
          exact absurd heligible hnot
    | none =>
        have heligible : declaration.IsEligible := ineligible?_eq_none_iff.1 hineligible
        -- a skipped declaration that is eligible has no events, so no member qualifies
        have hempty : declaration.registry.isEmpty = true := by
          rw [toGroup_of_eligible hineligible] at hskip
          split at hskip
          · assumption
          · cases hskip
        rw [if_pos hempty]
        refine ⟨declaration.notes, _, rfl, severity_skipWarning _ _, ?_, ?_, ?_⟩
        · intro note hnote
          obtain ⟨member, -, hmember⟩ := List.mem_filterMap.1 hnote
          exact severity_of_note? hmember
        · intro hnot
          exact absurd heligible hnot
        · intro _
          exact declaration.forall₂_notes_of_isEmpty hempty

/-- A declaration with two members of one name, one that belongs to another type and one without a
constructor. -/
def renewing : Declaration where
  name := ⟨["Signal"]⟩
  kind := .closed "enum"
  lifetimes := 0
  isGeneric := false
  members :=
    [⟨⟨["Signal", "Up"]⟩, true, .unit, [⟨["Signal"]⟩], [[]]⟩,
     ⟨⟨["Signal", "Down"]⟩, true, .unit, [⟨["Signal"]⟩], [[]]⟩,
     ⟨⟨["Noise"]⟩, true, .unit, [⟨["Sound"]⟩], [[]]⟩,
     ⟨⟨["Signal", "Lost"]⟩, true, .tuple, [⟨["Sound"]⟩, ⟨["Signal"]⟩], []⟩,
     ⟨⟨["Signal", "Up"]⟩, true, .braced, [⟨["Signal"]⟩], [["strength"], []]⟩]
  location := ⟨"src/signal.rs", 4⟩

example :
    renewing.registry.events =
        [⟨⟨["Signal", "Up"]⟩, .braced, ["strength"]⟩, ⟨⟨["Signal", "Down"]⟩, .unit, []⟩] ∧
      renewing.group.excluded = [⟨["Signal", "Lost"]⟩] ∧ renewing.findings.length = 2 := by
  decide

end Declaration

end EventTracking
