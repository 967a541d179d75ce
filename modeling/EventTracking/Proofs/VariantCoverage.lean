import EventTracking.Proofs.Discovery
import EventTracking.Proofs.DistinctKeys

/-!
# Variants and their arms

Every variant of a marked enum is accounted for: it makes an event, or it is excluded. The artifact
has one arm for each event, in the order of the variants.

Main statements: the artifact of a group has an arm for each event and no other arm
(`lines_eq_linesWithArms`), and the events of a group are those of its registered variants
(`forall₂_registered_events`, `events_registry`).
-/

namespace EventTracking

open Code Text Line

/-! ## Arms -/

/-- An arm of a match: its pattern and the lines between its braces. -/
structure Arm where
  /-- The pattern. -/
  pattern : String
  /-- The lines. -/
  body : List Line

/-- An arm as code. -/
def Arm.lines (arm : Arm) : List Line := block (arm.pattern ++ " =>") arm.body

/-- The lines of an artifact whose match on the event has these arms and no others. -/
def EventGroup.linesWithArms (group : EventGroup) (runtime : String) (arms : List Arm) :
    List Line :=
  group.commentLines ++ outermost "" :: group.signatureLines runtime ++
    outermost "\x7b" ::
      nested (outermost "let name: &'static str;" ::
        outermost ("let payload: " ++ runtime ++ "::Payload;") ::
        block "match event" (arms.flatMap Arm.lines) ++
        [outermost "tracker.track(name, payload);"]) ++
    [outermost "\x7d"]

/-- The arm of an event, with its pattern apart. -/
def Event.patternArm (groupPath runtime : String) (event : Event) : Arm where
  pattern := event.pattern groupPath
  body := outermost ("name = " ++ quote event.eventName ++ ";") :: event.payloadLines runtime

/-- The match of an artifact has an arm for each event, in order. -/
theorem EventGroup.lines_eq_linesWithArms (group : EventGroup) (runtime : String) :
    group.lines runtime = group.linesWithArms runtime
      (group.registry.events.map (Event.patternArm (writtenPath group.name) runtime)) := by
  have harms : group.arms runtime = (group.registry.events.map
      (Event.patternArm (writtenPath group.name) runtime)).flatMap Arm.lines := by
    rw [arms, List.flatMap_map]
    rfl
  rw [lines, bodyLines, harms, linesWithArms]

/-! ## Registered and excluded variants -/

section

variable {declaration : Declaration} {scope : Scope} {place : QualifiedName}
  {variants : List Variant}

/-- Whether a variant of a declaration makes an event. -/
def registers (declaration : Declaration) (scope : Scope) (place : QualifiedName)
    (variant : Variant) : Bool :=
  (declaration.event? (variant.member scope place declaration.name)).isSome

/-- A variant is excluded exactly if it makes no event. -/
theorem excludes_member (declaration : Declaration) (scope : Scope) (place : QualifiedName)
    (variant : Variant) :
    declaration.excludes (variant.member scope place declaration.name) =
      !registers declaration scope place variant := by
  rw [Declaration.excludes, Variant.isDirect_member, Bool.true_and, registers]
  cases declaration.event? (variant.member scope place declaration.name) <;> rfl

/-- The events of a declaration are those of its registered variants, one for each and in order. -/
theorem forall₂_registered_events (declaration : Declaration) (scope : Scope)
    (place : QualifiedName) (variants : List Variant) :
    List.Forall₂
      (fun variant event =>
        declaration.event? (variant.member scope place declaration.name) = some event)
      (variants.filter (registers declaration scope place))
      ((variants.map (·.member scope place declaration.name)).filterMap declaration.event?) := by
  induction variants with
  | nil => exact .nil
  | cons variant rest ih =>
      rw [List.map_cons, List.filterMap_cons, List.filter_cons, registers]
      cases h : declaration.event? (variant.member scope place declaration.name) with
      | none => exact ih
      | some event => exact .cons h ih

/-- The events of a declaration have the names of its registered variants. -/
theorem map_name_events (declaration : Declaration) (scope : Scope) (place : QualifiedName)
    (variants : List Variant) :
    ((variants.map (·.member scope place declaration.name)).filterMap
        declaration.event?).map Event.name =
      (variants.filter (registers declaration scope place)).map fun variant =>
        declaration.name.child variant.name.text := by
  have hevents := forall₂_registered_events declaration scope place variants
  symm
  rw [← List.forall₂_eq_eq_eq, List.forall₂_map_left_iff, List.forall₂_map_right_iff]
  refine hevents.imp ?_
  intro variant event h
  rw [Declaration.name_of_event? h]
  rfl

/-- The excluded members of a declaration have the names of its other variants. -/
theorem map_name_excluded (declaration : Declaration) (scope : Scope) (place : QualifiedName)
    (variants : List Variant) :
    ((variants.map (·.member scope place declaration.name)).filter
        declaration.excludes).map Member.name =
      (variants.filter fun variant => !registers declaration scope place variant).map
        fun variant => declaration.name.child variant.name.text := by
  have hexcludes : declaration.excludes ∘ (·.member scope place declaration.name) =
      fun variant : Variant => !registers declaration scope place variant := by
    funext variant
    exact excludes_member declaration scope place variant
  rw [List.filter_map, hexcludes, List.map_map]
  rfl

/-- Variants with different names make members with different names. -/
theorem nodup_map_child (group : QualifiedName)
    (h : (variants.map fun variant => variant.name.text).Nodup) :
    (variants.map fun variant => group.child variant.name.text).Nodup := by
  have hchild : Function.Injective group.child := by
    intro segment other heq
    have hsimple := congrArg QualifiedName.simple heq
    rwa [QualifiedName.simple_child, QualifiedName.simple_child] at hsimple
  have hmap := h.map hchild
  rwa [List.map_map] at hmap

/-- The events of a described enum are registered under the names of its registered variants. -/
theorem events_registry (hmembers : declaration.members =
      variants.map (·.member scope place declaration.name))
    (hvariants : (variants.map fun variant => variant.name.text).Nodup) :
    declaration.registry.events =
      (variants.map (·.member scope place declaration.name)).filterMap declaration.event? := by
  rw [Declaration.registry, hmembers]
  apply Registry.events_ofList_of_nodup
  rw [map_name_events]
  exact (nodup_map_child declaration.name hvariants).sublist
    (List.filter_sublist.map fun variant : Variant => declaration.name.child variant.name.text)

end

end EventTracking
