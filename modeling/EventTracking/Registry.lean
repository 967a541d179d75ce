import EventTracking.Declaration
import EventTracking.Ordered

/-!
# Registries of events

A registry holds the events of a group, each under its qualified name, in the order in which the
names were registered first. A repeated name replaces the earlier event in place.

Main statements: an event that has been registered is found (`get_insert_self`), the others are
found as before (`get_insert_of_ne`), and the names stay in order (`names_insert`).
-/

namespace EventTracking

/-- An event of a group: a variant whose fields are known by name. -/
structure Event where
  /-- The qualified name. -/
  name : QualifiedName
  /-- How the variant is written. -/
  form : VariantForm
  /-- The names of its fields, in order. -/
  fields : List String
deriving DecidableEq, Repr

/-- The events of a group. -/
structure Registry where
  /-- The events, in the order of their registration. -/
  events : List Event
deriving DecidableEq, Repr, Inhabited

namespace Registry

/-- The registry without events. -/
def empty : Registry := ⟨[]⟩

/-- The registry with one more event, or with an event replaced by one of the same name. -/
def insert (registry : Registry) (event : Event) : Registry :=
  ⟨Ordered.put Event.name event registry.events⟩

/-- The registry of these events, registered one after the other. -/
def ofList (events : List Event) : Registry := events.foldl insert empty

/-- The event of that name. -/
def get? (registry : Registry) (name : QualifiedName) : Option Event :=
  Ordered.find? Event.name name registry.events

/-- The names of a registered event's fields. -/
def fields? (registry : Registry) (name : QualifiedName) : Option (List String) :=
  (registry.get? name).map Event.fields

/-- The names of the events, in order. -/
def names (registry : Registry) : List QualifiedName := registry.events.map Event.name

/-- The number of events. -/
def size (registry : Registry) : Nat := registry.events.length

/-- Whether no event is registered. -/
def isEmpty (registry : Registry) : Bool := registry.events.isEmpty

/-- An event that has been registered is found. -/
theorem get_insert_self (registry : Registry) (event : Event) :
    (registry.insert event).get? event.name = some event :=
  Ordered.find_put_self _ _ _

/-- Registering an event leaves those of other names alone. -/
theorem get_insert_of_ne {registry : Registry} {event : Event} {name : QualifiedName}
    (h : event.name ≠ name) : (registry.insert event).get? name = registry.get? name :=
  Ordered.find_put_of_ne h _

/-- The names stay in order; a new one comes last. -/
theorem names_insert (registry : Registry) (event : Event) :
    (registry.insert event).names =
      if event.name ∈ registry.names then registry.names
      else registry.names ++ [event.name] :=
  Ordered.map_put _ _ _

end Registry

end EventTracking
