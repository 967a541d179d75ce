import EventTracking.Artifact
import EventTracking.Tracker

/-!
# Events of an application

The events of a small application and how they are tracked: under the name of the event, with a
payload that has the event's keys, each with the datum of its field.

Main statements: every event has as many data as fields (`length_data`).
-/

namespace EventTracking

open Payload (Datum)

/-- What kind of search was submitted. -/
inductive SearchKind where
  /-- A search by text. -/
  | text
  /-- A search by voice. -/
  | voice
deriving DecidableEq, Repr

/-- A kind of search as a datum. -/
def SearchKind.datum : SearchKind → Datum
  | text => .variant "text"
  | voice => .variant "voice"

/-- What happens in the application. -/
inductive AppEvent where
  /-- An activity has begun. -/
  | activityCreated
  /-- An activity has ended. -/
  | activityDestroyed
  /-- A button was clicked. -/
  | buttonClicked (label : String)
  /-- A screen was scrolled. -/
  | scrolled (screen : String) (offset : Nat)
  /-- A search was submitted. -/
  | searchSubmitted (query : String) (kind : Option SearchKind) (resultCount : Nat)
deriving DecidableEq, Repr

namespace AppEvent

/-- The group of events about the life of activities. -/
def lifecycle : QualifiedName := ⟨["crate", "events", "Lifecycle"]⟩

/-- The group of events about what the user does. -/
def interactive : QualifiedName := ⟨["crate", "events", "Interactive"]⟩

/-- The declared event that something is an instance of. -/
def event : AppEvent → Event
  | activityCreated => ⟨lifecycle.child "ActivityCreated", .unit, []⟩
  | activityDestroyed => ⟨lifecycle.child "ActivityDestroyed", .unit, []⟩
  | buttonClicked _ => ⟨interactive.child "ButtonClicked", .braced, ["label"]⟩
  | scrolled _ _ => ⟨interactive.child "Scrolled", .newtype, ["screen", "offset"]⟩
  | searchSubmitted _ _ _ =>
    ⟨interactive.child "SearchSubmitted", .braced, ["query", "type", "resultCount"]⟩

/-- The data of its fields, in order. -/
def data : AppEvent → List Datum
  | activityCreated => []
  | activityDestroyed => []
  | buttonClicked label => [.text label]
  | scrolled screen offset => [.text screen, .integer offset]
  | searchSubmitted query kind resultCount =>
    [.text query,
     match kind with
     | none => .absent
     | some kind => .present kind.datum,
     .integer resultCount]

/-- Tracks what happens through a handle. -/
def track (happened : AppEvent) (handle : Handle) : Receipt :=
  handle.send happened.event.eventName (happened.event.keys.zip happened.data)

/-- Every event has as many data as fields. -/
theorem length_data (happened : AppEvent) :
    happened.data.length = happened.event.fields.length := by
  cases happened <;> rfl

end AppEvent

end EventTracking
