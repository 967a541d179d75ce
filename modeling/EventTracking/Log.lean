/-!
# Log events

A log event has a level and fields; what it says is its field `message`.

Main statements: an event says what it was made to say (`message_saying`).
-/

namespace EventTracking

/-- How important a log event is. -/
inductive Level where
  | error
  | warn
  | info
  | debug
deriving DecidableEq, Repr

/-- A log event. -/
structure LogEvent where
  /-- How important it is. -/
  level : Level
  /-- The names and texts of its fields. -/
  fields : List (String × String)
deriving DecidableEq, Repr

/-- The event that says `message`, after further fields. -/
def LogEvent.saying (level : Level) (fields : List (String × String)) (message : String) :
    LogEvent :=
  ⟨level, fields ++ [("message", message)]⟩

/-- What an event says. -/
def LogEvent.message? (event : LogEvent) : Option String :=
  (event.fields.getLast?.filter (·.1 == "message")).map Prod.snd

/-- An event says what it was made to say. -/
theorem LogEvent.message_saying (level : Level) (fields : List (String × String))
    (message : String) : (saying level fields message).message? = some message := by
  simp [saying, message?, Option.filter]

end EventTracking
