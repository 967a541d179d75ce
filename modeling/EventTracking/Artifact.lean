import EventTracking.Code.Line
import EventTracking.Code.Token
import EventTracking.EventGroup
import EventTracking.Text.Quoted
import EventTracking.Text.SnakeCase

/-!
# Artifacts

An artifact is the source file that is generated for an event group. It holds one function, which
matches on an event, sets its name and its payload, and hands both to a tracker.

Every event has an arm of its own, whose pattern has the form in which the variant is written.
Fields are bound to locals of their own names, but for two names that the function uses itself;
fields of a wrapped value are read through that value.

Main statements: a field with an unreserved name is bound to a local of that name
(`localFor_of_not_reserved`), and an event has a line in the payload for each of its fields
(`length_payloadLines`).
-/

namespace EventTracking

open Code Text Line

/-! ## Names -/

/-- The start of every artifact's file name. -/
def fileStart : String := "auto_analytics_"

/-- The snake-case name of a group. -/
def snakeName (group : QualifiedName) : String := snakeCase group.simple

/-- The file that an artifact is written to. -/
def artifactFile (group : QualifiedName) : String := fileStart ++ snakeName group ++ ".rs"

/-- The function that an artifact holds. -/
def trackingFunction (group : QualifiedName) : String := "track_" ++ snakeName group

/-- The name under which an event is tracked. -/
def Event.eventName (event : Event) : String :=
  screamingCase event.name.simple

/-- The keys of an event's payload. -/
def Event.keys (event : Event) : List String := event.fields.map snakeCase

/-- A name as it is written in code: what is no name by itself gets the raw marker. -/
def writtenName (name : String) : String :=
  if Token.isNameText name then name else "r#" ++ name

/-- A path as it is written in code; a leading `crate` is kept. -/
def writtenPath (path : QualifiedName) : String :=
  "::".intercalate <|
    match path.segments with
    | [] => []
    | first :: rest =>
      (if first = "crate" then first else writtenName first) :: rest.map writtenName

/-- The name of the runtime library unless another one is given. -/
def defaultRuntime : String := "auto_analytics"

/-- The path of the runtime library in code: a bare name becomes absolute, while `crate` and paths
are kept as they are. -/
def runtimeText (runtime : String) : String :=
  let trimmed := trim runtime.toList
  if trimmed = "crate".toList || (QualifiedName.pieces trimmed).length > 1 then
    String.ofList trimmed
  else "::" ++ String.ofList trimmed

/-! ## Fields -/

/-- The locals that every arm sets, which no field may be bound to. -/
def reservedLocals : List String := ["name", "payload"]

/-- The first name that is not taken, among `name` and what it becomes by adding underscores, at
most `fuel` of them. -/
def freeName (taken : List String) : (fuel : Nat) → (name : String) → String
  | 0, name => name
  | fuel + 1, name =>
    if reservedLocals.contains name || taken.contains name then freeName taken fuel (name ++ "_")
    else name

/-- The local that a field is bound to, given all fields of the variant. A reserved name gets
underscores until it is free. -/
def localFor (fields : List String) (field : String) : String :=
  if reservedLocals.contains field then freeName fields fields.length (field ++ "_")
  else writtenName field

/-- How a field is bound by the pattern of an arm and read in the payload. -/
structure BoundField where
  /-- The name of the field. -/
  field : String
  /-- The local that it is bound to; none if it is read through the wrapped value. -/
  target : Option String
deriving DecidableEq

/-- A field in a pattern with braces. -/
def BoundField.pattern (bound : BoundField) : String :=
  let field := writtenName bound.field
  match bound.target with
  | some target => if target = field then field else field ++ ": " ++ target
  | none => field

/-- The value of a field. -/
def BoundField.value (bound : BoundField) : String :=
  match bound.target with
  | some target => target
  | none => "&event." ++ writtenName bound.field

/-- The fields of an event as its arm binds them, in order. -/
def Event.boundFields (event : Event) : List BoundField :=
  event.fields.map fun field =>
    match event.form with
    | .newtype => ⟨field, none⟩
    | _ => ⟨field, some (localFor event.fields field)⟩

/-- A field with an unreserved name is bound to a local of that name. -/
theorem localFor_of_not_reserved {field : String} (h : field ∉ reservedLocals)
    (fields : List String) : localFor fields field = writtenName field := by
  simp [localFor, h]

/-- Every field is bound. -/
theorem Event.length_boundFields (event : Event) :
    event.boundFields.length = event.fields.length := by
  simp [boundFields]

/-! ## Arms -/

/-- The pattern of an event's arm. -/
def Event.pattern (groupPath : String) (event : Event) : String :=
  let path := groupPath ++ "::" ++ writtenName event.name.simple
  match event.form, event.boundFields with
  | .unit, _ => path
  | .braced, [] => path ++ " \x7b .. \x7d"
  | .braced, bound =>
    path ++ " \x7b " ++ ", ".intercalate (bound.map BoundField.pattern) ++ " \x7d"
  | .newtype, [] => path ++ "(_)"
  | .newtype, _ => path ++ "(event)"
  | .tuple, [] => path ++ "(..)"
  | .tuple, bound => path ++ "(" ++ ", ".intercalate (bound.map BoundField.value) ++ ")"

/-- The entry of a field in the payload. -/
def BoundField.entry (runtime : String) (bound : BoundField) : String :=
  "(" ++ quote (snakeCase bound.field) ++ ".to_owned(), " ++ runtime ++ "::to_value(" ++
    bound.value ++ ")),"

/-- The lines that set the payload. -/
def Event.payloadLines (runtime : String) (event : Event) : List Line :=
  match event.boundFields with
  | [] => [outermost ("payload = " ++ runtime ++ "::Payload::new();")]
  | bound =>
    outermost ("payload = " ++ runtime ++ "::Payload::from([") ::
      nested (bound.map fun field => outermost (field.entry runtime)) ++
      [outermost "]);"]

/-- The arm of an event. -/
def Event.arm (groupPath runtime : String) (event : Event) : List Line :=
  block (event.pattern groupPath ++ " =>") <|
    outermost ("name = " ++ quote event.eventName ++ ";") :: event.payloadLines runtime

/-- Fields have a line each, between two more; without fields there is a single line. -/
theorem Event.length_payloadLines (runtime : String) (event : Event) :
    (event.payloadLines runtime).length =
      if event.fields.length = 0 then 1 else event.fields.length + 2 := by
  rw [← event.length_boundFields, payloadLines]
  cases event.boundFields <;> simp [nested]

/-! ## Artifacts -/

/-- A generated source file. -/
structure Artifact where
  /-- The group that it is generated for. -/
  group : QualifiedName
  /-- The name of the file. -/
  fileName : String
  /-- The text of the file. -/
  contents : String
deriving DecidableEq, Repr

namespace EventGroup

/-- The type of a group in code. -/
def typeText (group : EventGroup) : String :=
  if group.lifetimes = 0 then writtenPath group.name
  else
    writtenPath group.name ++ "<" ++ ", ".intercalate (List.replicate group.lifetimes "'_") ++ ">"

/-- The comment lines that begin an artifact. -/
def commentLines (group : EventGroup) : List Line :=
  let left := group.excluded.map fun name => "`" ++ name.simple ++ "`"
  outermost ("// @generated by auto-analytics from `" ++ group.name.display ++ "`. Do not edit.") ::
    (if left.isEmpty then []
      else
        [outermost ("// No fields could be read for " ++ ", ".intercalate left ++
          ", so this match has no arm for them.")])

/-- The lines that describe the function and state its signature. -/
def signatureLines (group : EventGroup) (runtime : String) : List Line :=
  [outermost ("/// Converts `" ++ group.name.display ++
     "` to a name and payload and delegates it to `AutoAnalytics::track`."),
   outermost "///",
   outermost "/// This is a generated function. Do not edit.",
   outermost "#[allow(clippy::needless_late_init)]",
   outermost ("pub fn " ++ trackingFunction group.name ++ "<T>(tracker: &T, event: &" ++
     group.typeText ++ ")"),
   outermost "where",
   ⟨1, "T: " ++ runtime ++ "::AutoAnalytics + ?Sized,"⟩]

/-- The arms of a group, in the order of its registry. -/
def arms (group : EventGroup) (runtime : String) : List Line :=
  group.registry.events.flatMap (·.arm (writtenPath group.name) runtime)

/-- The lines of the function's body. -/
def bodyLines (group : EventGroup) (runtime : String) : List Line :=
  outermost "let name: &'static str;" ::
    outermost ("let payload: " ++ runtime ++ "::Payload;") ::
    block "match event" (group.arms runtime) ++
    [outermost "tracker.track(name, payload);"]

/-- The lines of an artifact. -/
def lines (group : EventGroup) (runtime : String) : List Line :=
  group.commentLines ++ outermost "" :: group.signatureLines runtime ++
    outermost "\x7b" :: nested (group.bodyLines runtime) ++ [outermost "\x7d"]

/-- The artifact of a group, `runtime` naming the runtime library. -/
def artifact (group : EventGroup) (runtime : String) : Artifact where
  group := group.name
  fileName := artifactFile group.name
  contents := render (group.lines (runtimeText runtime))

end EventGroup

end EventTracking
