import EventTracking.Listing
import EventTracking.Proofs.ArtifactLines
import EventTracking.Proofs.Lexing

/-!
# The names of a listing and of an artifact

The listing of a group shows the name of each event and its keys as they are. The artifact has them
as literals, between quotes and with escapes. The names that they come from may hold anything, so
the quotes and the backslashes among their characters must not end a literal or change its worth.

Here a literal is a text that the lexer takes as one literal, unless a word follows it directly, and
that is worth a text under the rules for escapes. The text of an artifact is put together again from
such literals, and the listing of the group from what they are worth.

Main statements: a quoted text is a literal worth that text (`TextLiteral.quoted`), the arm of an
event is written with the literals of its name and keys (`lines_literalArm`), and listing and
artifact name the same things (`literals_of_listing`).
-/

namespace EventTracking

open Code Text Line

/-! ## Literals -/

/-- A text literal as it is written, with the text that it is worth. -/
structure TextLiteral where
  /-- The literal with its quotes. -/
  written : String
  /-- The text that it is worth. -/
  value : String
  /-- The literal is read as a whole, unless what follows it would belong to it. -/
  isLexeme : ∀ (line : Nat) (after : List Char), endsWord after = true →
    lexeme? line (written.toList ++ after) = some (.literal .text line, written.toList.length)
  /-- The escapes of the literal are worth the text, whatever follows. -/
  isWorth : ∀ after : List Char, unquote? (written.toList ++ after) = some (value, after)

/-- A quoted text is a literal worth that text. -/
def TextLiteral.quoted (text : String) : TextLiteral where
  written := quote text
  value := text
  isLexeme line _ hafter := lexeme?_quote text hafter line
  isWorth after := unquote?_quote_append text after

/-! ## Arms with literals -/

/-- An arm whose name and keys are literals. -/
structure LiteralArm where
  /-- The pattern of the arm. -/
  pattern : String
  /-- The name that is set. -/
  name : TextLiteral
  /-- The entries of the payload, each a key and the code of a value. -/
  entries : List (TextLiteral × String)

namespace LiteralArm

/-- The keys of the payload, in order. -/
def keys (arm : LiteralArm) : List String := arm.entries.map fun entry => entry.1.value

/-- The codes of the values of the payload, in order. -/
def expressions (arm : LiteralArm) : List String := arm.entries.map Prod.snd

/-- The line of an entry in the payload. -/
def entryLine (runtime : String) (entry : TextLiteral × String) : Line :=
  outermost ("(" ++ entry.1.written ++ ".to_owned(), " ++ runtime ++ "::to_value(" ++ entry.2 ++
    ")),")

/-- The lines that set the payload. -/
def payloadLines (runtime : String) (arm : LiteralArm) : List Line :=
  match arm.entries with
  | [] => [outermost ("payload = " ++ runtime ++ "::Payload::new();")]
  | entries =>
    outermost ("payload = " ++ runtime ++ "::Payload::from([") ::
      nested (entries.map (entryLine runtime)) ++ [outermost "]);"]

/-- The lines of the arm. -/
def lines (runtime : String) (arm : LiteralArm) : List Line :=
  block (arm.pattern ++ " =>")
    (outermost ("name = " ++ arm.name.written ++ ";") :: arm.payloadLines runtime)

/-- The line by which a listing shows what the literals of the arm are worth. -/
def listingLine (arm : LiteralArm) : String :=
  match arm.keys with
  | [] => "  " ++ arm.name.value
  | keys => "  " ++ arm.name.value ++ " \x7b " ++ ", ".intercalate keys ++ " \x7d"

/-- An arm is that of an event: it has its pattern, its name, its keys and its values. -/
structure IsOf (arm : LiteralArm) (groupPath : String) (event : Event) : Prop where
  /-- The pattern is the event's. -/
  pattern : arm.pattern = event.pattern groupPath
  /-- The literal of the name is worth the event's name. -/
  name : arm.name.value = event.eventName
  /-- The literals of the keys are worth the event's keys. -/
  keys : arm.keys = event.keys
  /-- Each key has the value of its field. -/
  expressions : arm.expressions = event.expressions

/-- The listing shows an event as the literals of its arm. -/
theorem IsOf.listingLine {arm : LiteralArm} {groupPath : String} {event : Event}
    (h : arm.IsOf groupPath event) : arm.listingLine = event.listingLine := by
  unfold LiteralArm.listingLine Event.listingLine
  -- both lines leave out the braces if there are no keys
  cases hkeys : event.keys with
  | nil => rw [h.keys, h.name, hkeys]
  | cons first rest => rw [h.keys, h.name, hkeys]

end LiteralArm

namespace Event

/-- An event has as many keys as values. -/
theorem length_keys_eq (event : Event) : event.keys.length = event.expressions.length := by
  rw [keys, expressions, List.length_map, List.length_map, length_boundFields]

/-- The arm of an event with its name and its keys as literals. -/
def literalArm (groupPath : String) (event : Event) : LiteralArm where
  pattern := event.pattern groupPath
  name := .quoted event.eventName
  entries := (event.keys.zip event.expressions).map fun entry => (.quoted entry.1, entry.2)

/-- The literals of an event's arm are worth its name and its keys. -/
theorem isOf_literalArm (groupPath : String) (event : Event) :
    (event.literalArm groupPath).IsOf groupPath event where
  pattern := rfl
  name := rfl
  keys := by
    have hkeys : (event.literalArm groupPath).keys =
        (event.keys.zip event.expressions).map Prod.fst := by
      rw [LiteralArm.keys, literalArm, List.map_map]
      rfl
    rw [hkeys, List.map_fst_zip (Nat.le_of_eq event.length_keys_eq)]
  expressions := by
    have hexpressions : (event.literalArm groupPath).expressions =
        (event.keys.zip event.expressions).map Prod.snd := by
      rw [LiteralArm.expressions, literalArm, List.map_map]
      rfl
    rw [hexpressions, List.map_snd_zip (Nat.le_of_eq event.length_keys_eq.symm)]

/-- The payload of an event is written with the literals of its keys. -/
theorem payloadLines_literalArm (groupPath runtime : String) (event : Event) :
    (event.literalArm groupPath).payloadLines runtime = event.payloadLines runtime := by
  rw [payloadLines_eq_literalLines, literalLines, LiteralArm.payloadLines, literalArm]
  cases event.keys.zip event.expressions with
  | nil => rfl
  | cons first rest =>
      rw [List.map_cons]
      simp only [List.isEmpty_cons, Bool.false_eq_true, if_false, List.map_cons, List.map_map]
      rfl

/-- The arm of an event is written with the literals of its name and its keys. -/
theorem lines_literalArm (groupPath runtime : String) (event : Event) :
    (event.literalArm groupPath).lines runtime = event.arm groupPath runtime := by
  rw [LiteralArm.lines, payloadLines_literalArm, arm]
  rfl

end Event

/-! ## Listing and artifact -/

namespace EventGroup

/-- The artifact of a group is written with an arm for each event, whose name and keys are literals,
and the listing of the group shows what these are worth: line by line the names of the events in
order, each with its keys in order. Nothing is asked of the names of the variants and fields. -/
theorem literals_of_listing (group : EventGroup) (runtime : String) :
    ∃ arms : List LiteralArm,
      (group.artifact runtime).contents =
        render (group.openingLines (runtimeText runtime) ++
          nested (nested (arms.flatMap fun arm => arm.lines (runtimeText runtime))) ++
          closingLines) ∧
      group.listing = String.join
        ((group.listingLines.take 2 ++ arms.map LiteralArm.listingLine).map (· ++ "\n")) ∧
      List.Forall₂ (fun event arm => arm.IsOf (writtenPath group.name) event)
        group.registry.events arms := by
  refine ⟨group.registry.events.map (Event.literalArm (writtenPath group.name)), ?_, ?_, ?_⟩
  · have harms : (group.registry.events.map (Event.literalArm (writtenPath group.name))).flatMap
        (fun arm => arm.lines (runtimeText runtime)) = group.arms (runtimeText runtime) := by
      rw [List.flatMap_map, arms]
      congr 1
      funext event
      exact event.lines_literalArm _ _
    rw [harms, ← lines_eq]
    rfl
  · have hlines : (group.registry.events.map (Event.literalArm (writtenPath group.name))).map
        LiteralArm.listingLine = group.registry.events.map Event.listingLine := by
      rw [List.map_map]
      apply List.map_congr_left
      intro event _
      exact (event.isOf_literalArm _).listingLine
    rw [hlines]
    rfl
  · rw [List.forall₂_map_right_iff, List.forall₂_same]
    intro event _
    exact event.isOf_literalArm _

end EventGroup

end EventTracking
