import EventTracking.Log

/-!
# Diagnostics

Whatever is wrong with the sources, or with writing what is generated from them, is told by
diagnostics. Each carries the step that found it. Diagnostics are collected in a list, in the order
in which they arise; build scripts print them as instructions for the build tool, the command line
prints them to the error output, and the log gets them as events.

Main statements: every diagnostic makes one log event (`length_logEvents`).
-/

namespace EventTracking

/-- How severe a diagnostic is. -/
inductive Severity where
  /-- The run is given up. -/
  | error
  /-- A declaration or a file is skipped. -/
  | warning
  /-- A member is left out. -/
  | note
deriving DecidableEq, Repr

/-- The word for a severity. -/
def Severity.word : Severity → String
  | error => "error"
  | warning => "warning"
  | note => "note"

/-- The level at which a severity is logged. -/
def Severity.level : Severity → Level
  | error => .error
  | warning => .warn
  | note => .debug

/-- The steps of a run. -/
inductive Step where
  | loadSources
  | process
  | analyticsElement
  | declaredEvents
  | validMember
  | generate
deriving DecidableEq, Repr

/-- The word for a step. -/
def Step.word : Step → String
  | loadSources => "load_sources"
  | process => "process"
  | analyticsElement => "analytics_element"
  | declaredEvents => "declared_events"
  | validMember => "valid_member"
  | generate => "generate"

/-- A message of a run. -/
structure Diagnostic where
  /-- How severe it is. -/
  severity : Severity
  /-- The step that found it. -/
  step : Step
  /-- What it says. -/
  message : String
  /-- The file that it is about. -/
  file : Option String
  /-- The line of that file. -/
  line : Option Nat
deriving DecidableEq, Repr

namespace Diagnostic

/-- A diagnostic that is about no file. -/
def general (severity : Severity) (step : Step) (message : String) : Diagnostic :=
  ⟨severity, step, message, none, none⟩

/-- A diagnostic that is about a line of a file. -/
def located (severity : Severity) (step : Step) (message file : String) (line : Nat) : Diagnostic :=
  ⟨severity, step, message, some file, some line⟩

/-! ## Showing -/

/-- The place that a diagnostic is about, in parentheses. A line alone is no place. -/
def place (diagnostic : Diagnostic) : String :=
  match diagnostic.file, diagnostic.line with
  | some file, some line => " (" ++ file ++ ":" ++ line.repr ++ ")"
  | some file, none => " (" ++ file ++ ")"
  | none, _ => ""

/-- A diagnostic with its step and its place. -/
def display (diagnostic : Diagnostic) : String :=
  "auto-analytics[" ++ diagnostic.step.word ++ "] " ++ diagnostic.message ++ diagnostic.place

/-- A diagnostic as a log event. -/
def logEvent (diagnostic : Diagnostic) : LogEvent :=
  .saying diagnostic.severity.level [("step", diagnostic.step.word)] diagnostic.display

/-- The line that tells the build tool of a diagnostic; notes are not told. -/
def instruction? (diagnostic : Diagnostic) : Option String :=
  if diagnostic.severity = .note then none
  else some ("cargo:warning=" ++ diagnostic.display ++ "\n")

/-- The line that shows a diagnostic on the error output; notes are not shown. -/
def consoleLine? (diagnostic : Diagnostic) : Option String :=
  if diagnostic.severity = .note then none
  else some (diagnostic.severity.word ++ ": " ++ diagnostic.display ++ "\n")

/-! ## Collecting -/

/-- The diagnostics of one severity, in order. -/
def ofSeverity (severity : Severity) (diagnostics : List Diagnostic) : List Diagnostic :=
  diagnostics.filter fun diagnostic => decide (diagnostic.severity = severity)

/-- Whether a diagnostic is an error. -/
def isError (diagnostic : Diagnostic) : Bool := decide (diagnostic.severity = .error)

/-- The instructions that a build script prints for diagnostics. -/
def instructions (diagnostics : List Diagnostic) : String :=
  String.join (diagnostics.filterMap instruction?)

/-- What the command line shows of diagnostics on the error output. -/
def consoleOutput (diagnostics : List Diagnostic) : String :=
  String.join (diagnostics.filterMap consoleLine?)

/-- The log events of diagnostics. -/
def logEvents (diagnostics : List Diagnostic) : List LogEvent := diagnostics.map logEvent

/-- Every diagnostic makes one log event. -/
theorem length_logEvents (diagnostics : List Diagnostic) :
    (logEvents diagnostics).length = diagnostics.length := by
  simp [logEvents]

end Diagnostic

end EventTracking
