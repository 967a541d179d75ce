import EventTracking.CommandLine.Arguments
import EventTracking.Listing
import EventTracking.Run

/-!
# The program

The program runs the command that its command line makes. It prints to two outputs: what was asked
for to the standard output, what there is to say to the error output.

Main statements: only `generate` changes files (`files_perform`), and a command line that makes no
sense changes none and fails (`program_of_error`).
-/

namespace EventTracking.CommandLine

/-! ## Commands -/

/-- How the program is used. -/
def usage : String :=
  String.join <| [
    "auto-analytics: generate tracking functions for #[auto_analytics_event] enums",
    "",
    "Usage: auto-analytics <command> [options]",
    "",
    "Commands:",
    "  generate <src> --out <dir>   Write one tracking function per event group",
    "  discover <src>               List event groups and their variants",
    "  help                         Show this help message",
    "  version                      Show version information",
    "",
    "Generate options:",
    "  -o, --out <dir>       Output directory (must exist)",
    "  --runtime <path>      Runtime crate path used by generated code",
    "                        (default: auto_analytics)",
    "",
    "Common options:",
    "  -v, --verbose         Log excluded variants and pass progress",
    "",
    "Environment:",
    "  AUTO_ANALYTICS_LOG    Log filter (default: warn)",
    "",
    "Examples:",
    "  auto-analytics discover src",
    "  auto-analytics generate src --out target/analytics",
    "  auto-analytics generate src -o gen --runtime crate::analytics"].map (· ++ "\n")

/-- The name and the version of the program. -/
def versionLine : String := "auto-analytics 0.1.0\n"

/-- What a command has done. -/
structure Outcome where
  /-- Why it has failed, if it has. -/
  error : Option RunError
  /-- The files and directories. -/
  files : FileTree
  /-- What it printed to the standard output. -/
  printed : String
  /-- What it printed to the error output. -/
  complaints : String

/-- A list of event groups. -/
structure GroupList where
  /-- The description of the groups. -/
  listing : String
  /-- What there is to say about the project. -/
  diagnostics : List Diagnostic

/-- Lists the event groups of the project below a directory. -/
def listGroups (source : String) (files : FileTree) : GroupList :=
  let loaded := loadProject files source
  { listing := EventGroup.listingAll loaded.project.groups
    diagnostics := loaded.warnings ++ loaded.project.findings }

/-- What is printed about a run that has come through. -/
def reportLines (report : Report) : String :=
  String.join (report.written.map fun path => "wrote " ++ path ++ "\n") ++
    report.writtenPaths.length.repr ++ " written, " ++ report.unchangedPaths.length.repr ++
    " unchanged, " ++
    report.skipped.length.repr ++ " skipped\n"

/-- Runs a command. -/
def perform (command : Command) (files : FileTree) : Outcome :=
  match command with
  | .generate source output runtime _ =>
    let settings := Settings.ofDirectories source output
    let outcome := { settings with runtime := runtime.getD settings.runtime }.run files
    let complaints := Diagnostic.consoleOutput outcome.diagnostics
    match outcome.result with
    | .ok report => ⟨none, outcome.files, reportLines report, complaints⟩
    | .error error => ⟨some error, outcome.files, "", complaints⟩
  | .discover source _ =>
    let found := listGroups source files
    ⟨none, files, found.listing, Diagnostic.consoleOutput found.diagnostics⟩
  | .help => ⟨none, files, usage, ""⟩
  | .version => ⟨none, files, versionLine, ""⟩

/-- What a run of the program has done. -/
structure Exit where
  /-- The exit code. -/
  code : Nat
  /-- The files and directories. -/
  files : FileTree
  /-- What was printed to the standard output. -/
  printed : String
  /-- What was printed to the error output. -/
  complaints : String

/-- A complaint about an error. -/
def complaint (message : String) : String := "error: " ++ message ++ "\n"

/-- Runs the program on the arguments after its name. -/
def program (arguments : List String) (files : FileTree) : Exit :=
  match parse arguments with
  | .error error => ⟨1, files, usage, complaint error.message ++ "\n"⟩
  | .ok command =>
    let outcome := perform command files
    match outcome.error with
    | none => ⟨0, outcome.files, outcome.printed, outcome.complaints⟩
    | some error =>
      ⟨1, outcome.files, outcome.printed, outcome.complaints ++ complaint error.message⟩

end EventTracking.CommandLine
