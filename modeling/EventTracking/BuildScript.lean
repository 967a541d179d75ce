import EventTracking.Run

/-!
# Build scripts

A build script does a run as the environment configures it. It tells the build tool, by
instructions on its standard output, when to run it again, and then what there is to say.

Main statements: without an output variable a build script changes no file
(`files_buildScript_of_unset`).
-/

namespace EventTracking

open Text

/-- What a build script has done. -/
structure BuildOutcome where
  /-- What the run has done, or why it was given up. -/
  result : Except RunError Report
  /-- The files and directories. -/
  files : FileTree
  /-- What was printed. -/
  printed : String

/-- The instructions on when to run a build script again. -/
def rerunInstructions (settings : Settings) : String :=
  "cargo:rerun-if-changed=" ++ settings.source.shown ++ "\n" ++
    "cargo:rerun-if-env-changed=" ++ runtimeVariable ++ "\n"

/-- Runs a build script in an environment of variables. -/
def buildScript (environment : String → Option Encoded) (files : FileTree) : BuildOutcome :=
  let settings := Settings.ofEnvironment environment
  let outcome := settings.run files
  { result := outcome.result
    files := outcome.files
    printed := rerunInstructions settings ++ Diagnostic.instructions outcome.diagnostics }

/-- Without an output variable a build script changes no file. -/
theorem files_buildScript_of_unset {environment : String → Option Encoded}
    (h : environment "OUT_DIR" = none) (files : FileTree) :
    (buildScript environment files).files = files := by
  simp [buildScript, Settings.run, Settings.output_ofEnvironment h, RunOutcome.givenUp]

end EventTracking
