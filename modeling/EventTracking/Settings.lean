import EventTracking.Artifact
import EventTracking.Path

/-!
# Settings

A run is told where to read sources, where to write artifacts, and how generated code names the
runtime library. Build scripts take all this from the environment, where an empty variable counts
as missing.

Main statements: without an output variable no output directory is configured
(`output_ofEnvironment`).
-/

namespace EventTracking

open Text

/-- The variable that names the runtime library. -/
def runtimeVariable : String := "AUTO_ANALYTICS_RUNTIME"

/-- The settings of a run. -/
structure Settings where
  /-- The directory of the sources. -/
  source : Encoded
  /-- The directory that artifacts are written to. -/
  output : Option Encoded
  /-- The name of the runtime library. -/
  runtime : String
deriving DecidableEq

namespace Settings

/-- The settings when nothing is configured. -/
def standard : Settings := ⟨"src", none, defaultRuntime⟩

/-- The settings with these two directories. -/
def ofDirectories (source output : Encoded) : Settings :=
  { standard with source := source, output := some output }

/-- The settings that an environment of variables gives. -/
def ofEnvironment (environment : String → Option Encoded) : Settings :=
  let given (name : String) : Option Encoded := (environment name).filter (!·.isEmpty)
  { source :=
      ((given "CARGO_MANIFEST_DIR").map fun directory => directory.join "src").getD standard.source
    output := given "OUT_DIR"
    runtime := ((given runtimeVariable).bind Encoded.text?).getD standard.runtime }

/-- Without an output variable no output directory is configured. -/
theorem output_ofEnvironment {environment : String → Option Encoded}
    (h : environment "OUT_DIR" = none) : (ofEnvironment environment).output = none := by
  simp [ofEnvironment, h]

end Settings

end EventTracking
