import EventTracking.Artifact
import EventTracking.Code.Marked
import EventTracking.Loading
import EventTracking.Settings

/-!
# Runs

A run loads a project and then handles each marked item to completion: it makes the event group,
generates the artifact and writes it, before it turns to the next item. A declaration that is
skipped never stops a run; only an unusable output directory or a failing write does.

Two groups may generate the same file. Then the later one keeps it.

Main statements: a path that another group takes over is no longer in the report
(`not_mem_without`).
-/

namespace EventTracking

open Code Text

/-! ## Outcomes -/

/-- Why a run is given up. -/
inductive RunError where
  /-- No output directory is configured. -/
  | outputUnset
  /-- The output directory does not exist. -/
  | outputMissing (path : Encoded)
  /-- An artifact cannot be written. -/
  | write (path : Encoded) (failure : FileTree.WriteFailure)
deriving DecidableEq, Repr

/-- The reason in words. -/
def RunError.message : RunError → String
  | outputUnset => "no output directory configured"
  | outputMissing path => "output directory `" ++ path.shown ++ "` does not exist"
  | write path failure => "cannot write `" ++ path.shown ++ "`: " ++ failure.message

/-- What a run has done. -/
structure Report where
  /-- The paths of artifacts that were new or have changed. -/
  writtenPaths : List Encoded
  /-- The paths of artifacts that were there already. -/
  unchangedPaths : List Encoded
  /-- The declarations that made no group. -/
  skipped : List (QualifiedName × Skip)
deriving DecidableEq, Repr

namespace Report

/-- The report of a run that has done nothing. -/
def empty : Report := ⟨[], [], []⟩

/-- The number of artifacts. -/
def total (report : Report) : Nat := report.writtenPaths.length + report.unchangedPaths.length

/-- The paths of artifacts that were new or have changed, as they are shown. -/
def written (report : Report) : List String := report.writtenPaths.map Encoded.shown

/-- The paths of artifacts that were there already, as they are shown. -/
def unchanged (report : Report) : List String := report.unchangedPaths.map Encoded.shown

/-- The report without a path that another group takes over. -/
def without (report : Report) (path : Encoded) : Report :=
  { report with
    writtenPaths := report.writtenPaths.filter (· != path)
    unchangedPaths := report.unchangedPaths.filter (· != path) }

/-- A path that another group takes over is no longer in the report. -/
theorem not_mem_without (report : Report) (path : Encoded) :
    path ∉ (report.without path).writtenPaths ∧ path ∉ (report.without path).unchangedPaths := by
  simp [without]

end Report

/-- A run under way. -/
structure RunState where
  /-- The files and directories. -/
  files : FileTree
  /-- What has been done. -/
  report : Report
  /-- The groups that own the files generated so far, the latest owner first. -/
  owners : List (String × QualifiedName)
  /-- What there was to say. -/
  diagnostics : List Diagnostic

/-- A run that is over. -/
structure RunOutcome where
  /-- What was done, or why the run was given up. -/
  result : Except RunError Report
  /-- The files and directories. -/
  files : FileTree
  /-- What there was to say. -/
  diagnostics : List Diagnostic

namespace RunState

/-! ## Writing artifacts -/

/-- A run that begins with these files. -/
def start (files : FileTree) : RunState := ⟨files, .empty, [], []⟩

/-- The run with more to say. -/
def saying (state : RunState) (diagnostics : List Diagnostic) : RunState :=
  { state with diagnostics := state.diagnostics ++ diagnostics }

/-- The group that owns a file. -/
def owner? (state : RunState) (file : String) : Option QualifiedName :=
  (Ordered.find? Prod.fst file state.owners).map Prod.snd

/-- The warning that a group takes over a file. -/
def takeoverWarning (group : EventGroup) (previous : QualifiedName) (file : String) : Diagnostic :=
  .located .warning .generate
    ("`" ++ group.name.display ++ "` and `" ++ previous.display ++ "` both generate `" ++ file ++
      "`, keeping `" ++ group.name.display ++ "`")
    group.location.file group.location.line

/-- Hands the file of a group's artifact to the group. If another group owns it, the file is taken
over with a warning. -/
def assign (state : RunState) (output : Encoded) (group : EventGroup) (file : String) : RunState :=
  let assigned : RunState := { state with owners := (file, group.name) :: state.owners }
  match state.owner? file with
  | none => assigned
  | some previous =>
    { assigned with
      report := assigned.report.without (output.join file)
      diagnostics := assigned.diagnostics ++ [takeoverWarning group previous file] }

/-- Writes an artifact, unless the file is there already with the same contents. -/
def writeArtifact (state : RunState) (output : Encoded) (artifact : Artifact) :
    RunState × Option RunError :=
  let path := output.join artifact.fileName
  if state.files.read? path = some artifact.contents then
    ({ state with
       report :=
         { state.report with unchangedPaths := state.report.unchangedPaths ++ [path] } }, none)
  else
    match state.files.write path artifact.contents with
    | .error failure =>
      let error := RunError.write path failure
      (state.saying [.general .error .generate error.message], some error)
    | .ok files =>
      ({ state with
         files := files
         report := { state.report with writtenPaths := state.report.writtenPaths ++ [path] } }, none)

/-! ## Handling declarations -/

/-- The run with a declaration skipped. -/
def skip (state : RunState) (name : QualifiedName) (reason : Skip) : RunState :=
  { state with
    report := { state.report with skipped := state.report.skipped ++ [(name, reason)] } }

/-- Handles a declaration to completion. -/
def handle (state : RunState) (output : Encoded) (runtime : String) (declaration : Declaration) :
    RunState × Option RunError :=
  let said := state.saying declaration.findings
  match declaration.toGroup with
  | .error reason => (said.skip declaration.name reason, none)
  | .ok group =>
    let artifact := group.artifact runtime
    (said.assign output group artifact.fileName).writeArtifact output artifact

/-- Handles declarations in order, up to the first error. -/
def handleAll (state : RunState) (output : Encoded) (runtime : String) :
    List Declaration → RunState × Option RunError
  | [] => (state, none)
  | declaration :: rest =>
    match state.handle output runtime declaration with
    | (after, none) => after.handleAll output runtime rest
    | (after, some error) => (after, some error)

/-- The outcome of a run that ends in a state, given the error that it ended with. -/
def outcome : RunState × Option RunError → RunOutcome
  | (state, none) => ⟨.ok state.report, state.files, state.diagnostics⟩
  | (state, some error) => ⟨.error error, state.files, state.diagnostics⟩

end RunState

/-! ## Runs -/

/-- A run that is given up before anything has been done. -/
def RunOutcome.givenUp (error : RunError) (files : FileTree) : RunOutcome :=
  ⟨.error error, files, [.general .error .process error.message]⟩

/-- Generates the artifacts of a project into a directory. -/
def writeArtifacts (project : Project) (output : Encoded) (runtime : String) (files : FileTree) :
    RunOutcome :=
  if files.isDirectory output then
    RunState.outcome ((RunState.start files).handleAll output runtime project.declarations)
  else .givenUp (.outputMissing output) files

/-- Loads the project that is configured and generates its artifacts. -/
def Settings.run (settings : Settings) (files : FileTree) : RunOutcome :=
  match settings.output with
  | none => .givenUp .outputUnset files
  | some output =>
    if files.isDirectory output then
      let loaded := loadProject files settings.source
      let outcome := writeArtifacts loaded.project output settings.runtime files
      { outcome with diagnostics := loaded.warnings ++ outcome.diagnostics }
    else .givenUp (.outputMissing output) files

/-! ## Groups -/

/-- The event groups of a project, in order. -/
def Code.Project.groups (project : Project) : List EventGroup :=
  project.declarations.filterMap Declaration.group?

/-- What there is to say about the marked items of a project, in order. -/
def Code.Project.findings (project : Project) : List Diagnostic :=
  project.declarations.flatMap Declaration.findings

end EventTracking
