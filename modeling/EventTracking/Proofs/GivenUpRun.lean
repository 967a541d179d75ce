import EventTracking.Proofs.RunOutcome

/-!
# Runs that are given up

A run is given up for one of three reasons: no output directory is configured, the output directory
does not exist, or an artifact cannot be written. In the first two cases nothing has been done yet.
In the third case the run stops in the middle, at the declaration whose artifact cannot be written:
the files are those that the declarations before it have left, and the declarations after it are not
looked at.

Whatever else there is to say about sources, declarations and artifacts is a warning or a note. So a
run has an error to tell exactly if it is given up, and then that error comes last.

Main statements: loading, discovery and the steps of a run tell no errors
(`severity_of_mem_warnings`, `severity_ne_error_of_mem_findings`, `IsQuiet.handleAll`), and a run
stops at the first declaration whose artifact cannot be written (`stopsAt_of_handleAll`).
-/

namespace EventTracking

open Code Text

/-! ## What is no error -/

/-- A source file that is not loaded is warned of: either it cannot be read or it makes no sense. -/
theorem severity_of_readSource {tree : FileTree} {root path : Encoded} {found : Diagnostic}
    (h : readSource tree root path = .error found) : found.severity = .warning := by
  unfold readSource at h
  split at h
  · obtain rfl := Except.error.inj h
    rfl
  · split at h
    · obtain rfl := Except.error.inj h
      rfl
    · cases h

/-- Whatever a walk has come across, it is loaded or warned of. -/
theorem severity_of_readFound {tree : FileTree} {root : Encoded} {place : Place × FileTree.Found}
    {found : Diagnostic} (h : readFound tree root place = .error found) :
    found.severity = .warning := by
  unfold readFound at h
  split at h
  · exact severity_of_readSource h
  · obtain rfl := Except.error.inj h
    rfl

/-- What there is to say about loading a project is a warning. -/
theorem severity_of_mem_warnings {tree : FileTree} {root : Encoded} {found : Diagnostic}
    (h : found ∈ (loadProject tree root).warnings) : found.severity = .warning := by
  unfold loadProject at h
  split at h
  · obtain ⟨read, hread, hwarning⟩ := List.mem_filterMap.1 h
    obtain ⟨place, -, hplace⟩ := List.mem_map.1 hread
    cases read with
    | ok file => cases hwarning
    | error diagnostic =>
        obtain rfl := Option.some.inj hwarning
        exact severity_of_readFound hplace
  · rw [List.mem_singleton.1 h]
    rfl

namespace Declaration

/-- What discovery has to say about a declaration is no error. -/
theorem severity_ne_error_of_mem_findings {declaration : Declaration} {finding : Diagnostic}
    (h : finding ∈ declaration.findings) : finding.severity ≠ .error := by
  have hskip (skip : Skip) : (declaration.skipWarning skip).severity ≠ .error := by
    rw [severity_skipWarning]
    decide
  unfold findings at h
  split at h
  · rw [List.mem_singleton.1 h]
    exact hskip _
  · rcases List.mem_append.1 h with hnote | hwarning
    · obtain ⟨member, -, hmember⟩ := List.mem_filterMap.1 hnote
      rw [severity_of_note? hmember]
      decide
    · split at hwarning
      · rw [List.mem_singleton.1 hwarning]
        exact hskip .noEvents
      · cases hwarning

end Declaration

namespace RunState

variable {state before after : RunState} {output : Encoded} {runtime : String}
  {declaration : Declaration} {declarations handled : List Declaration} {error : RunError}

/-- What a group has to say when it takes over its file: a warning if the file has another owner. -/
def takeover (state : RunState) (group : EventGroup) : List Diagnostic :=
  ((state.owner? group.fileName).map fun previous =>
    takeoverWarning group previous group.fileName).toList

/-- What a group has to say when it takes over its file is no error. -/
theorem severity_ne_error_of_mem_takeover {group : EventGroup} {found : Diagnostic}
    (h : found ∈ state.takeover group) : found.severity ≠ .error := by
  rw [takeover, Option.mem_toList] at h
  obtain ⟨previous, -, rfl⟩ := Option.map_eq_some_iff.1 h
  exact nofun

/-- Nothing that a run has said so far is an error. -/
def IsQuiet (state : RunState) : Prop := ∀ found ∈ state.diagnostics, found.severity ≠ .error

/-! ## What one declaration does -/

/-- Handling a declaration that makes no group says why and skips it. -/
theorem handle_of_error {reason : Skip} (h : declaration.toGroup = .error reason) :
    state.handle output runtime declaration =
      ((state.saying declaration.findings).skip declaration.name reason, none) := by
  rw [handle, h]

/-- Handling a declaration that makes a group hands the group its file and writes the artifact. -/
theorem handle_of_ok {group : EventGroup} (h : declaration.toGroup = .ok group) :
    state.handle output runtime declaration =
      ((state.saying declaration.findings).assign output group group.fileName).writeArtifact output
        (group.artifact runtime) := by
  rw [handle, h]
  rfl

/-- When a group gets its file, the findings about its declaration and the takeover have been
told. -/
theorem diagnostics_assign_saying (group : EventGroup) :
    ((state.saying declaration.findings).assign output group group.fileName).diagnostics =
      state.diagnostics ++ declaration.findings ++ state.takeover group :=
  diagnostics_assign _ _ _ _

/-- Writing an artifact ends with an error exactly if the artifact is not there and the file cannot
be written. The error is told, and all else is as it was. -/
theorem writeArtifact_eq_some_iff {artifact : Artifact} :
    state.writeArtifact output artifact = (after, some error) ↔
      state.files.read? (output.join artifact.fileName) ≠ some artifact.contents ∧
        ∃ failure,
          state.files.write (output.join artifact.fileName) artifact.contents =
              .error failure ∧
            error = .write (output.join artifact.fileName) failure ∧
            after = state.saying [.general .error .generate error.message] := by
  unfold writeArtifact
  dsimp only
  constructor
  · intro h
    split at h
    · cases h
    · rename_i hread
      refine ⟨hread, ?_⟩
      split at h
      · rename_i failure hwrite
        obtain ⟨rfl, herror⟩ := Prod.mk.inj h
        obtain rfl := Option.some.inj herror
        exact ⟨failure, hwrite, rfl, rfl⟩
      · cases h
  · rintro ⟨hread, failure, hwrite, rfl, rfl⟩
    rw [if_neg hread, hwrite]

/-- Handling a declaration without an error tells the findings about it and the takeover, if it
makes a group. So a quiet run stays quiet. -/
theorem IsQuiet.handle (h : state.IsQuiet)
    (hstep : state.handle output runtime declaration = (after, none)) : after.IsQuiet := by
  cases hgroup : declaration.toGroup with
  | error reason =>
      rw [handle_of_error hgroup] at hstep
      obtain ⟨rfl, -⟩ := Prod.mk.inj hstep
      intro found hfound
      rcases List.mem_append.1 hfound with hbefore | hfinding
      · exact h found hbefore
      · exact Declaration.severity_ne_error_of_mem_findings hfinding
  | ok group =>
      rw [handle_of_ok hgroup] at hstep
      obtain ⟨-, hdiagnostics, -⟩ := writeArtifact_eq_none hstep
      rw [diagnostics_assign_saying] at hdiagnostics
      intro found hfound
      rw [hdiagnostics] at hfound
      rcases List.mem_append.1 hfound with hfront | htakeover
      · rcases List.mem_append.1 hfront with hbefore | hfinding
        · exact h found hbefore
        · exact Declaration.severity_ne_error_of_mem_findings hfinding
      · exact severity_ne_error_of_mem_takeover htakeover

/-! ## What a run does -/

/-- A quiet run stays quiet as long as there is no error. -/
theorem IsQuiet.handleAll (h : state.IsQuiet)
    (hrun : state.handleAll output runtime declarations = (after, none)) : after.IsQuiet :=
  handleAll_induction (P := fun _ state => state.IsQuiet) h
    (fun _ _ _ _ _ hstate hstep => hstate.handle hstep) hrun

/-- A run that ends with an error ends at the first declaration that cannot be handled. -/
theorem exists_of_handleAll_eq_some
    (h : state.handleAll output runtime declarations = (after, some error)) :
    ∃ (handled rest : List Declaration) (declaration : Declaration) (before : RunState),
      declarations = handled ++ declaration :: rest ∧
        state.handleAll output runtime handled = (before, none) ∧
        before.handle output runtime declaration = (after, some error) := by
  induction declarations generalizing state with
  | nil => cases h
  | cons first others ih =>
      rw [RunState.handleAll] at h
      split at h
      · rename_i next hnext
        obtain ⟨handled, rest, declaration, before, rfl, hhandled, hlast⟩ := ih h
        refine ⟨first :: handled, rest, declaration, before, rfl, ?_, hlast⟩
        rw [RunState.handleAll, hnext]
        exact hhandled
      · rename_i stopped found hfirst
        obtain ⟨rfl, herror⟩ := Prod.mk.inj h
        obtain rfl := Option.some.inj herror
        exact ⟨[], others, first, state, rfl, rfl, hfirst⟩

/-- A run stops at a declaration: the declarations before it have been handled without an error, and
the artifact of its group cannot be written. -/
structure StopsAt (state : RunState) (output : Encoded) (runtime : String)
    (handled : List Declaration) (declaration : Declaration) (group : EventGroup)
    (failure : FileTree.WriteFailure) (before after : RunState) : Prop where
  /-- The declarations before have been handled without an error. -/
  handled_before : state.handleAll output runtime handled = (before, none)
  /-- The declaration makes the group. -/
  makes_group : declaration.toGroup = .ok group
  /-- The file of the group holds something else than the artifact. -/
  outdated : before.files.read? (group.path output) ≠ some (group.artifact runtime).contents
  /-- The artifact cannot be written. -/
  fails : before.files.write (group.path output) (group.artifact runtime).contents =
    .error failure
  /-- The files are those that the declarations before have left. -/
  files : after.files = before.files
  /-- What is told last are the findings about the declaration, the takeover and the error. -/
  diagnostics : after.diagnostics =
    before.diagnostics ++ declaration.findings ++ before.takeover group ++
      [.general .error .generate (RunError.write (group.path output) failure).message]
  /-- Whatever declarations come after it, the run ends there. -/
  ends : ∀ others, state.handleAll output runtime (handled ++ declaration :: others) =
    (after, some (.write (group.path output) failure))

/-- A run that ends with an error has stopped at one of its declarations. -/
theorem stopsAt_of_handleAll
    (h : state.handleAll output runtime declarations = (after, some error)) :
    ∃ (handled rest : List Declaration) (declaration : Declaration) (group : EventGroup)
      (failure : FileTree.WriteFailure) (before : RunState),
      declarations = handled ++ declaration :: rest ∧ error = .write (group.path output) failure ∧
        state.StopsAt output runtime handled declaration group failure before after := by
  obtain ⟨handled, rest, declaration, before, rfl, hhandled, hlast⟩ :=
    exists_of_handleAll_eq_some h
  have hlater (others : List Declaration) :
      state.handleAll output runtime (handled ++ declaration :: others) = (after, some error) := by
    rw [handleAll_append hhandled, RunState.handleAll, hlast]
  -- a declaration that makes no group is skipped without an error
  cases hgroup : declaration.toGroup with
  | error reason =>
      rw [handle_of_error hgroup] at hlast
      cases hlast
  | ok group =>
      rw [handle_of_ok hgroup, writeArtifact_eq_some_iff, files_assign] at hlast
      obtain ⟨houtdated, failure, hfailure, rfl, rfl⟩ := hlast
      refine ⟨handled, rest, declaration, group, failure, before, rfl, rfl, ?_⟩
      exact {
        handled_before := hhandled
        makes_group := hgroup
        outdated := houtdated
        fails := hfailure
        files := files_assign _ _ _ _
        diagnostics := congrArg (· ++ [_]) (diagnostics_assign_saying group)
        ends := hlater }

end RunState

/-! ## Errors of runs -/

/-- What is told by a list of diagnostics that ends with its only error, `message` being what that
error says. -/
def EndsWithError (diagnostics : List Diagnostic) (message : String) : Prop :=
  ∃ front last, diagnostics = front ++ [last] ∧ (∀ found ∈ front, found.severity ≠ .error) ∧
    last.severity = .error ∧ last.message = message

/-- A list of diagnostics that ends with its only error has an error. -/
theorem exists_error_of_endsWithError {diagnostics : List Diagnostic} {message : String}
    (h : EndsWithError diagnostics message) : ∃ found ∈ diagnostics, found.severity = .error := by
  obtain ⟨front, last, rfl, -, hlast, -⟩ := h
  exact ⟨last, List.mem_append_right _ (List.mem_singleton_self last), hlast⟩

/-- What a run has told when it stops ends with its only error, as everything before it was no
error. -/
theorem RunState.StopsAt.endsWithError {state before after : RunState} {output : Encoded}
    {runtime : String} {handled : List Declaration} {declaration : Declaration} {group : EventGroup}
    {failure : FileTree.WriteFailure} {warnings : List Diagnostic}
    (h : state.StopsAt output runtime handled declaration group failure before after)
    (hstate : state.IsQuiet) (hwarnings : ∀ found ∈ warnings, found.severity ≠ .error) :
    EndsWithError (warnings ++ after.diagnostics)
      (RunError.write (group.path output) failure).message := by
  have hbefore : before.IsQuiet := hstate.handleAll h.handled_before
  refine ⟨warnings ++ (before.diagnostics ++ declaration.findings ++ before.takeover group),
    .general .error .generate (RunError.write (group.path output) failure).message, ?_, ?_, rfl,
    rfl⟩
  · rw [h.diagnostics]
    exact (List.append_assoc _ _ _).symm
  · intro found hfound
    simp only [List.mem_append] at hfound
    rcases hfound with hwarning | (hhandling | hfinding) | htakeover
    · exact hwarnings found hwarning
    · exact hbefore found hhandling
    · exact Declaration.severity_ne_error_of_mem_findings hfinding
    · exact RunState.severity_ne_error_of_mem_takeover htakeover

namespace Settings

/-- Why a run is refused before anything is loaded. -/
def refusal? (settings : Settings) (files : FileTree) : Option RunError :=
  match settings.output with
  | none => some .outputUnset
  | some output =>
    if files.isDirectory output then none else some (.outputMissing output)

/-- A run that is refused does nothing but tell why. -/
theorem run_of_refusal {settings : Settings} {files : FileTree} {error : RunError}
    (h : settings.refusal? files = some error) : settings.run files = .givenUp error files := by
  rw [refusal?] at h
  rw [run]
  cases houtput : settings.output with
  | none =>
      rw [houtput] at h
      rw [← Option.some.inj h]
  | some output =>
      rw [houtput] at h
      dsimp only at h ⊢
      by_cases hisdir : files.isDirectory output = true
      · rw [if_pos hisdir] at h
        cases h
      · rw [if_neg hisdir] at h ⊢
        rw [← Option.some.inj h]

/-- A run is refused for want of an output directory, and for nothing else. -/
theorem ne_write_of_refusal {settings : Settings} {files : FileTree} {error : RunError}
    (h : settings.refusal? files = some error) (path : Encoded) (failure : FileTree.WriteFailure) :
    error ≠ .write path failure := by
  rintro rfl
  unfold refusal? at h
  split at h
  · cases h
  · split at h
    · cases h
    · cases h

/-- A run that is not refused loads the project and handles its declarations. -/
theorem run_of_no_refusal {settings : Settings} {files : FileTree}
    (h : settings.refusal? files = none) :
    ∃ output after stopped, settings.output = some output ∧
      (RunState.start files).handleAll output settings.runtime
        (loadProject files settings.source).project.declarations = (after, stopped) ∧
      settings.run files =
        { RunState.outcome (after, stopped) with
          diagnostics := (loadProject files settings.source).warnings ++
            (RunState.outcome (after, stopped)).diagnostics } := by
  rw [refusal?] at h
  rw [run]
  cases houtput : settings.output with
  | none =>
      rw [houtput] at h
      cases h
  | some output =>
      rw [houtput] at h
      dsimp only at h ⊢
      by_cases hisdir : files.isDirectory output = true
      · refine ⟨output, _, _, rfl, rfl, ?_⟩
        rw [if_pos hisdir, writeArtifacts, if_pos hisdir]
      · rw [if_neg hisdir] at h
        cases h

end Settings

/-- What there is to say about loading a project is no error. -/
theorem severity_ne_error_of_mem_warnings {tree : FileTree} {root : Encoded} {found : Diagnostic}
    (h : found ∈ (loadProject tree root).warnings) : found.severity ≠ .error := by
  rw [severity_of_mem_warnings h]
  decide

/-- A run that comes through tells no error, neither about loading the project nor afterwards. -/
theorem severity_ne_error_of_handleAll {tree files : FileTree} {root output : Encoded}
    {runtime : String} {declarations : List Declaration} {after : RunState} {found : Diagnostic}
    (hall : (RunState.start files).handleAll output runtime declarations = (after, none))
    (h : found ∈ (loadProject tree root).warnings ++ after.diagnostics) :
    found.severity ≠ .error := by
  have hstart : (RunState.start files).IsQuiet := nofun
  rcases List.mem_append.1 h with hloading | hhandling
  · exact severity_ne_error_of_mem_warnings hloading
  · exact hstart.handleAll hall found hhandling

/-- A run ends with an error exactly if it tells one. Then it tells only one, which comes last and
says what the error is. A run without an output directory tells nothing else, leaves all files alone
and takes no notice of the sources. Otherwise the error is that an artifact could not be written:
the run has stopped at a declaration of the project, with the files as the declarations before it
have left them, and it would have ended in the same way whatever declarations had come after. -/
theorem error_of_run (settings : Settings) (files : FileTree) :
    ((∃ error, (settings.run files).result = .error error) ↔
      ∃ found ∈ (settings.run files).diagnostics, found.severity = .error) ∧
    ∀ error, (settings.run files).result = .error error →
      EndsWithError (settings.run files).diagnostics error.message ∧
      ((error = .outputUnset ∨ ∃ path, error = .outputMissing path) →
        (settings.run files).diagnostics = [.general .error .process error.message] ∧
        (settings.run files).files = files ∧ settings.refusal? files = some error ∧
        ∀ source other, settings.refusal? other = some error →
          { settings with source := source }.run other = .givenUp error other) ∧
      ∀ path failure, error = .write path failure →
        ∃ (output : Encoded) (handled rest : List Declaration) (declaration : Declaration)
          (group : EventGroup) (before after : RunState),
          settings.output = some output ∧ path = group.path output ∧
          (loadProject files settings.source).project.declarations =
            handled ++ declaration :: rest ∧
          (RunState.start files).StopsAt output settings.runtime handled declaration group
            failure before after ∧
          (settings.run files).files = before.files ∧
          (settings.run files).diagnostics =
            (loadProject files settings.source).warnings ++ after.diagnostics := by
  cases hrefusal : settings.refusal? files with
  | some refused =>
      rw [Settings.run_of_refusal hrefusal]
      have hends : EndsWithError [.general .error .process refused.message] refused.message :=
        ⟨[], _, rfl, nofun, rfl, rfl⟩
      refine ⟨⟨fun _ => exists_error_of_endsWithError hends, fun _ => ⟨refused, rfl⟩⟩, ?_⟩
      intro error herror
      obtain rfl := Except.error.inj herror
      refine ⟨hends, fun _ => ⟨rfl, rfl, rfl, ?_⟩, ?_⟩
      · intro source other hother
        exact Settings.run_of_refusal hother
      · intro path failure hwrite
        exact absurd hwrite (Settings.ne_write_of_refusal hrefusal path failure)
  | none =>
      obtain ⟨output, after, stopped, houtput, hall, hrun⟩ := Settings.run_of_no_refusal hrefusal
      rw [hrun]
      cases stopped with
      | none =>
          refine ⟨⟨?_, ?_⟩, ?_⟩
          · rintro ⟨error, herror⟩
            cases herror
          · rintro ⟨found, hfound, herror⟩
            exact absurd herror (severity_ne_error_of_handleAll hall hfound)
          · intro error herror
            cases herror
      | some stop =>
          obtain ⟨handled, rest, declaration, group, failure, before, hsplit, rfl, hstops⟩ :=
            RunState.stopsAt_of_handleAll hall
          have hstart : (RunState.start files).IsQuiet := nofun
          have hwarnings : ∀ found ∈ (loadProject files settings.source).warnings,
              found.severity ≠ .error := fun _ => severity_ne_error_of_mem_warnings
          have hends := hstops.endsWithError hstart hwarnings
          refine ⟨⟨fun _ => exists_error_of_endsWithError hends, fun _ => ⟨_, rfl⟩⟩, ?_⟩
          intro error herror
          obtain rfl := Except.error.inj herror
          refine ⟨hends, ?_, ?_⟩
          · rintro (hunset | ⟨path, hmissing⟩)
            · cases hunset
            · cases hmissing
          · intro path found hwrite
            obtain ⟨rfl, rfl⟩ := RunError.write.inj hwrite
            exact ⟨output, handled, rest, declaration, group, before, after, houtput, rfl, hsplit,
              hstops, hstops.files, rfl⟩

/-- A file tree with a source that declares two event groups, and with a directory where the
artifact of the second one belongs. -/
def blockedFiles : FileTree :=
  let sources := ((FileTree.workspace "work").makeDirectory "src").put ["work", "src", "lib.rs"]
    (.file (.text
      "#[auto_analytics_event]\nenum Life { Start }\n#[auto_analytics_event]\nenum Stop { Now }\n"))
  sources.makeDirectory "out/auto_analytics_stop.rs"

/-- A run over that file tree stops at the second declaration: it ends with the only error that it
tells, and leaves the artifact of the first declaration behind. -/
theorem error_of_blockedFiles :
    let outcome := (Settings.ofDirectories "src" "out").run blockedFiles
    outcome.result = .error (.write "out/auto_analytics_stop.rs" .isDirectory) ∧
      EndsWithError outcome.diagnostics
        (RunError.write "out/auto_analytics_stop.rs" .isDirectory).message ∧
      (outcome.files.read? "out/auto_analytics_life.rs").isSome = true := by
  have hresult : ((Settings.ofDirectories "src" "out").run blockedFiles).result =
      .error (.write "out/auto_analytics_stop.rs" .isDirectory) := by decide +kernel
  obtain ⟨-, herror⟩ := error_of_run (Settings.ofDirectories "src" "out") blockedFiles
  exact ⟨hresult, (herror _ hresult).1, by decide +kernel⟩

end EventTracking
