import EventTracking.Listing
import EventTracking.Proofs.GivenUpRun

/-!
# Listing and generating

The groups of a project can be listed without generating anything. A run looks at the same
declarations in the same order, but between two of them it skips, hands over files and writes. Yet
it does to the files what generating the artifacts of the listed groups one after the other does,
and whatever else it does shows in nothing but the skipped declarations and the findings about all
of them.

Main statements: handling declarations generates what the groups that they make generate
(`generateAll_generated`) and else tells the findings about them (`discovering_handleAll`), each
skipped declaration is the subject of one warning (`forall₂_skipWarnings`), and the listing of a
group names the file of its artifact (`listedFiles_groups`).
-/

namespace EventTracking

open Code Text

/-! ## Generating without discovery -/

namespace RunState

variable {state after : RunState} {output : Encoded} {runtime : String}
  {declaration : Declaration} {declarations : List Declaration}

/-- Generates the artifact of a group, hands the group its file and writes the artifact there. -/
@[irreducible] def generate (state : RunState) (output : Encoded) (runtime : String)
    (group : EventGroup) :
    RunState × Option RunError :=
  (state.assign output group group.fileName).writeArtifact output (group.artifact runtime)

/-- Generates the artifacts of groups in order, up to the first error. -/
def generateAll (state : RunState) (output : Encoded) (runtime : String) :
    List EventGroup → RunState × Option RunError
  | [] => (state, none)
  | group :: rest =>
    match state.generate output runtime group with
    | (after, none) => after.generateAll output runtime rest
    | (after, some error) => (after, some error)

/-- What generating has done to a run: nothing is skipped, and nothing is told but by the generating
step. -/
def generated (state : RunState) : RunState where
  files := state.files
  report := { state.report with skipped := [] }
  owners := state.owners
  diagnostics := generating state.diagnostics

/-- The diagnostics of the generating step are found one list after the other. -/
theorem generating_append (diagnostics more : List Diagnostic) :
    generating (diagnostics ++ more) = generating diagnostics ++ generating more :=
  List.filter_append _ _

/-- The findings about a declaration are not generated. -/
theorem generated_saying (state : RunState) (declaration : Declaration) :
    (state.saying declaration.findings).generated = state.generated := by
  simp only [generated, saying, generating_append, generating_findings, List.append_nil]

/-- Skipping generates nothing. -/
theorem generated_skip (state : RunState) (name : QualifiedName) (reason : Skip) :
    (state.skip name reason).generated = state.generated := rfl

/-- Handing a file to a group belongs to generating. -/
theorem generated_assign (state : RunState) (output : Encoded) (group : EventGroup)
    (file : String) :
    (state.assign output group file).generated = state.generated.assign output group file := by
  have howner : state.generated.owner? file = state.owner? file := rfl
  unfold assign
  dsimp only
  rw [howner]
  cases state.owner? file with
  | none => rfl
  | some previous =>
      -- a takeover is told by the generating step
      simp only [generated, generating_append]
      rfl

/-- Writing an artifact belongs to generating, whether it succeeds or not. -/
theorem generated_writeArtifact (state : RunState) (output : Encoded) (artifact : Artifact) :
    state.generated.writeArtifact output artifact =
      (state.writeArtifact output artifact).map generated id := by
  have hfiles : state.generated.files = state.files := rfl
  unfold writeArtifact
  dsimp only
  rw [hfiles]
  split
  · rfl
  · cases state.files.write (output.join artifact.fileName) artifact.contents with
    | ok files => rfl
    | error failure =>
        simp only [Prod.map, generated, saying, generating_append]
        rfl

/-- Handling a declaration that makes a group generates the artifact of the group. -/
theorem generate_generated {group : EventGroup} (h : declaration.toGroup = .ok group) :
    state.generated.generate output runtime group =
      (state.handle output runtime declaration).map generated id := by
  -- the equation of `generate` would be checked by running it
  delta generate
  rw [handle_of_ok h, ← generated_writeArtifact, generated_assign, generated_saying]

/-- Handling declarations generates the artifacts of the groups that they make, in order. -/
theorem generateAll_generated (state : RunState) (output : Encoded) (runtime : String)
    (declarations : List Declaration) :
    state.generated.generateAll output runtime (declarations.filterMap Declaration.group?) =
      (state.handleAll output runtime declarations).map generated id := by
  induction declarations generalizing state with
  | nil => rfl
  | cons first rest ih =>
      cases hgroup : first.toGroup with
      | error reason =>
          have hnone : first.group? = none := by
            rw [Declaration.group?, hgroup]
            rfl
          have hkept : ((state.saying first.findings).skip first.name reason).generated =
              state.generated := by
            rw [generated_skip, generated_saying]
          rw [List.filterMap_cons_none hnone, handleAll, handle_of_error hgroup, ← ih, hkept]
      | ok group =>
          have hsome : first.group? = some group := Declaration.group?_eq_some_iff.2 hgroup
          have hstep : state.generated.generate output runtime group =
              (state.handle output runtime first).map generated id := generate_generated hgroup
          rw [List.filterMap_cons_some hsome]
          rw [generateAll, handleAll]
          -- what the step does is irrelevant here, only that both runs take it
          generalize state.handle output runtime first = handled at hstep ⊢
          generalize state.generated.generate output runtime group = made at hstep ⊢
          obtain ⟨next, stopped⟩ := handled
          subst hstep
          cases stopped with
          | none => exact ih next
          | some error => rfl

/-! ## What is told apart from generating -/

/-- The diagnostics without the warnings of the generating step. -/
def discovering (diagnostics : List Diagnostic) : List Diagnostic :=
  diagnostics.filter fun diagnostic =>
    decide ¬(diagnostic.step = .generate ∧ diagnostic.severity = .warning)

/-- What discovery finds out about a declaration is kept. -/
theorem discovering_findings (declaration : Declaration) :
    discovering declaration.findings = declaration.findings := by
  rw [discovering, List.filter_eq_self]
  intro finding hfinding
  rw [decide_eq_true_eq]
  exact fun h => Declaration.step_ne_generate_of_mem_findings hfinding h.1

/-- The warning of a takeover is left out. -/
theorem discovering_takeover (state : RunState) (group : EventGroup) :
    discovering (state.takeover group) = [] := by
  rw [discovering, List.filter_eq_nil_iff]
  intro found hfound
  rw [takeover, Option.mem_toList] at hfound
  obtain ⟨previous, -, rfl⟩ := Option.map_eq_some_iff.1 hfound
  simp [takeoverWarning, Diagnostic.located]

/-- Handling a declaration tells the findings about it, apart from generating. -/
theorem discovering_handle (h : state.handle output runtime declaration = (after, none)) :
    discovering after.diagnostics = discovering state.diagnostics ++ declaration.findings := by
  cases hgroup : declaration.toGroup with
  | error reason =>
      rw [handle_of_error hgroup] at h
      obtain ⟨rfl, -⟩ := Prod.mk.inj h
      have htold : ((state.saying declaration.findings).skip declaration.name reason).diagnostics =
          state.diagnostics ++ declaration.findings := rfl
      rw [htold, discovering, List.filter_append, ← discovering, ← discovering,
        discovering_findings]
  | ok group =>
      rw [handle_of_ok hgroup] at h
      obtain ⟨-, htold, -⟩ := writeArtifact_eq_none h
      rw [htold, diagnostics_assign_saying, discovering, List.filter_append, List.filter_append,
        ← discovering, ← discovering, ← discovering, discovering_findings, discovering_takeover,
        List.append_nil]

/-- Handling declarations tells the findings about them in order, apart from generating. -/
theorem discovering_handleAll {files : FileTree}
    (h : (RunState.start files).handleAll output runtime declarations = (after, none)) :
    discovering after.diagnostics = declarations.flatMap Declaration.findings := by
  refine handleAll_induction
    (P := fun handled state =>
      discovering state.diagnostics = handled.flatMap Declaration.findings) rfl ?_ h
  intro handled declaration before after _ hbefore hstep
  rw [discovering_handle hstep, hbefore, List.flatMap_append, List.flatMap_singleton]

end RunState

/-! ## Skipped declarations -/

namespace Declaration

/-- Whether a declaration makes no group. -/
def isSkipped (declaration : Declaration) : Bool := declaration.group?.isNone

/-- A diagnostic is the warning that a declaration is skipped, and is located where the declaration
is marked. -/
structure IsSkippedBy (declaration : Declaration) (warning : Diagnostic) : Prop where
  /-- The declaration is skipped, and the diagnostic says why. -/
  reason : ∃ skip, declaration.toGroup = .error skip ∧ warning = declaration.skipWarning skip
  /-- The diagnostic is about the file of the declaration. -/
  file : warning.file = some declaration.location.file
  /-- The diagnostic is about the line on which the declaration is marked. -/
  line : warning.line = some declaration.location.line

/-- The warning that a declaration is skipped is located at the declaration. -/
theorem isSkippedBy_skipWarning {declaration : Declaration} {skip : Skip}
    (h : declaration.toGroup = .error skip) :
    declaration.IsSkippedBy (declaration.skipWarning skip) where
  reason := ⟨skip, h, rfl⟩
  file := by cases skip <;> rfl
  line := by cases skip <;> rfl

/-- There is no warning among the notes about members. -/
theorem warnings_notes (declaration : Declaration) :
    Diagnostic.ofSeverity .warning declaration.notes = [] := by
  rw [Diagnostic.ofSeverity, List.filter_eq_nil_iff]
  intro note hnote
  obtain ⟨member, -, hmember⟩ := List.mem_filterMap.1 hnote
  rw [severity_of_note? hmember]
  decide

/-- A declaration that makes a group is the subject of no warning. -/
theorem warnings_of_group {declaration : Declaration} {group : EventGroup}
    (h : declaration.toGroup = .ok group) :
    Diagnostic.ofSeverity .warning declaration.findings = [] := by
  rw [findings_of_group h, warnings_notes]

/-- A skipped declaration is the subject of a single warning. -/
theorem warnings_of_skipped {declaration : Declaration} {skip : Skip}
    (h : declaration.toGroup = .error skip) :
    Diagnostic.ofSeverity .warning declaration.findings = [declaration.skipWarning skip] := by
  have hself (skip : Skip) : Diagnostic.ofSeverity .warning [declaration.skipWarning skip] =
      [declaration.skipWarning skip] := by
    rw [Diagnostic.ofSeverity, List.filter_singleton, severity_skipWarning]
    rfl
  rw [findings]
  cases hineligible : declaration.ineligible? with
  | some found =>
      rw [toGroup, hineligible] at h
      obtain rfl := Except.error.inj h
      exact hself found
  | none =>
      rw [toGroup_of_eligible hineligible] at h
      split at h
      · rename_i hempty
        obtain rfl := Except.error.inj h
        dsimp only
        rw [if_pos hempty, Diagnostic.ofSeverity, List.filter_append, ← Diagnostic.ofSeverity,
          ← Diagnostic.ofSeverity, warnings_notes, hself, List.nil_append]
      · cases h

end Declaration

/-- The skipped declarations of a list and the warnings among the findings about the list are in
order those of each other. -/
theorem forall₂_skipWarnings (declarations : List Declaration) :
    List.Forall₂ Declaration.IsSkippedBy (declarations.filter Declaration.isSkipped)
      (Diagnostic.ofSeverity .warning (declarations.flatMap Declaration.findings)) := by
  induction declarations with
  | nil => exact .nil
  | cons first rest ih =>
      rw [List.flatMap_cons, Diagnostic.ofSeverity, List.filter_append, ← Diagnostic.ofSeverity,
        ← Diagnostic.ofSeverity, List.filter_cons, Declaration.isSkipped]
      cases hgroup : first.toGroup with
      | error skip =>
          rw [Declaration.warnings_of_skipped hgroup, Declaration.group?, hgroup]
          exact .cons (Declaration.isSkippedBy_skipWarning hgroup) ih
      | ok group =>
          rw [Declaration.warnings_of_group hgroup, Declaration.group?, hgroup]
          exact ih

/-- The entries for skipped declarations are in order those of the declarations that make no
group. -/
theorem forall₂_skipped (declarations : List Declaration) :
    List.Forall₂
      (fun declaration entry => entry.1 = declaration.name ∧ declaration.toGroup = .error entry.2)
      (declarations.filter Declaration.isSkipped)
      (declarations.filterMap Declaration.skipped?) := by
  induction declarations with
  | nil => exact .nil
  | cons first rest ih =>
      rw [List.filter_cons, Declaration.isSkipped, List.filterMap_cons, Declaration.skipped?]
      cases hgroup : first.toGroup with
      | error skip =>
          rw [Declaration.group?, hgroup]
          exact .cons ⟨rfl, hgroup⟩ ih
      | ok group =>
          rw [Declaration.group?, hgroup]
          exact ih

/-- Every declaration makes a group or is skipped. -/
theorem length_groups_add_length_skipped (declarations : List Declaration) :
    (declarations.filterMap Declaration.group?).length +
      (declarations.filterMap Declaration.skipped?).length = declarations.length := by
  induction declarations with
  | nil => rfl
  | cons first rest ih =>
      rw [List.filterMap_cons, List.filterMap_cons, Declaration.group?, Declaration.skipped?]
      cases first.toGroup with
      | error skip => exact congrArg Nat.succ ih
      | ok group =>
          rw [List.length_cons, ← ih]
          exact Nat.succ_add _ _

/-! ## Listed files -/

/-- What follows the last occurrence of a character in a text. -/
def Text.afterLast (c : Char) (text : String) : String :=
  String.ofList (text.toList.reverse.takeWhile (· != c)).reverse

/-- What has been put behind the character follows its last occurrence. -/
theorem Text.afterLast_append {c : Char} {front back : String}
    (hfront : front.toList.getLast? = some c) (hback : c ∉ back.toList) :
    afterLast c (front ++ back) = back := by
  obtain ⟨start, hstart⟩ := List.getLast?_eq_some_iff.1 hfront
  have hall : ∀ d ∈ back.toList.reverse, (d != c) = true := by
    intro d hd
    rw [bne_iff_ne]
    rintro rfl
    exact hback (List.mem_reverse.1 hd)
  have hstop : (c :: start.reverse).takeWhile (· != c) = [] := by
    rw [List.takeWhile_cons_of_neg]
    rw [bne_self_eq_false]
    exact Bool.false_ne_true
  rw [afterLast, String.toList_append, hstart, List.reverse_append, List.reverse_concat,
    List.takeWhile_append_of_pos hall, hstop, List.append_nil, List.reverse_reverse,
    String.ofList_toList]

/-- The name at the end of a path. -/
def Text.Encoded.lastName (path : Encoded) : Encoded := path.parts.getLast path.parts_ne_nil

/-- A path to a plain name in a directory ends in the name. -/
theorem Text.Encoded.lastName_join {base name : Encoded} (hb : base.isEmpty = false)
    (h : name.IsPlain) : (base.join name).lastName = name := by
  have hlast : (base.join name).parts.getLast? = some name := by
    rcases parts_join hb h with hparts | ⟨front, -, hparts⟩ <;>
      rw [hparts, List.getLast?_concat]
  rw [List.getLast?_eq_some_getLast (parts_ne_nil _)] at hlast
  exact Option.some.inj hlast

namespace EventGroup

/-- The file that the listing of a group names: what stands at the end of its second line. -/
def listedFile? (group : EventGroup) : Option String :=
  group.listingLines[1]?.map (afterLast ' ')

/-- The listing of a group that is named after a word names the file of its artifact. -/
theorem listedFile?_of_isWord {group : EventGroup} (h : isWord group.name.simple.toList = true) :
    group.listedFile? = some group.fileName := by
  have hsnake : ' ' ∉ (snakeName group.name).toList :=
    notMem_snakeCase (by decide) (by decide) (notMem_of_isWord h (by decide) (by decide))
  have hfile : ' ' ∉ group.fileName.toList := by
    rw [fileName, artifactFile, String.toList_append, String.toList_append, List.mem_append,
      List.mem_append, not_or, not_or]
    exact ⟨⟨by decide, hsnake⟩, by decide⟩
  have hline : group.listingLines[1]? =
      some ("  " ++ trackingFunction group.name ++ " -> " ++ group.fileName) := rfl
  rw [listedFile?, hline, Option.map_some, afterLast_append _ hfile]
  rw [String.toList_append, List.getLast?_append_of_ne_nil _ (by decide)]
  rfl

end EventGroup

/-- The files that the listings of some groups name. -/
def listedFiles (groups : List EventGroup) : List String :=
  groups.filterMap EventGroup.listedFile?

/-- The listings of a project's groups name the files of their artifacts. -/
theorem listedFiles_groups (project : Project) :
    listedFiles project.groups = project.groups.map EventGroup.fileName := by
  rw [listedFiles, ← List.filterMap_eq_map]
  refine List.filterMap_congr ?_
  intro group hgroup
  obtain ⟨identifier, hidentifier⟩ := Project.exists_simple_eq_text hgroup
  refine EventGroup.listedFile?_of_isWord ?_
  rw [hidentifier]
  exact identifier.isWord_text

/-! ## A run and a listing -/

/-- A run that ends without an error has done what generating the artifacts of the listed groups one
after the other does. But for the warnings of the generating step it has told what the listing
tells, its report has the artifacts of the files that the listing names, and each declaration that
is not listed has one entry in the report and one warning at its own place. -/
theorem agrees_with_listing {project : Project} {output : Encoded} {runtime : String}
    {files : FileTree} {outcome : RunOutcome} {report : Report}
    (hrun : writeArtifacts project output runtime files = outcome)
    (hok : outcome.result = .ok report) :
    (∃ owners, (RunState.start files).generateAll output runtime project.groups =
        (⟨outcome.files, { report with skipped := [] }, owners, generating outcome.diagnostics⟩,
          none)) ∧
      RunState.discovering outcome.diagnostics = project.findings ∧
      (∀ file, file ∈ (listedFiles project.groups).map Encoded.text ↔
        file ∈ (report.writtenPaths ++ report.unchangedPaths).map Encoded.lastName) ∧
      project.declarations.length = project.groups.length + report.skipped.length ∧
      List.Forall₂
        (fun declaration entry =>
          entry.1 = declaration.name ∧ declaration.toGroup = .error entry.2)
        (project.declarations.filter Declaration.isSkipped) report.skipped ∧
      List.Forall₂ Declaration.IsSkippedBy (project.declarations.filter Declaration.isSkipped)
        (Diagnostic.ofSeverity .warning project.findings) := by
  obtain ⟨hisdir, state, hall, rfl, rfl⟩ := writeArtifacts_eq_ok_iff.1 ⟨hrun, hok⟩
  have hreflects := RunState.Reflects.of_handleAll hisdir List.prefix_rfl hall
  have houtput : output.isEmpty = false := isEmpty_of_isDirectory hisdir
  have hname : ∀ group ∈ project.groups, (group.path output).lastName = group.fileName :=
    fun group hgroup => Encoded.lastName_join houtput
      (Encoded.isPlain_text.2 (EventGroup.isPlain_fileName hgroup))
  have hgenerated : (RunState.start files).generateAll output runtime project.groups =
      (state.generated, none) := by
    have hstart : (RunState.start files).generated = RunState.start files := rfl
    have h := RunState.generateAll_generated (RunState.start files) output runtime
      project.declarations
    rwa [hstart, hall] at h
  refine ⟨⟨state.owners, hgenerated⟩, RunState.discovering_handleAll hall, ?_, ?_, ?_,
    forall₂_skipWarnings _⟩
  · intro file
    rw [listedFiles_groups, List.map_map, List.mem_map, List.mem_map]
    constructor
    · rintro ⟨group, hgroup, rfl⟩
      exact ⟨group.path output, (hreflects.listed _).2 ⟨group, hgroup, rfl⟩, hname group hgroup⟩
    · rintro ⟨path, hpath, rfl⟩
      obtain ⟨group, hgroup, rfl⟩ := (hreflects.listed _).1 hpath
      exact ⟨group, hgroup, (hname group hgroup).symm⟩
  · rw [hreflects.skipped]
    exact (length_groups_add_length_skipped _).symm
  · rw [hreflects.skipped]
    exact forall₂_skipped _

/-- Two groups with one file are both listed, while the report has that file once. The struct is
skipped with one warning. -/
theorem twins_agrees_with_listing :
    ∃ report : Report,
      (writeArtifacts twins "out" defaultRuntime staleFiles).result = .ok report ∧
        (∀ file, file ∈ (listedFiles twins.groups).map Encoded.text ↔
          file ∈ (report.writtenPaths ++ report.unchangedPaths).map Encoded.lastName) ∧
        twins.groups.length = 2 ∧ report.paths.length = 1 ∧
        twins.declarations.length = twins.groups.length + report.skipped.length ∧
        (twins.declarations.filter Declaration.isSkipped).length =
          (Diagnostic.ofSeverity .warning twins.findings).length := by
  have hresult : (writeArtifacts twins "out" defaultRuntime staleFiles).result =
      .ok ⟨["out/auto_analytics_life.rs"], [],
        [(⟨["crate", "Other"]⟩, .notClosed "struct")]⟩ := by decide +kernel
  obtain ⟨-, -, hfiles, hcount, -, hwarned⟩ := agrees_with_listing rfl hresult
  exact ⟨_, hresult, hfiles, rfl, rfl, hcount, hwarned.length_eq⟩

end EventTracking
