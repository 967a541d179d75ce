import EventTracking.Proofs.FileOwners

/-!
# What a run leaves behind

A run handles the declarations of a project one after the other. Several of its groups may have the
same file name; then each of them writes the file in turn and takes it over from the one before.
Links and files with two names may bring other groups to the same file too; these write it in turn
without a word.

A run that ends without an error leaves at every artifact path what the last of its groups whose
path leads to that file generates, and touches no other file. Its report lists every artifact once
and every skipped declaration, and the warnings of the generating step are those of the takeovers.

Each of these facts holds of the declarations handled so far at every moment of the run
(`RunState.Reflects`); handling one more declaration keeps them (`Reflects.handle`), so they hold
when all are handled (`Reflects.handleAll`).
-/

namespace EventTracking

open Code Text

/-! ## What one step does -/

/-- The paths of all artifacts in a report. -/
def Report.paths (report : Report) : List Encoded := report.writtenPaths ++ report.unchangedPaths

namespace RunState

/-- An artifact that is handled without an error stands in its file, either found there or written
now, and comes last in one of the two lists of the report. -/
theorem writeArtifact_eq_none {state after : RunState} {output : Encoded} {artifact : Artifact}
    (h : state.writeArtifact output artifact = (after, none)) :
    after.owners = state.owners ∧ after.diagnostics = state.diagnostics ∧
      after.report.skipped = state.report.skipped ∧
      after.report.paths.Perm (output.join artifact.fileName :: state.report.paths) ∧
      (state.files.read? (output.join artifact.fileName) = some artifact.contents ∧
          after.files = state.files ∨
        state.files.write (output.join artifact.fileName) artifact.contents = .ok after.files) := by
  unfold writeArtifact at h
  dsimp only at h
  split at h
  · rename_i hread
    obtain ⟨rfl, -⟩ := Prod.mk.inj h
    refine ⟨rfl, rfl, rfl, ?_, .inl ⟨hread, rfl⟩⟩
    rw [Report.paths, ← List.append_assoc]
    exact List.perm_append_singleton _ _
  · split at h
    · cases h
    · rename_i files hwrite
      obtain ⟨rfl, -⟩ := Prod.mk.inj h
      refine ⟨rfl, rfl, rfl, ?_, .inr hwrite⟩
      rw [Report.paths, List.append_assoc, List.singleton_append]
      exact List.perm_middle

/-- Handing a file to a group changes no file. -/
@[simp] theorem files_assign (state : RunState) (output : Encoded) (group : EventGroup)
    (file : String) : (state.assign output group file).files = state.files := by
  unfold assign
  dsimp only
  split <;> rfl

/-- Handing a file to a group skips nothing. -/
@[simp] theorem skipped_assign (state : RunState) (output : Encoded) (group : EventGroup)
    (file : String) :
    (state.assign output group file).report.skipped = state.report.skipped := by
  unfold assign
  dsimp only
  split <;> rfl

/-- Handing a file to a group makes the group its latest owner. -/
@[simp] theorem owners_assign (state : RunState) (output : Encoded) (group : EventGroup)
    (file : String) :
    (state.assign output group file).owners = (file, group.name) :: state.owners := by
  unfold assign
  dsimp only
  split <;> rfl

/-- A file belongs to the group that it was handed to last. -/
theorem owner?_assign (state : RunState) (output : Encoded) (group : EventGroup)
    (file other : String) :
    (state.assign output group file).owner? other =
      if file = other then some group.name else state.owner? other := by
  rw [owner?, owners_assign, Ordered.find?, List.find?_cons]
  by_cases h : file = other
  · rw [if_pos h, decide_eq_true h]
    rfl
  · rw [if_neg h, decide_eq_false h]
    rfl

/-- Handing a file to a group is warned of exactly if the file belongs to another one. -/
theorem diagnostics_assign (state : RunState) (output : Encoded) (group : EventGroup)
    (file : String) :
    (state.assign output group file).diagnostics =
      state.diagnostics ++
        ((state.owner? file).map fun previous => takeoverWarning group previous file).toList := by
  unfold assign
  dsimp only
  split
  · rename_i h
    rw [h, Option.map_none, Option.toList_none, List.append_nil]
  · rename_i previous h
    rw [h, Option.map_some, Option.toList_some]

/-- The path of a file that is handed to a group leaves the report if the file belonged to another
group. -/
theorem report_assign (state : RunState) (output : Encoded) (group : EventGroup) (file : String) :
    (state.assign output group file).report =
      if (state.owner? file).isSome then state.report.without (output.join file)
      else state.report := by
  unfold assign
  dsimp only
  split
  · rename_i h
    rw [h, Option.isSome_none, if_neg Bool.false_ne_true]
  · rename_i previous h
    rw [h, Option.isSome_some, if_pos rfl]

/-- The path of a file that is handed to a group is no longer listed if the file belonged to another
group. -/
theorem paths_assign (state : RunState) (output : Encoded) (group : EventGroup) (file : String) :
    (state.assign output group file).report.paths =
      if (state.owner? file).isSome then
        state.report.paths.filter (· != output.join file)
      else state.report.paths := by
  rw [report_assign]
  split
  · rw [Report.paths, Report.paths, List.filter_append]
    rfl
  · rfl

/-! ## Declarations one after the other -/

section

variable {state before after : RunState} {output : Encoded} {runtime : String}
  {declarations handled rest : List Declaration}

/-- Declarations that come after others are handled from the state that these have led to. -/
theorem handleAll_append (h : state.handleAll output runtime handled = (before, none))
    (rest : List Declaration) :
    state.handleAll output runtime (handled ++ rest) = before.handleAll output runtime rest := by
  induction handled generalizing state with
  | nil =>
      obtain ⟨rfl, -⟩ := Prod.mk.inj h
      rfl
  | cons first others ih =>
      rw [List.cons_append, handleAll]
      rw [handleAll] at h
      split at h
      · exact ih h
      · cases h

/-- Declarations that are handled without an error are so too if others come after them. -/
theorem exists_handleAll_of_append
    (h : state.handleAll output runtime (handled ++ rest) = (after, none)) :
    ∃ before, state.handleAll output runtime handled = (before, none) := by
  induction handled generalizing state with
  | nil => exact ⟨state, rfl⟩
  | cons first others ih =>
      rw [List.cons_append, handleAll] at h
      rw [handleAll]
      split at h
      · exact ih h
      · cases h

/-- What holds when nothing is handled, and is kept whenever one more of the declarations is handled
without an error, holds when all are handled without an error. -/
theorem handleAll_induction {P : List Declaration → RunState → Prop} (hstart : P [] state)
    (hstep : ∀ handled declaration before after, handled ++ [declaration] <+: declarations →
      P handled before → before.handle output runtime declaration = (after, none) →
      P (handled ++ [declaration]) after)
    (hrun : state.handleAll output runtime declarations = (after, none)) :
    P declarations after := by
  induction declarations using List.reverseRecOn generalizing after with
  | nil =>
      obtain ⟨rfl, -⟩ := Prod.mk.inj hrun
      exact hstart
  | append_singleton front last ih =>
      obtain ⟨before, hbefore⟩ := exists_handleAll_of_append hrun
      have hfront : P front before := by
        refine ih ?_ hbefore
        intro handled declaration state after hinitial
        exact hstep handled declaration state after (hinitial.trans (List.prefix_append _ _))
      rw [handleAll_append hbefore, handleAll] at hrun
      split at hrun
      · rename_i next hnext
        obtain ⟨rfl, -⟩ := Prod.mk.inj hrun
        exact hstep front last before next List.prefix_rfl hfront hnext
      · cases hrun

end

end RunState

/-! ## The files during a run -/

/-- The file tree `files` is what writing the artifacts of some groups makes of the tree `before`:
the same directories and links are there on the same file system, all places that an artifact path
reaches hold what the last group generates whose path leads to that file, and all other places are
as they were. -/
structure ArtifactsWritten (before files : FileTree) (output : Encoded) (runtime : String)
    (groups : List EventGroup) : Prop where
  /-- The file system is the same. -/
  system : files.system = before.system
  /-- The directories and links are the same. -/
  ways : before.SameWays files
  /-- The artifact paths lead somewhere. -/
  leads : ∀ group ∈ groups, ∃ place, before.locate? (group.path output) = some place
  /-- The places that an artifact path reaches hold what the last group with that file generates. -/
  reached : ∀ group ∈ groups, ∀ last,
    lastWriter? before output (group.path output) groups = some last →
      ∀ place, before.Reaches (group.path output) place →
        files.get? place = some (.file (.text (last.artifact runtime).contents))
  /-- All other places are as they were. -/
  others : ∀ place, (∀ group ∈ groups, ¬ before.Reaches (group.path output) place) →
    files.get? place = before.get? place

namespace ArtifactsWritten

variable {before files after : FileTree} {output : Encoded} {runtime : String}
  {groups : List EventGroup} {group : EventGroup} {place : Place}

/-- Before any group is handled nothing has been written. -/
theorem nil (before : FileTree) (output : Encoded) (runtime : String) :
    ArtifactsWritten before before output runtime [] where
  system := rfl
  ways := .refl before
  leads := nofun
  reached := nofun
  others _ _ := rfl

/-- The places that an artifact path reaches hold what one of the groups generates. -/
theorem exists_reached (h : ArtifactsWritten before files output runtime groups)
    (hgroup : group ∈ groups) :
    ∃ last, lastWriter? before output (group.path output) groups = some last ∧
      ∀ place, before.Reaches (group.path output) place →
        files.get? place = some (.file (.text (last.artifact runtime).contents)) := by
  obtain ⟨last, hlast⟩ : ∃ last, lastWriter? before output (group.path output) groups = some last :=
    exists_lastWith? hgroup rfl
  exact ⟨last, hlast, h.reached group hgroup last hlast⟩

/-- Where a file stood, a file stands. -/
theorem exists_file (h : ArtifactsWritten before files output runtime groups)
    (hfile : ∃ content, before.get? place = some (.file content)) :
    ∃ content, files.get? place = some (.file content) := by
  by_cases hreached : ∃ group ∈ groups, before.Reaches (group.path output) place
  · obtain ⟨group, hgroup, hreaches⟩ := hreached
    obtain ⟨last, -, hheld⟩ := h.exists_reached hgroup
    exact ⟨_, hheld place hreaches⟩
  · rw [h.others place fun group hgroup hreaches => hreached ⟨group, hgroup, hreaches⟩]
    exact hfile

/-- A path still reaches what it reached. -/
theorem reaches (h : ArtifactsWritten before files output runtime groups) {path : Encoded}
    (hreaches : before.Reaches path place) : files.Reaches path place := by
  rcases hreaches with hlocate | ⟨hfile, hsame⟩
  · exact .inl ((h.ways.locate? path).trans hlocate)
  · refine .inr ⟨h.exists_file hfile, ?_⟩
    rw [h.ways.fileAt? h.system, h.system, hsame]

/-- If one more artifact is stored, it has been written too. -/
theorem concat (h : ArtifactsWritten before files output runtime groups)
    (hstores : files.Stores after (group.path output) (group.artifact runtime).contents) :
    ArtifactsWritten before after output runtime (groups ++ [group]) where
  system := hstores.system.trans h.system
  ways := h.ways.trans hstores.ways
  leads := by
    intro found hfound
    rcases List.mem_append.1 hfound with hbefore | hnew
    · exact h.leads found hbefore
    · obtain ⟨place, hplace⟩ := hstores.leads
      rw [List.mem_singleton.1 hnew, ← h.ways.locate?]
      exact ⟨place, hplace⟩
  reached := by
    intro found hfound last hlast place hreaches
    rw [lastWriter?, lastWith?_concat, EventGroup.file?] at hlast
    rcases List.mem_append.1 hfound with hbefore | hnew
    · obtain ⟨owner, howner, hheld⟩ := h.exists_reached hbefore
      split at hlast
      · -- the paths of the two groups lead to the same file, which now holds the new artifact
        rename_i hsame
        obtain rfl := Option.some.inj hlast
        refine hstores.reached place (.inr ⟨⟨_, hheld place hreaches⟩, ?_⟩)
        rw [h.ways.fileAt? h.system, h.system, hsame, hreaches.fileAt?]
      · rename_i hother
        rw [hstores.others]
        · exact h.reached found hbefore last hlast place hreaches
        · intro hagain
          have hfile := hagain.fileAt?
          rw [h.ways.fileAt? h.system, h.system, ← hreaches.fileAt?] at hfile
          exact hother hfile
    · obtain rfl := List.mem_singleton.1 hnew
      rw [if_pos rfl] at hlast
      obtain rfl := Option.some.inj hlast
      exact hstores.reached place (h.reaches hreaches)
  others := by
    intro place hplace
    have hfront : files.get? place = before.get? place :=
      h.others place fun found hf => hplace found (List.mem_append_left _ hf)
    rw [← hfront]
    apply hstores.others
    -- what the path reaches now it reached before, as the place has not changed
    rintro (hlocate | ⟨hfile, hsame⟩)
    · exact hplace group (List.mem_append_right _ (List.mem_singleton_self group))
        (.inl ((h.ways.locate? _).symm.trans hlocate))
    · rw [hfront] at hfile
      rw [h.ways.fileAt? h.system, h.system] at hsame
      exact hplace group (List.mem_append_right _ (List.mem_singleton_self group))
        (.inr ⟨hfile, hsame⟩)

/-- An artifact that is found in its file or written there has been written. -/
theorem writeArtifact (h : ArtifactsWritten before files output runtime groups)
    (hstep : files.read? (group.path output) = some (group.artifact runtime).contents ∧
        after = files ∨
      files.write (group.path output) (group.artifact runtime).contents = .ok after) :
    ArtifactsWritten before after output runtime (groups ++ [group]) := by
  rcases hstep with ⟨hread, rfl⟩ | hwrite
  · exact h.concat (FileTree.stores_of_read? hread)
  · exact h.concat (FileTree.stores_of_write hwrite)

end ArtifactsWritten

/-! ## The state during a run -/

/-- The name of a declaration that makes no group, and why it makes none. -/
def Declaration.skipped? (declaration : Declaration) : Option (QualifiedName × Skip) :=
  match declaration.toGroup with
  | .ok _ => none
  | .error reason => some (declaration.name, reason)

/-- A declaration that makes a group adds it to the groups. -/
theorem groups_concat_of_ok {declaration : Declaration} {group : EventGroup}
    (h : declaration.toGroup = .ok group) (handled : List Declaration) :
    (handled ++ [declaration]).filterMap Declaration.group? =
      handled.filterMap Declaration.group? ++ [group] := by
  simp [List.filterMap_append, Declaration.group?, h, Except.toOption]

/-- A declaration that makes no group leaves the groups as they are. -/
theorem groups_concat_of_error {declaration : Declaration} {reason : Skip}
    (h : declaration.toGroup = .error reason) (handled : List Declaration) :
    (handled ++ [declaration]).filterMap Declaration.group? =
      handled.filterMap Declaration.group? := by
  simp [List.filterMap_append, Declaration.group?, h, Except.toOption]

/-- A declaration that makes a group is not among the skipped ones. -/
theorem skipped_concat_of_ok {declaration : Declaration} {group : EventGroup}
    (h : declaration.toGroup = .ok group) (handled : List Declaration) :
    (handled ++ [declaration]).filterMap Declaration.skipped? =
      handled.filterMap Declaration.skipped? := by
  simp [List.filterMap_append, Declaration.skipped?, h]

/-- A declaration that makes no group is skipped for that reason. -/
theorem skipped_concat_of_error {declaration : Declaration} {reason : Skip}
    (h : declaration.toGroup = .error reason) (handled : List Declaration) :
    (handled ++ [declaration]).filterMap Declaration.skipped? =
      handled.filterMap Declaration.skipped? ++ [(declaration.name, reason)] := by
  simp [List.filterMap_append, Declaration.skipped?, h]

/-- The diagnostics of the generating step. -/
def generating (diagnostics : List Diagnostic) : List Diagnostic :=
  diagnostics.filter fun diagnostic => diagnostic.step = .generate

/-- The findings about a declaration are none of the generating step. -/
theorem generating_findings (declaration : Declaration) : generating declaration.findings = [] := by
  rw [generating, List.filter_eq_nil_iff]
  intro finding hf
  rw [decide_eq_true_eq]
  exact Declaration.step_ne_generate_of_mem_findings hf

/-- A run under way reflects the declarations that it has handled: it has written the artifacts of
their groups and no other file, its report has the path of each artifact once and the skipped
declarations in order, the files belong to the last groups that have them, and every takeover was
warned of. -/
structure RunState.Reflects (before : FileTree) (output : Encoded) (runtime : String)
    (handled : List Declaration) (state : RunState) : Prop where
  /-- The artifacts are written. -/
  files : ArtifactsWritten before state.files output runtime
    (handled.filterMap Declaration.group?)
  /-- No path is listed twice. -/
  nodup : state.report.paths.Nodup
  /-- The paths of the artifacts are listed. -/
  listed : ∀ path, path ∈ state.report.paths ↔
    ∃ group ∈ handled.filterMap Declaration.group?, group.path output = path
  /-- The skipped declarations are listed. -/
  skipped : state.report.skipped = handled.filterMap Declaration.skipped?
  /-- A file belongs to the last group that has it. -/
  owners : ∀ file, state.owner? file =
    (lastOwner? file (handled.filterMap Declaration.group?)).map EventGroup.name
  /-- Each takeover is warned of, in order, and nothing else by the generating step. -/
  warned : List.Forall₂ (fun takeover => IsTakeoverWarning takeover.1 takeover.2)
    (takeovers (handled.filterMap Declaration.group?)) (generating state.diagnostics)

namespace RunState.Reflects

variable {before : FileTree} {output : Encoded} {runtime : String} {handled : List Declaration}
  {state after : RunState} {declaration : Declaration}

/-- A run that begins reflects no declarations. -/
theorem start (before : FileTree) (output : Encoded) (runtime : String) :
    (RunState.start before).Reflects before output runtime [] where
  files := .nil before output runtime
  nodup := List.nodup_nil
  listed := fun path => by simp [RunState.start, Report.empty, Report.paths]
  skipped := rfl
  owners := fun _ => rfl
  warned := .nil

/-- Telling the findings about a declaration changes nothing that a run reflects. -/
theorem saying (h : state.Reflects before output runtime handled) (declaration : Declaration) :
    (state.saying declaration.findings).Reflects before output runtime handled where
  files := h.files
  nodup := h.nodup
  listed := h.listed
  skipped := h.skipped
  owners := h.owners
  warned := by
    have hsaid : (state.saying declaration.findings).diagnostics =
        state.diagnostics ++ declaration.findings := rfl
    rw [hsaid, generating, List.filter_append, ← generating, ← generating, generating_findings,
      List.append_nil]
    exact h.warned

/-- Skipping a declaration reflects it. -/
theorem skip {reason : Skip} (h : state.Reflects before output runtime handled)
    (hs : declaration.toGroup = .error reason) :
    (state.skip declaration.name reason).Reflects before output runtime
      (handled ++ [declaration]) := by
  have hgroups := groups_concat_of_error hs handled
  constructor
  · rw [hgroups]
    exact h.files
  · exact h.nodup
  · rw [hgroups]
    exact h.listed
  · rw [skipped_concat_of_error hs, ← h.skipped]
    rfl
  · rw [hgroups]
    exact h.owners
  · rw [hgroups]
    exact h.warned

/-- The path of a file that no group has is not in the report. -/
theorem path_notMem {group : EventGroup} (h : state.Reflects before output runtime handled)
    (houtput : output.isEmpty = false)
    (hplain : ∀ found ∈ handled.filterMap Declaration.group? ++ [group],
      Path.IsPlain found.fileName)
    (hnew : state.owner? group.fileName = none) :
    group.path output ∉ state.report.paths := by
  intro hmem
  obtain ⟨found, hf, hpath⟩ := (h.listed _).1 hmem
  rw [h.owners, Option.map_eq_none_iff, lastOwner?, lastWith?_eq_none_iff] at hnew
  exact hnew found hf (EventGroup.fileName_eq_of_path_eq houtput
    (hplain found (List.mem_append_left _ hf))
    (hplain group (List.mem_append_right _ (List.mem_singleton_self group))) hpath)

/-- Handing a group its file leaves the other paths in the report. -/
theorem paths_assign {group : EventGroup} (h : state.Reflects before output runtime handled)
    (houtput : output.isEmpty = false)
    (hplain : ∀ found ∈ handled.filterMap Declaration.group? ++ [group],
      Path.IsPlain found.fileName) :
    (state.assign output group group.fileName).report.paths =
      state.report.paths.filter (· != group.path output) := by
  rw [RunState.paths_assign]
  split
  · rfl
  · -- nobody owns the file, so its path is not listed and there is nothing to take out
    rename_i hnew
    rw [Option.not_isSome_iff_eq_none] at hnew
    symm
    rw [List.filter_eq_self]
    intro path hmem
    rw [bne_iff_ne]
    rintro rfl
    exact h.path_notMem houtput hplain hnew hmem

/-- Handing a group its file is warned of exactly if it takes the file over. -/
theorem warned_assign {group : EventGroup} (h : state.Reflects before output runtime handled) :
    List.Forall₂ (fun takeover => IsTakeoverWarning takeover.1 takeover.2)
      (takeovers (handled.filterMap Declaration.group? ++ [group]))
      (generating (state.assign output group group.fileName).diagnostics) := by
  rw [diagnostics_assign, generating, List.filter_append, ← generating, h.owners,
    takeovers_concat]
  refine List.rel_append h.warned ?_
  cases lastOwner? group.fileName (handled.filterMap Declaration.group?) with
  | none => exact .nil
  | some previous => exact .cons (isTakeoverWarning group previous) .nil

/-- Writing the artifact of a declaration's group reflects the declaration. -/
theorem write {group : EventGroup} (h : state.Reflects before output runtime handled)
    (houtput : output.isEmpty = false)
    (hplain : ∀ found ∈ handled.filterMap Declaration.group? ++ [group],
      Path.IsPlain found.fileName)
    (hg : declaration.toGroup = .ok group)
    (hw : (state.assign output group group.fileName).writeArtifact output
      (group.artifact runtime) = (after, none)) :
    after.Reflects before output runtime (handled ++ [declaration]) := by
  obtain ⟨howners, hdiagnostics, hskipped, hpaths, hfiles⟩ := writeArtifact_eq_none hw
  have hgroups := groups_concat_of_ok hg handled
  rw [files_assign] at hfiles
  rw [skipped_assign] at hskipped
  rw [h.paths_assign houtput hplain] at hpaths
  constructor
  · rw [hgroups]
    exact h.files.writeArtifact hfiles
  · rw [hpaths.nodup_iff, List.nodup_cons]
    refine ⟨?_, h.nodup.filter _⟩
    intro hmem
    exact bne_iff_ne.1 (List.mem_filter.1 hmem).2 rfl
  · intro path
    rw [hpaths.mem_iff, hgroups, List.mem_cons, List.mem_filter, h.listed]
    constructor
    · rintro (rfl | ⟨⟨found, hf, rfl⟩, -⟩)
      · exact ⟨group, List.mem_append_right _ (List.mem_singleton_self group), rfl⟩
      · exact ⟨found, List.mem_append_left _ hf, rfl⟩
    · rintro ⟨found, hf, rfl⟩
      by_cases hpath : found.path output = group.path output
      · exact .inl hpath
      · rcases List.mem_append.1 hf with hf | hf
        · exact .inr ⟨⟨found, hf, rfl⟩, bne_iff_ne.2 hpath⟩
        · exact absurd (congrArg (EventGroup.path output) (List.mem_singleton.1 hf)) hpath
  · rw [hskipped, h.skipped, skipped_concat_of_ok hg]
  · intro file
    have howner : after.owner? file =
        (state.assign output group group.fileName).owner? file := by
      rw [owner?, howners, owner?]
    rw [howner, owner?_assign, hgroups, lastOwner?, lastWith?_concat, ← lastOwner?, h.owners]
    split <;> rfl
  · rw [hdiagnostics, hgroups]
    exact h.warned_assign

/-- Handling a declaration without an error reflects it. -/
theorem handle (h : state.Reflects before output runtime handled)
    (houtput : output.isEmpty = false)
    (hplain : ∀ group ∈ (handled ++ [declaration]).filterMap Declaration.group?,
      Path.IsPlain group.fileName)
    (hstep : state.handle output runtime declaration = (after, none)) :
    after.Reflects before output runtime (handled ++ [declaration]) := by
  have hsaid := h.saying declaration
  unfold RunState.handle at hstep
  dsimp only at hstep
  split at hstep
  · rename_i reason hs
    obtain ⟨rfl, -⟩ := Prod.mk.inj hstep
    exact hsaid.skip hs
  · rename_i group hg
    refine hsaid.write houtput ?_ hg hstep
    rwa [groups_concat_of_ok hg] at hplain

/-- Handling declarations without an error reflects them all. -/
theorem handleAll {declarations : List Declaration} (houtput : output.isEmpty = false)
    (hplain : ∀ group ∈ declarations.filterMap Declaration.group?, Path.IsPlain group.fileName)
    (hrun : (RunState.start before).handleAll output runtime declarations = (after, none)) :
    after.Reflects before output runtime declarations := by
  refine handleAll_induction
    (P := fun handled state => state.Reflects before output runtime handled)
    (start before output runtime) ?_ hrun
  intro handled declaration state after hinitial hstate hstep
  refine hstate.handle houtput ?_ hstep
  exact fun group hgroup => hplain group ((hinitial.filterMap Declaration.group?).mem hgroup)

end RunState.Reflects

/-! ## A finished run -/

/-- An output directory has a path that is not empty. -/
theorem isEmpty_of_isDirectory {files : FileTree} {output : Encoded}
    (h : files.isDirectory output = true) : output.isEmpty = false := by
  obtain ⟨directory, hdirectory, -⟩ := FileTree.exists_of_isDirectory h
  exact FileTree.isEmpty_of_locate? hdirectory

/-- A run ends without an error exactly if it starts in an output directory and handles all
declarations without an error. -/
theorem writeArtifacts_eq_ok_iff {project : Project} {output : Encoded} {runtime : String}
    {files : FileTree} {outcome : RunOutcome} {report : Report} :
    writeArtifacts project output runtime files = outcome ∧ outcome.result = .ok report ↔
      files.isDirectory output = true ∧
        ∃ state, (RunState.start files).handleAll output runtime project.declarations =
            (state, none) ∧
          state.report = report ∧ outcome = ⟨.ok report, state.files, state.diagnostics⟩ := by
  unfold writeArtifacts
  constructor
  · rintro ⟨rfl, hok⟩
    split at hok
    · rename_i hisdir
      refine ⟨hisdir, ?_⟩
      rw [if_pos hisdir]
      cases hall : (RunState.start files).handleAll output runtime project.declarations with
      | mk state error =>
          rw [hall] at hok
          cases error with
          | none =>
              obtain rfl := Except.ok.inj hok
              exact ⟨state, rfl, rfl, rfl⟩
          | some error => cases hok
    · cases hok
  · rintro ⟨hisdir, state, hall, rfl, rfl⟩
    rw [if_pos hisdir, hall]
    exact ⟨rfl, rfl⟩

/-- The groups of the first declarations of a project have files with plain names. -/
theorem isPlain_of_isInitial {project : Project} {handled : List Declaration}
    (h : handled <+: project.declarations) :
    ∀ group ∈ handled.filterMap Declaration.group?, Path.IsPlain group.fileName := by
  intro group hgroup
  have hmem : group ∈ project.groups := (h.filterMap Declaration.group?).mem hgroup
  exact EventGroup.isPlain_fileName hmem

/-- A run over the first declarations of a project that ends without an error reflects them. -/
theorem RunState.Reflects.of_handleAll {project : Project} {output : Encoded} {runtime : String}
    {files : FileTree} {handled : List Declaration} {state : RunState}
    (hisdir : files.isDirectory output = true) (hinitial : handled <+: project.declarations)
    (hall : (RunState.start files).handleAll output runtime handled = (state, none)) :
    state.Reflects files output runtime handled :=
  .handleAll (isEmpty_of_isDirectory hisdir) (isPlain_of_isInitial hinitial) hall

/-- A project in which two modules have a marked enum of the same name, and which marks a struct
too. -/
def twins : Project where
  files :=
    let life : Item := .enum [.mark 2] (.plain "Life" (by decide)) ⟨0, 0⟩
      [⟨.plain "Start" (by decide), .none⟩]
    [⟨"src/lib.rs", .root,
      ⟨[.module [] (.plain "a" (by decide)) [life], .module [] (.plain "b" (by decide)) [life],
        .struct [.mark 9] (.plain "Other" (by decide)) .none]⟩⟩]

/-- A file tree in which the artifact of these enums is out of date. -/
def staleFiles : FileTree :=
  ((FileTree.workspace "work").makeDirectory "out").put
    ["work", "out", "auto_analytics_life.rs"] (.file (.text "stale"))

end EventTracking
