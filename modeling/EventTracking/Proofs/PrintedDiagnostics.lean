import EventTracking.BuildScript
import EventTracking.Proofs.ArtifactLines

/-!
# Printed diagnostics

A build script tells the build tool of errors and warnings, each by an instruction that is ended by
a line break. The build tool reads what is printed line by line. So it reads the instructions as
they were meant exactly if none of them holds a line break itself, and line breaks come in with
messages and with names of files. Everything is logged in any case.

Main statements: a diagnostic is shown on one line exactly if its message and the name of its file
stand on one line (`isLine_display_iff`), the lines that are printed are those of the instructions
(`linesOf_instructions`), and every diagnostic is logged (`forall₂_logEvents`).
-/

namespace EventTracking

open Text

namespace Diagnostic

/-! ## Instructions -/

/-- The diagnostics that the build tool is told of, in order. -/
def told (diagnostics : List Diagnostic) : List Diagnostic :=
  diagnostics.filter fun diagnostic => diagnostic.severity ≠ .note

/-- The instruction that tells of a diagnostic. -/
def instruction (diagnostic : Diagnostic) : String := "cargo:warning=" ++ diagnostic.display

/-- The lines that are read of an instruction. -/
def linesRead (diagnostic : Diagnostic) : List (List Char) :=
  linesOf (diagnostic.instruction.toList ++ ['\n'])

/-- A diagnostic with a message and a file name that stand on one line. -/
def IsOnOneLine (diagnostic : Diagnostic) : Prop :=
  IsLine diagnostic.message ∧ ∀ file ∈ diagnostic.file, IsLine file

instance (diagnostic : Diagnostic) : Decidable diagnostic.IsOnOneLine :=
  inferInstanceAs (Decidable (_ ∧ ∀ file ∈ diagnostic.file, _))

/-- The instructions are printed one after the other, each with a line break. -/
theorem instructions_eq (diagnostics : List Diagnostic) :
    instructions diagnostics =
      String.join (((told diagnostics).map instruction).map (· ++ "\n")) := by
  rw [instructions]
  congr 1
  induction diagnostics with
  | nil => rfl
  | cons diagnostic rest ih =>
      rw [List.filterMap_cons, ih, instruction?, told, told]
      by_cases hnote : diagnostic.severity = .note
      · rw [if_pos hnote, List.filter_cons_of_neg (by simpa using hnote)]
      · rw [if_neg hnote, List.filter_cons_of_pos (by simpa using hnote)]
        rfl

/-! ## Line breaks -/

/-- The place of a diagnostic stands on one line exactly if the name of the file does. -/
theorem isLine_place_iff (diagnostic : Diagnostic) :
    IsLine diagnostic.place ↔ ∀ file ∈ diagnostic.file, IsLine file := by
  have hopen : IsLine " (" := by decide
  have hclose : IsLine ")" := by decide
  have hcolon : IsLine ":" := by decide
  rw [place]
  cases diagnostic.file with
  | none => simpa using (by decide : IsLine "")
  | some file =>
      cases diagnostic.line with
      | none => simp [isLine_append_iff, hopen, hclose]
      | some line => simp [isLine_append_iff, hopen, hclose, hcolon, isLine_repr]

/-- A diagnostic is shown on one line exactly if its message and the name of the file stand on one
line. -/
theorem isLine_display_iff (diagnostic : Diagnostic) :
    IsLine diagnostic.display ↔ diagnostic.IsOnOneLine := by
  have htool : IsLine "auto-analytics[" := by decide
  have hstep : IsLine diagnostic.step.word := by cases diagnostic.step <;> decide
  have hclose : IsLine "] " := by decide
  unfold display
  rw [isLine_append_iff, isLine_append_iff, isLine_append_iff, isLine_append_iff,
    isLine_place_iff, IsOnOneLine]
  exact and_congr_left fun _ => and_iff_right ⟨⟨htool, hstep⟩, hclose⟩

/-- An instruction stands on one line exactly if what it shows does. -/
theorem isLine_instruction_iff (diagnostic : Diagnostic) :
    IsLine diagnostic.instruction ↔ diagnostic.IsOnOneLine := by
  have hstart : IsLine "cargo:warning=" := by decide
  rw [instruction, isLine_append_iff, isLine_display_iff]
  exact and_iff_right hstart

/-- What is read are the lines of one instruction after the other. -/
theorem linesOf_instructions (diagnostics : List Diagnostic) :
    linesOf (instructions diagnostics).toList = (told diagnostics).flatMap linesRead := by
  rw [instructions_eq]
  induction told diagnostics with
  | nil => rfl
  | cons diagnostic rest ih =>
      have hbreak : "\n".toList = ['\n'] := rfl
      rw [List.map_cons, List.map_cons, String.join_cons, String.toList_append,
        String.toList_append, hbreak, List.append_assoc, List.singleton_append,
        linesOf_append_lineBreak, ih, List.flatMap_cons, linesRead]

/-- The first line that is read of an instruction begins as the instruction does, and there is one
more line for each line break in what it shows. -/
theorem exists_linesRead_eq_cons (diagnostic : Diagnostic) :
    ∃ first more, diagnostic.linesRead = first :: more ∧ "cargo:warning=".toList <+: first ∧
      more.length = diagnostic.display.toList.count '\n' := by
  have hlength := length_linesOf_lineBreak diagnostic.display.toList
  have hstart : IsLine "cargo:warning=" := by decide
  rw [linesRead, instruction, String.toList_append, List.append_assoc]
  cases hlines : linesOf (diagnostic.display.toList ++ ['\n']) with
  | nil =>
      rw [hlines] at hlength
      cases hlength
  | cons first more =>
      rw [hlines, List.length_cons] at hlength
      exact ⟨_, more, linesOf_append_eq_cons hstart hlines, List.prefix_append _ _,
        Nat.succ.inj hlength⟩

/-! ## Log events -/

/-- A log event tells of a diagnostic: at its level, with its step and in its words. -/
structure IsLoggedAs (diagnostic : Diagnostic) (event : LogEvent) : Prop where
  /-- The level is that of the severity. -/
  level_eq : event.level = diagnostic.severity.level
  /-- The step is a field of the event. -/
  step_mem : ("step", diagnostic.step.word) ∈ event.fields
  /-- The event says what the diagnostic shows. -/
  message?_eq : event.message? = some diagnostic.display

/-- Each diagnostic is logged by one event, in order. -/
theorem forall₂_logEvents (diagnostics : List Diagnostic) :
    List.Forall₂ IsLoggedAs diagnostics (logEvents diagnostics) := by
  rw [logEvents, List.forall₂_map_right_iff, List.forall₂_same]
  intro diagnostic _
  exact ⟨rfl, List.mem_cons_self, LogEvent.message_saying _ _ _⟩

/-! ## What the build tool reads -/

/-- The build tool reads one line for each diagnostic that it is told of, which is its instruction,
exactly if the messages and the names of files of these diagnostics stand on one line. In any case
it reads the instructions one after the other, each from its own first line on, with one more line
for each line break. Every diagnostic is logged by one event, in order. -/
theorem instructions_read_by_lines (diagnostics : List Diagnostic) :
    (linesOf (instructions diagnostics).toList =
        (told diagnostics).map (fun diagnostic => diagnostic.instruction.toList) ↔
      ∀ diagnostic ∈ told diagnostics, diagnostic.IsOnOneLine) ∧
    linesOf (instructions diagnostics).toList = (told diagnostics).flatMap linesRead ∧
    (∀ diagnostic ∈ told diagnostics, ∃ first more, diagnostic.linesRead = first :: more ∧
      "cargo:warning=".toList <+: first ∧
      more.length = diagnostic.display.toList.count '\n') ∧
    List.Forall₂ IsLoggedAs diagnostics (logEvents diagnostics) := by
  refine ⟨?_, linesOf_instructions diagnostics,
    fun diagnostic _ => diagnostic.exists_linesRead_eq_cons, forall₂_logEvents diagnostics⟩
  constructor
  · -- no line that is read holds a line break, so no instruction does
    intro hlines diagnostic htold
    have hread : diagnostic.instruction.toList ∈ linesOf (instructions diagnostics).toList := by
      rw [hlines]
      exact List.mem_map_of_mem htold
    exact (isLine_instruction_iff diagnostic).1 (lineBreak_notMem_of_mem_linesOf hread)
  · intro hone
    have hlines : ∀ text ∈ (told diagnostics).map instruction, IsLine text := by
      intro text htext
      obtain ⟨diagnostic, htold, rfl⟩ := List.mem_map.1 htext
      exact (isLine_instruction_iff diagnostic).2 (hone diagnostic htold)
    rw [instructions_eq, linesOf_join hlines, List.map_map]
    rfl

/-- A warning, a note whose message holds a line break, and an error. -/
def givenUp : List Diagnostic :=
  [.located .warning .process "`crate::Board` is skipped" "src/lib.rs" 3,
   .general .note .validMember "`crate::Life::Start`\nis left out",
   .general .error .process "no output directory configured"]

/-- Of these the build tool reads one line for the warning and one for the error. -/
theorem instructions_of_givenUp :
    (∀ diagnostic ∈ told givenUp, diagnostic.IsOnOneLine) ∧
      linesOf (instructions givenUp).toList =
        ["cargo:warning=auto-analytics[process] `crate::Board` is skipped (src/lib.rs:3)".toList,
         "cargo:warning=auto-analytics[process] no output directory configured".toList] ∧
      (logEvents givenUp).length = 3 := by
  obtain ⟨hlines, -, -, hlogged⟩ := instructions_read_by_lines givenUp
  have hone : ∀ diagnostic ∈ told givenUp, diagnostic.IsOnOneLine := by decide
  exact ⟨hone, (hlines.2 hone).trans (by decide +kernel), hlogged.length_eq.symm⟩

/-- A file tree with a source whose name holds a line break and whose contents are no text. -/
def brokenNameFiles : FileTree :=
  (((FileTree.workspace "work").makeDirectory "src").put
    ["work", "src", "a\ncargo:rustc-cfg=b.rs"] (.file (.ofBytes [0xFF]))).makeDirectory "out"

/-- The warning about that source. -/
def brokenNameWarning : Diagnostic :=
  .general .warning .loadSources
    "cannot read `src/a\ncargo:rustc-cfg=b.rs`: stream did not contain valid UTF-8, skipping"

/-- A build script prints that one warning, and the build tool reads two lines of it, the second of
which is an instruction of another kind. -/
theorem other_instruction_of_brokenNameFiles :
    let environment (name : String) : Option Encoded :=
      if name = "OUT_DIR" then some (.text "out") else none
    let settings := Settings.ofEnvironment environment
    (settings.run brokenNameFiles).diagnostics = [brokenNameWarning] ∧
      linesOf (buildScript environment brokenNameFiles).printed.toList =
        linesOf (rerunInstructions settings).toList ++
          ["cargo:warning=auto-analytics[load_sources] cannot read `src/a".toList,
           "cargo:rustc-cfg=b.rs`: stream did not contain valid UTF-8, skipping".toList] ∧
      linesOf (instructions [brokenNameWarning]).toList ≠
        (told [brokenNameWarning]).map (fun diagnostic => diagnostic.instruction.toList) := by
  intro environment settings
  have hrun : (settings.run brokenNameFiles).diagnostics = [brokenNameWarning] := by
    decide +kernel
  have hprinted : (buildScript environment brokenNameFiles).printed =
      rerunInstructions settings ++ instructions [brokenNameWarning] := by
    rw [← hrun]
    rfl
  refine ⟨hrun, ?_, by decide +kernel⟩
  rw [hprinted]
  decide +kernel

end Diagnostic

end EventTracking
