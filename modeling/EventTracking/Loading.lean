import EventTracking.Diagnostic
import EventTracking.FileTree
import EventTracking.Grammar.File
import EventTracking.Code.Project

/-!
# Loading

The sources of a project are the files below a directory whose names have the extension `rs`. What
is hidden, or built in a directory `target`, is ignored. A file that cannot be read or makes no
sense is left out with a warning, and so is what a directory holds that cannot be listed.

Main statements: whatever a walk finds of the sources is either loaded or warned of
(`length_loadProject`).
-/

namespace EventTracking

open Code Text

/-! ## Source files -/

/-- Whether an entry of a source directory is ignored, with everything beneath it. -/
def isHidden (name : Encoded) : Bool := name.shown.toList.head? = some '.' || name.shown = "target"

/-- The path of what names lead to from a directory. -/
def pathBelow (root : Encoded) (names : Place) : Encoded := names.foldl Encoded.join root

/-- Whether a walk has come across a source file. -/
def isSource (found : Place × FileTree.Found) : Bool :=
  match found.2 with
  | .file => found.1.getLast?.any fun name => Path.isSourceName name.shown
  | .closed _ => true

/-- The source files beneath a directory, and the directories that are not listed, by the names that
lead to them, in the order of a walk that passes over what is ignored. -/
def sourcesIn (tree : FileTree) (root : Encoded) : List (Place × FileTree.Found) :=
  match tree.locate? root with
  | none => []
  | some place => (tree.walk (!isHidden ·) (tree.height + 1) root place).filter isSource

/-! ## Reading -/

/-- Reads a source file below `root`, or warns that it cannot be read. -/
def readSource (tree : FileTree) (root path : Encoded) : Except Diagnostic File :=
  match tree.readText path with
  | .error failure =>
    .error (.general .warning .loadSources
      ("cannot read `" ++ path.shown ++ "`: " ++ failure.message ++ ", skipping"))
  | .ok text =>
    match Outline.ofSource text with
    | .error fault =>
      .error (.located .warning .loadSources
        ("cannot parse `" ++ path.shown ++ "`: " ++ fault.message ++ ", skipping") path.shown
        fault.line)
    | .ok outline => .ok ⟨path.shown, Path.moduleFor root.shown path.shown, outline⟩

/-- Reads what a walk below `root` has come across. -/
def readFound (tree : FileTree) (root : Encoded) (found : Place × FileTree.Found) :
    Except Diagnostic File :=
  match found.2 with
  | .file => readSource tree root (pathBelow root found.1)
  | .closed reason =>
    .error (.general .warning .loadSources
      ("cannot walk `" ++ root.shown ++ "`: IO error for operation on " ++
        (pathBelow root found.1).shown ++ ": " ++ reason))

/-- What reading each source file below a directory gives, in order. -/
def readSources (tree : FileTree) (root : Encoded) : List (Except Diagnostic File) :=
  (sourcesIn tree root).map (readFound tree root)

/-- The warning in place of a source file. -/
def warning? : Except Diagnostic File → Option Diagnostic
  | .ok _ => none
  | .error diagnostic => some diagnostic

/-- A project that has been loaded. -/
structure Loaded where
  /-- The project. -/
  project : Project
  /-- Warnings about what could not be loaded, in order. -/
  warnings : List Diagnostic

/-- Loads the source files below a directory. -/
def loadProject (tree : FileTree) (root : Encoded) : Loaded :=
  if tree.isDirectory root then
    let read := readSources tree root
    ⟨⟨read.filterMap Except.toOption⟩, read.filterMap warning?⟩
  else
    ⟨⟨[]⟩,
     [.general .warning .loadSources
        ("source directory `" ++ root.shown ++ "` does not exist, nothing to process")]⟩

/-- Whatever a walk finds of the sources is either loaded or warned of. -/
theorem length_loadProject {tree : FileTree} {root : Encoded} (h : tree.isDirectory root = true) :
    (loadProject tree root).project.files.length + (loadProject tree root).warnings.length =
      (sourcesIn tree root).length := by
  have split (read : List (Except Diagnostic File)) :
      (read.filterMap Except.toOption).length + (read.filterMap warning?).length =
        read.length := by
    induction read with
    | nil => rfl
    | cons first rest ih =>
      cases first <;> simp only [List.filterMap_cons, Except.toOption, warning?,
        List.length_cons] <;> omega
  rw [loadProject, if_pos h, split, readSources, List.length_map]

end EventTracking
