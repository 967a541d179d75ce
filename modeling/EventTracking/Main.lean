import EventTracking.CommandLine.Program

/-!
# The command line program

The program as it is called: it takes a picture of the directories that its command names, runs on
that picture, and writes the files that have changed. In the picture a link is what it leads to.
-/

namespace EventTracking.CommandLine

open Text

/-- The path of a place from the root. -/
def absolutePath (place : Place) : String := "/" ++ "/".intercalate (place.map Encoded.shown)

/-- The picture with a directory and all that lead to it. -/
def addDirectory (tree : FileTree) (place : Place) : FileTree :=
  (List.range (place.length + 1)).foldl
    (fun tree count => tree.put (place.take count) .directory) tree

/-- The picture of nothing but the working directory. -/
def emptyPicture : IO FileTree := do
  let here : Encoded := (← IO.currentDir).toString
  let place := here.parts.foldl FileTree.step []
  return addDirectory ⟨[], place, {}, .nil, nofun⟩ place

/-- The picture with everything beneath a directory. -/
partial def addBeneath (tree : FileTree) (place : Place) : IO FileTree := do
  let directory := (← IO.currentDir) / absolutePath place
  let mut tree := addDirectory tree place
  for entry in ← directory.readDir do
    let inner := place ++ [.text entry.fileName]
    if ← entry.path.isDir then
      tree ← addBeneath tree inner
    else
      let bytes ← IO.FS.readBinFile entry.path
      tree := tree.put inner (.file (.ofBytes bytes.data.toList))
  return tree

/-- The picture with the directories along a path, and everything beneath the last. -/
def addPath (tree : FileTree) (path : String) : IO FileTree := do
  let mut tree := tree
  let mut place := FileTree.startAt tree.here path
  let here ← IO.currentDir
  for part in Encoded.parts path do
    place := FileTree.step place part
    if ← (here / absolutePath place).isDir then
      tree := addDirectory tree place
  if !path.isEmpty && (← (here / path).isDir) then addBeneath tree place else return tree

/-- The paths whose directories a command uses. -/
def usedPaths : Command → List String
  | .generate source output _ _ => [source, output]
  | .discover source _ => [source]
  | .help => []
  | .version => []

/-- Writes the files that differ between two pictures. -/
def writeChanges (before after : FileTree) : IO Unit := do
  let here ← IO.currentDir
  for (place, entry) in after.entries do
    if before.get? place != some entry then
      match entry with
      | .file (.text content) => IO.FS.writeFile (here / absolutePath place) content
      | _ => pure ()

end EventTracking.CommandLine

open EventTracking.CommandLine in
/-- Runs the program. -/
def main (arguments : List String) : IO UInt32 := do
  let mut tree ← emptyPicture
  if let .ok command := parse arguments then
    for path in usedPaths command do
      tree ← addPath tree path
  let done := program arguments tree
  writeChanges tree done.files
  IO.print done.printed
  IO.eprint done.complaints
  return done.code.toUInt32
