import EventTracking.Path

/-!
# File trees

A file tree holds the files, directories and links that a program can see. Each has a place, the
list of names that lead to it from the root. The entries are kept in the order of their places, in
which a directory comes right before what it holds.

Paths are turned into places by following them name by name: everything but the last name has to be
a directory, and where a link stands, the path goes on with what the link says. Several places may
be names of one file, which is then the same at all of them. What lies beneath a directory is found
by walking through it.

The file system that a tree is kept on may refuse whatever a program asks of it, for reasons of its
own: a directory may not be entered or listed, a file may not be read or written, there may be no
room left.

What is not modelled: devices, pipes and other special files; changes that other programs make
meanwhile; listings that break off halfway; and writes that fail after they have changed a file.

Main statements: what has been put at a place is found there (`get?_put_self`), all places that are
not names of the same file stay as they are (`get?_put_of_fileOf_ne`), and what lies beneath a
directory comes in order (`pairwise_beneath`).
-/

namespace EventTracking

open Text

/-- What stands at a place. -/
inductive FileEntry where
  /-- A directory. -/
  | directory
  /-- A file. -/
  | file (content : Encoded)
  /-- A link, which says where to go on. -/
  | link (target : Encoded)
deriving DecidableEq, Repr

/-- Whether an entry is a file. -/
def FileEntry.isFile : FileEntry → Bool
  | directory => false
  | file _ => true
  | link _ => false

/-- The names that lead from the root of a tree to a place in it. -/
abbrev Place := List Encoded

/-- What a program may ask of a path without changing anything. -/
inductive Request where
  /-- What stands there. -/
  | look
  /-- What the file there holds. -/
  | read
  /-- What the directory there holds. -/
  | list
deriving DecidableEq, Repr

/-- How a file system treats the trees on it. Reasons are given in the words of the operating
system. -/
structure FileSystem where
  /-- The first of the places that are names of the same file. -/
  fileOf : Place → Place := id
  /-- Why a request is refused. -/
  refusal? : Request → Encoded → Option String := fun _ _ => none
  /-- Why a path cannot be written, given the entries, the path and the content. -/
  rejection? : List (Place × FileEntry) → Encoded → Encoded → Option String := fun _ _ _ => none

namespace FileSystem

/-- An entry after another one has been put at a place: if both are files and the places are names
of the same file, they hold the same. -/
def renew (system : FileSystem) (place : Place) (entry : FileEntry) (found : Place × FileEntry) :
    Place × FileEntry :=
  if entry.isFile ∧ found.2.isFile ∧ system.fileOf found.1 = system.fileOf place then
    (found.1, entry)
  else found

variable {system : FileSystem} {place : Place} {entry : FileEntry} {found : Place × FileEntry}

/-- Entries stay at their places. -/
@[simp] theorem fst_renew : (system.renew place entry found).1 = found.1 := by
  unfold renew
  split <;> rfl

/-- Files stay files, and nothing else becomes one. -/
@[simp] theorem isFile_renew : (system.renew place entry found).2.isFile = found.2.isFile := by
  unfold renew
  split
  · rename_i h
    rw [h.1, h.2.1]
  · rfl

/-- What is no name of the same file stays as it is. -/
theorem renew_of_ne (h : system.fileOf found.1 ≠ system.fileOf place) :
    system.renew place entry found = found :=
  if_neg fun hall => h hall.2.2

/-- What is no file stays as it is. -/
theorem renew_of_not_isFile (h : found.2.isFile = false) :
    system.renew place entry found = found :=
  if_neg fun hall => Bool.false_ne_true (h.symm.trans hall.2.1)

end FileSystem

/-- Files, directories and links by their places, the place from which paths are followed, and the
file system that they are kept on. -/
structure FileTree where
  /-- What stands where. -/
  entries : List (Place × FileEntry)
  /-- The place from which paths are followed. -/
  here : Place
  /-- The file system. -/
  system : FileSystem
  /-- The entries are in the order of their places. -/
  sorted : entries.Pairwise fun a b => a.1 < b.1
  /-- The names of one file hold the same. -/
  shared : ∀ a ∈ entries, ∀ b ∈ entries, a.2.isFile = true → b.2.isFile = true →
    system.fileOf a.1 = system.fileOf b.1 → a.2 = b.2

namespace FileTree

/-! ## Entries by their places -/

/-- The list of entries with one put in its place. -/
def putEntry (place : Place) (entry : FileEntry) :
    List (Place × FileEntry) → List (Place × FileEntry)
  | [] => [(place, entry)]
  | (other, old) :: rest =>
    if place < other then (place, entry) :: (other, old) :: rest
    else if place = other then (place, entry) :: rest
    else (other, old) :: putEntry place entry rest

/-- The places of the entries are those from before and the new one. -/
theorem mem_putEntry {place : Place} {entry : FileEntry} {entries : List (Place × FileEntry)}
    {found : Place × FileEntry} (h : found ∈ putEntry place entry entries) :
    found = (place, entry) ∨ found ∈ entries := by
  induction entries with
  | nil => simpa [putEntry] using h
  | cons head rest ih =>
    simp only [putEntry] at h
    split at h
    · simpa using h
    · split at h
      · rcases List.mem_cons.1 h with h | h
        · exact .inl h
        · exact .inr (List.mem_cons_of_mem _ h)
      · rcases List.mem_cons.1 h with h | h
        · exact .inr (h ▸ List.mem_cons_self)
        · exact (ih h).imp id (List.mem_cons_of_mem _)

/-- Putting an entry in its place keeps the order. -/
theorem pairwise_putEntry {entries : List (Place × FileEntry)}
    (sorted : entries.Pairwise fun a b => a.1 < b.1) (place : Place) (entry : FileEntry) :
    (putEntry place entry entries).Pairwise fun a b => a.1 < b.1 := by
  induction entries with
  | nil => simp [putEntry]
  | cons head rest ih =>
    obtain ⟨first, others⟩ := List.pairwise_cons.1 sorted
    simp only [putEntry]
    split
    · rename_i less
      refine List.pairwise_cons.2 ⟨fun found hf => ?_, sorted⟩
      rcases List.mem_cons.1 hf with hf | hf
      · exact hf ▸ less
      · exact List.lt_trans less (first found hf)
    · split
      · rename_i equal
        exact List.pairwise_cons.2 ⟨fun found hf => equal ▸ first found hf, others⟩
      · rename_i notLess notEqual
        refine List.pairwise_cons.2 ⟨fun found hf => ?_, ih others⟩
        rcases mem_putEntry hf with hf | hf
        · subst hf
          rcases Std.lt_trichotomy place head.1 with h | h | h
          · exact absurd h notLess
          · exact absurd h notEqual
          · exact h
        · exact first found hf

/-- Where a file has been put, all its names hold the same. -/
theorem shared_putEntry {entries : List (Place × FileEntry)} {system : FileSystem}
    (shared : ∀ a ∈ entries, ∀ b ∈ entries, a.2.isFile = true → b.2.isFile = true →
      system.fileOf a.1 = system.fileOf b.1 → a.2 = b.2)
    (place : Place) (entry : FileEntry) :
    ∀ a ∈ putEntry place entry (entries.map (system.renew place entry)),
      ∀ b ∈ putEntry place entry (entries.map (system.renew place entry)),
        a.2.isFile = true → b.2.isFile = true → system.fileOf a.1 = system.fileOf b.1 →
          a.2 = b.2 := by
  -- an entry of that list is a name of the new file, or it was there before and is no such name
  have holds (found : Place × FileEntry)
      (h : found ∈ putEntry place entry (entries.map (system.renew place entry)))
      (hfile : found.2.isFile = true) :
      found.2 = entry ∧ (found.1 = place ∨ system.fileOf found.1 = system.fileOf place) ∨
        found ∈ entries ∧
          (entry.isFile = true → system.fileOf found.1 ≠ system.fileOf place) := by
    rcases mem_putEntry h with rfl | h
    · exact .inl ⟨rfl, .inl rfl⟩
    · obtain ⟨old, hold, rfl⟩ := List.mem_map.1 h
      unfold FileSystem.renew at hfile ⊢
      split
      · rename_i hall
        exact .inl ⟨rfl, .inr hall.2.2⟩
      · rename_i hnot
        rw [if_neg hnot] at hfile
        exact .inr ⟨hold, fun hentry hsame => hnot ⟨hentry, hfile, hsame⟩⟩
  intro a ha b hb hafile hbfile hsame
  have halike {found : Place × FileEntry}
      (h : found.1 = place ∨ system.fileOf found.1 = system.fileOf place) :
      system.fileOf found.1 = system.fileOf place :=
    h.elim (congrArg system.fileOf) id
  rcases holds a ha hafile with ⟨haentry, haplace⟩ | ⟨haold, hane⟩
  · rcases holds b hb hbfile with ⟨hbentry, -⟩ | ⟨-, hbne⟩
    · rw [haentry, hbentry]
    · exact absurd (hsame.symm.trans (halike haplace)) (hbne (haentry ▸ hafile))
  · rcases holds b hb hbfile with ⟨hbentry, hbplace⟩ | ⟨hbold, -⟩
    · exact absurd (hsame.trans (halike hbplace)) (hane (hbentry ▸ hbfile))
    · exact shared a haold b hbold hafile hbfile hsame

/-- The tree with an entry put at a place. If it is a file, all names of that file hold the same. -/
def put (tree : FileTree) (place : Place) (entry : FileEntry) : FileTree :=
  { tree with
    entries := putEntry place entry (tree.entries.map (tree.system.renew place entry))
    sorted := by
      refine pairwise_putEntry (List.pairwise_map.2 (tree.sorted.imp fun {a b} h => ?_)) place entry
      rwa [FileSystem.fst_renew, FileSystem.fst_renew]
    shared := shared_putEntry tree.shared place entry }

/-- What stands at a place. -/
def get? (tree : FileTree) (place : Place) : Option FileEntry :=
  (tree.entries.find? fun found => decide (found.1 = place)).map Prod.snd

/-- The tree without a place and everything beneath it. -/
def erase (tree : FileTree) (place : Place) : FileTree :=
  { tree with
    entries := tree.entries.filter fun found => !place.isPrefixOf found.1
    sorted := tree.sorted.filter _
    shared := fun a ha b hb => tree.shared a (List.mem_filter.1 ha).1 b (List.mem_filter.1 hb).1 }

/-- What lies strictly beneath a place, by the names that lead there from that place. -/
def beneath (tree : FileTree) (place : Place) : List (Place × FileEntry) :=
  (tree.entries.filter fun found => place.isPrefixOf found.1 && found.1 != place).map fun found =>
    (found.1.drop place.length, found.2)

/-- Names in front of two places do not change their order. -/
theorem lt_of_append_lt {place a b : Place} (h : place ++ a < place ++ b) : a < b := by
  induction place with
  | nil => exact h
  | cons name rest ih =>
    rcases List.cons_lt_cons_iff.1 h with h | h
    · exact absurd h (Std.lt_irrefl)
    · exact ih h.2

/-- What lies beneath a place comes in order. -/
theorem pairwise_beneath (tree : FileTree) (place : Place) :
    (tree.beneath place).Pairwise fun a b => a.1 < b.1 := by
  refine List.pairwise_map.2 ((tree.sorted.filter _).imp_of_mem fun {a b} ha hb h => ?_)
  simp only [List.mem_filter, Bool.and_eq_true, List.isPrefixOf_iff_prefix] at ha hb
  obtain ⟨restA, ha⟩ := ha.2.1
  obtain ⟨restB, hb⟩ := hb.2.1
  rw [← ha, ← hb] at h ⊢
  simpa using lt_of_append_lt h

/-- What has been put at a place is found there. -/
theorem get?_put_self (tree : FileTree) (place : Place) (entry : FileEntry) :
    (tree.put place entry).get? place = some entry := by
  simp only [get?, put]
  induction tree.entries.map (tree.system.renew place entry) with
  | nil => simp [putEntry]
  | cons head rest ih =>
    simp only [putEntry]
    split
    · simp
    · split
      · simp
      · rename_i notEqual
        rw [List.find?_cons_of_neg (by simpa using Ne.symm notEqual), ih]

/-- Putting an entry in its place leaves the others at theirs. -/
theorem find?_putEntry_of_ne {place other : Place} (h : place ≠ other) (entry : FileEntry)
    (entries : List (Place × FileEntry)) :
    (putEntry place entry entries).find? (fun found => decide (found.1 = other)) =
      entries.find? fun found => decide (found.1 = other) := by
  induction entries with
  | nil => simp [putEntry, h]
  | cons head rest ih =>
    simp only [putEntry]
    split
    · rw [List.find?_cons_of_neg (by simpa using h)]
    · split
      · rename_i equal
        rw [List.find?_cons_of_neg (by simpa using h),
          List.find?_cons_of_neg (by simpa [← equal] using h)]
      · by_cases hh : head.1 = other
        · rw [List.find?_cons_of_pos (by simpa using hh),
            List.find?_cons_of_pos (by simpa using hh)]
        · rw [List.find?_cons_of_neg (by simpa using hh),
            List.find?_cons_of_neg (by simpa using hh), ih]

/-- What stands at another place is as it was, or holds what has been put if it is a name of the
same file. -/
theorem get?_put_of_ne (tree : FileTree) {place other : Place} (h : place ≠ other)
    (entry : FileEntry) :
    (tree.put place entry).get? other =
      (tree.get? other).map fun found => (tree.system.renew place entry (other, found)).2 := by
  simp only [get?, put]
  rw [find?_putEntry_of_ne h, List.find?_map]
  have hsame : (fun found : Place × FileEntry => decide (found.1 = other)) ∘
      tree.system.renew place entry = fun found => decide (found.1 = other) := by
    funext found
    rw [Function.comp, FileSystem.fst_renew]
  rw [hsame, Option.map_map, Option.map_map]
  cases hfound : tree.entries.find? fun found => decide (found.1 = other) with
  | none => rfl
  | some found =>
    have hother : found.1 = other := by simpa using List.find?_some hfound
    rw [Option.map_some, Option.map_some, Function.comp, Function.comp, ← hother]

/-- All places that are not names of the same file stay as they are. -/
theorem get?_put_of_fileOf_ne (tree : FileTree) {place other : Place}
    (h : tree.system.fileOf other ≠ tree.system.fileOf place) (entry : FileEntry) :
    (tree.put place entry).get? other = tree.get? other := by
  have hne : place ≠ other := by
    rintro rfl
    exact h rfl
  rw [tree.get?_put_of_ne hne]
  cases tree.get? other with
  | none => rfl
  | some found => rw [Option.map_some, FileSystem.renew_of_ne h]

/-- What is no file stays as it is, unless it stood at that very place. -/
theorem get?_put_eq_some_iff (tree : FileTree) {place other : Place} {entry found : FileEntry}
    (h : place ≠ other) (hfound : found.isFile = false) :
    (tree.put place entry).get? other = some found ↔ tree.get? other = some found := by
  rw [tree.get?_put_of_ne h, Option.map_eq_some_iff]
  constructor
  · rintro ⟨old, hold, hrenewed⟩
    have hfile : old.isFile = false := by
      rw [← hfound, ← hrenewed, FileSystem.isFile_renew]
    rw [FileSystem.renew_of_not_isFile hfile] at hrenewed
    exact hold.trans (congrArg some hrenewed)
  · intro hold
    exact ⟨found, hold, by rw [FileSystem.renew_of_not_isFile hfound]⟩

/-! ## Following paths -/

/-- A tree that holds nothing but an empty directory, from which paths are followed. -/
def workspace (name : String) : FileTree where
  entries := [([], .directory), ([.text name], .directory)]
  here := [name]
  system := {}
  sorted := by simp [List.pairwise_cons, List.nil_lt_cons]
  shared := by simp [FileEntry.isFile]

/-- Why something cannot be done with a path. -/
inductive Failure where
  /-- The path leads nowhere. -/
  | notFound
  /-- The path goes on from what is no directory. -/
  | notDirectory
  /-- A directory stands there. -/
  | isDirectory
  /-- A name of the path is longer than a name may be. -/
  | nameTooLong
  /-- The path leads through more links than are followed. -/
  | tooManyLinks
  /-- The file holds no text. -/
  | notText
  /-- The file system refuses it. -/
  | refused (reason : String)
deriving DecidableEq, Repr

/-- The reason in the words of the operating system. -/
def Failure.message : Failure → String
  | notFound => "No such file or directory (os error 2)"
  | notDirectory => "Not a directory (os error 20)"
  | isDirectory => "Is a directory (os error 21)"
  | nameTooLong => "File name too long (os error 36)"
  | tooManyLinks => "Too many levels of symbolic links (os error 40)"
  | notText => "stream did not contain valid UTF-8"
  | refused reason => reason

/-- The number of bytes that a name may have. -/
def longestName : Nat := 255

/-- The number of links that one path may lead through. -/
def mostLinks : Nat := 40

/-- Whether a directory stands at a place. -/
def isDirectoryAt (tree : FileTree) (place : Place) : Bool :=
  decide (tree.get? place = some .directory)

/-- The place that one more part of a path leads to. -/
def step (place : Place) (part : Encoded) : Place :=
  if part = "" ∨ part = "." then place
  else if part = ".." then place.dropLast
  else place ++ [part]

/-- The place that a path starts from, seen from a directory. -/
def startAt (place : Place) (path : Encoded) : Place := if path.isAbsolute then [] else place

/-- Whether the last name of a place is longer than a name may be. -/
def isTooLong (place : Place) : Bool := place.getLast?.any (longestName < ·.toBytes.length)

/-- How a path goes on at a place. -/
inductive Passage where
  /-- The path leads through the place. -/
  | through
  /-- The path goes on with what a link says. -/
  | link (target : Encoded)
  /-- The path ends before the place. -/
  | blocked (failure : Failure)
deriving DecidableEq, Repr

/-- How a path goes on at a place. It may also lead to where nothing stands, unless nothing can stand
there. -/
def passage (tree : FileTree) (place : Place) : Passage :=
  match tree.get? place with
  | some (.link target) => .link target
  | some .directory => .through
  | some (.file _) => .through
  | none => if isTooLong place then .blocked .nameTooLong else .through

/-- The place that the parts of a path lead to. Every part has to start from a directory; `onLink`
follows what is left of a path behind a link. -/
def followWith (tree : FileTree) (onLink : Place → List Encoded → Except Failure Place) :
    Place → List Encoded → Except Failure Place
  | place, [] => .ok place
  | place, part :: rest =>
    if tree.isDirectoryAt place then
      match tree.passage (step place part) with
      | .through => followWith tree onLink (step place part) rest
      | .link target => onLink (startAt place target) (target.parts ++ rest)
      | .blocked failure => .error failure
    else .error (if (tree.get? place).isSome then .notDirectory else .notFound)

/-- The place that the parts of a path lead to through no more than a number of links. -/
def follow (tree : FileTree) : Nat → Place → List Encoded → Except Failure Place
  | 0 => tree.followWith fun _ _ => .error .tooManyLinks
  | links + 1 => tree.followWith (tree.follow links)

/-- The place that a path leads to, or why it leads nowhere. The empty path leads nowhere. -/
def locate (tree : FileTree) (path : Encoded) : Except Failure Place :=
  if path.isEmpty then .error .notFound
  else tree.follow mostLinks (startAt tree.here path) path.parts

/-- The place that a path leads to. -/
def locate? (tree : FileTree) (path : Encoded) : Option Place := (tree.locate path).toOption

/-- What a path leads to. -/
def find? (tree : FileTree) (path : Encoded) : Option FileEntry :=
  (tree.locate? path).bind tree.get?

/-- Whether a path is seen to lead to a directory. -/
def isDirectory (tree : FileTree) (path : Encoded) : Bool :=
  decide (tree.system.refusal? .look path = none ∧ tree.find? path = some .directory)

/-! ## Reading and writing -/

/-- The text of the file that a path leads to, or why it cannot be read. -/
def readText (tree : FileTree) (path : Encoded) : Except Failure String :=
  match tree.system.refusal? .read path with
  | some reason => .error (.refused reason)
  | none =>
    match tree.locate path with
    | .error failure => .error failure
    | .ok place =>
      match tree.get? place with
      | none => .error .notFound
      | some .directory => .error .isDirectory
      | some (.link _) => .error .tooManyLinks
      | some (.file content) =>
        match content.text? with
        | none => .error .notText
        | some text => .ok text

/-- The text of the file that a path leads to. -/
def read? (tree : FileTree) (path : Encoded) : Option String := (tree.readText path).toOption

/-- Why a file cannot be written. -/
abbrev WriteFailure := Failure

/-- The tree after a file has been written. -/
def write (tree : FileTree) (path content : Encoded) : Except WriteFailure FileTree :=
  match tree.system.rejection? tree.entries path content with
  | some reason => .error (.refused reason)
  | none =>
    match tree.locate path with
    | .error failure => .error failure
    | .ok place =>
      if tree.isDirectoryAt place then .error .isDirectory
      else .ok (tree.put place (.file content))

/-- The tree after directories have been made along the parts of a path, wherever nothing stands
yet. -/
def makeAlong (tree : FileTree) : Place → List Encoded → FileTree
  | _, [] => tree
  | place, part :: rest =>
    let next := step place part
    match tree.get? next with
    | some _ => makeAlong tree next rest
    | none => makeAlong (tree.put next .directory) next rest

/-- The tree after a directory and all that lead to it have been made. -/
def makeDirectory (tree : FileTree) (path : Encoded) : FileTree :=
  tree.makeAlong (startAt tree.here path) path.parts

/-- The tree after a file has been written, with all directories that lead to it. -/
def create (tree : FileTree) (path content : Encoded) : Except WriteFailure FileTree :=
  (tree.makeAlong (startAt tree.here path) path.parts.dropLast).write path content

/-- The tree after what a path leads to has been removed with everything beneath it. -/
def remove (tree : FileTree) (path : Encoded) : FileTree :=
  match tree.locate? path with
  | none => tree
  | some place => tree.erase place

/-- An entry as a list of files shows it: its names separated by `/`, and one more for a
directory. -/
def showEntry (found : Place × FileEntry) : String :=
  "/".intercalate (found.1.map Encoded.shown) ++ if found.2 = .directory then "/" else ""

/-- Everything beneath a path, in the order of the texts shown. -/
def list (tree : FileTree) (path : Encoded) : List String :=
  match tree.locate? path with
  | none => []
  | some place => ((tree.beneath place).map showEntry).mergeSort fun a b => decide (a ≤ b)

/-! ## Walking -/

/-- What stands directly in a directory, by the names of the entries, in order. -/
def children (tree : FileTree) (place : Place) : List (Encoded × FileEntry) :=
  tree.entries.filterMap fun found =>
    found.1.getLast?.bind fun name =>
      if found.1 = place ++ [name] then some (name, found.2) else none

/-- What a walk comes across. -/
inductive Found where
  /-- A file. -/
  | file
  /-- A directory that the file system does not list. -/
  | closed (reason : String)
deriving DecidableEq, Repr

/-- A walk through a directory, with the path by which it is asked for: the entries of one directory
come in order, and what a directory holds comes in its place. An entry whose name is not kept is
left out with everything beneath it, and so is what lies deeper than a number of levels. Links are
passed over. What is found is named from the directory. -/
def walk (tree : FileTree) (keep : Encoded → Bool) : Nat → Encoded → Place → List (Place × Found)
  | 0, _, _ => []
  | levels + 1, path, place =>
    match tree.system.refusal? .list path with
    | some reason => [([], .closed reason)]
    | none =>
      ((tree.children place).filter fun child => keep child.1).flatMap fun child =>
        match child.2 with
        | .directory =>
          (tree.walk keep levels (path.join child.1) (place ++ [child.1])).map fun found =>
            (child.1 :: found.1, found.2)
        | .file _ => [([child.1], .file)]
        | .link _ => []

/-- The number of levels that a tree has. -/
def height (tree : FileTree) : Nat :=
  tree.entries.foldr (fun found levels => max found.1.length levels) 0

/-- No place has more names than the tree has levels. -/
theorem length_le_height {tree : FileTree} {found : Place × FileEntry} (h : found ∈ tree.entries) :
    found.1.length ≤ tree.height := by
  rw [height]
  generalize tree.entries = entries at h ⊢
  induction entries with
  | nil => cases h
  | cons head rest ih =>
    rw [List.foldr_cons]
    rcases List.mem_cons.1 h with rfl | h
    · exact Nat.le_max_left _ _
    · exact Nat.le_trans (ih h) (Nat.le_max_right _ _)

end FileTree

end EventTracking
