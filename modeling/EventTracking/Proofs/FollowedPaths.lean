import EventTracking.FileTree
import EventTracking.Proofs.JoinedPaths

/-!
# Followed paths

Where a path leads is a matter of its parts, one after the other: each starts from a directory and
leads through the next place, or to a link, which tells the parts to follow instead. A path may lead
through a certain number of links and no more (`LeadsTo`).

Main statements: following a path finds where it leads (`follow_eq_ok_iff`), and that is no link
(`LeadsTo.passage`). A path that is put together from two leads where the second one leads from the
end of the first (`LeadsTo.exists_of_append`). Where paths lead depends on nothing but the
directories and links (`SameWays.locate?`), and a plain name leads from a directory to the place of
that name unless a link stands there (`locate?_join`).
-/

namespace EventTracking

open Text

namespace FileTree

variable {tree other : FileTree} {links : Nat} {place last : Place} {part : Encoded}
  {front rest parts : List Encoded}

/-! ## Where parts lead -/

/-- The parts of a path lead from a place to another one through no more than a number of links. -/
inductive LeadsTo (tree : FileTree) : Nat → Place → List Encoded → Place → Prop where
  /-- A path without parts leads nowhere else. -/
  | done (links : Nat) (place : Place) : LeadsTo tree links place [] place
  /-- A part leads from a directory through the next place. -/
  | through {links : Nat} {place last : Place} {part : Encoded} {rest : List Encoded}
      (directory : tree.isDirectoryAt place = true)
      (passage : tree.passage (step place part) = .through)
      (others : LeadsTo tree links (step place part) rest last) :
      LeadsTo tree links place (part :: rest) last
  /-- A part leads from a directory to a link, and on from there. -/
  | link {links : Nat} {place last : Place} {part target : Encoded} {rest : List Encoded}
      (directory : tree.isDirectoryAt place = true)
      (passage : tree.passage (step place part) = .link target)
      (others : LeadsTo tree links (startAt place target) (target.parts ++ rest) last) :
      LeadsTo tree (links + 1) place (part :: rest) last

/-- What is done with one part of a path. -/
theorem follow_cons (tree : FileTree) (links : Nat) (place : Place) (part : Encoded)
    (rest : List Encoded) :
    tree.follow links place (part :: rest) =
      if tree.isDirectoryAt place then
        match tree.passage (step place part) with
        | .through => tree.follow links (step place part) rest
        | .link target =>
          match links with
          | 0 => .error .tooManyLinks
          | fewer + 1 => tree.follow fewer (startAt place target) (target.parts ++ rest)
        | .blocked failure => .error failure
      else .error (if (tree.get? place).isSome then .notDirectory else .notFound) := by
  cases links <;> rfl

/-- Nothing is done when no part is left. -/
theorem follow_nil (tree : FileTree) (links : Nat) (place : Place) :
    tree.follow links place [] = .ok place := by
  cases links <;> rfl

/-- Following parts finds where they lead. -/
theorem LeadsTo.follow (h : tree.LeadsTo links place parts last) :
    tree.follow links place parts = .ok last := by
  induction h with
  | done links place => exact tree.follow_nil links place
  | through hdir hpassage _ ih => rw [follow_cons, if_pos hdir, hpassage, ih]
  | link hdir hpassage _ ih =>
      rw [follow_cons, if_pos hdir, hpassage]
      exact ih

/-- Parts lead where following them ends. -/
theorem leadsTo_of_follow (h : tree.follow links place parts = .ok last) :
    tree.LeadsTo links place parts last := by
  induction links generalizing place parts with
  | zero =>
      induction parts generalizing place with
      | nil =>
          rw [follow_nil] at h
          exact Except.ok.inj h ▸ .done 0 place
      | cons part rest ih =>
          rw [follow_cons] at h
          split at h
          · rename_i hdir
            split at h
            · rename_i hpassage
              exact .through hdir hpassage (ih h)
            · cases h
            · cases h
          · cases h
  | succ links ihlinks =>
      induction parts generalizing place with
      | nil =>
          rw [follow_nil] at h
          exact Except.ok.inj h ▸ .done _ place
      | cons part rest ih =>
          rw [follow_cons] at h
          split at h
          · rename_i hdir
            split at h
            · rename_i hpassage
              exact .through hdir hpassage (ih h)
            · rename_i target hpassage
              exact .link hdir hpassage (ihlinks h)
            · cases h
          · cases h

/-- Parts lead where following them ends, and nowhere else. -/
theorem follow_eq_ok_iff :
    tree.follow links place parts = .ok last ↔ tree.LeadsTo links place parts last :=
  ⟨leadsTo_of_follow, LeadsTo.follow⟩

namespace LeadsTo

/-- Parts lead to a place through which paths lead; no link stands there. -/
theorem passage_of_ne_nil (h : tree.LeadsTo links place parts last) (hparts : parts ≠ []) :
    tree.passage last = .through := by
  induction h with
  | done => exact absurd rfl hparts
  | @through _ _ _ _ rest _ hpassage others ih =>
      by_cases hrest : rest = []
      · subst hrest
        cases others
        exact hpassage
      · exact ih hrest
  | link _ _ _ ih => exact ih (List.append_ne_nil_of_left_ne_nil (Encoded.parts_ne_nil _) _)

/-- Parts that are put together lead where the later ones lead from the end of the earlier ones. -/
theorem exists_of_append (h : tree.LeadsTo links place (front ++ rest) last) :
    ∃ middle fewer, tree.LeadsTo links place front middle ∧
      tree.LeadsTo fewer middle rest last := by
  generalize hparts : front ++ rest = parts at h
  induction h generalizing front with
  | done links place =>
      obtain ⟨rfl, rfl⟩ := List.append_eq_nil_iff.1 hparts
      exact ⟨place, links, .done links place, .done links place⟩
  | @through links place last part others hdir hpassage hothers ih =>
      cases front with
      | nil =>
          rw [List.nil_append] at hparts
          subst hparts
          exact ⟨place, links, .done links place, .through hdir hpassage hothers⟩
      | cons first more =>
          obtain ⟨rfl, rfl⟩ := List.cons.inj hparts
          obtain ⟨middle, fewer, hmore, hrest⟩ := ih rfl
          exact ⟨middle, fewer, .through hdir hpassage hmore, hrest⟩
  | @link links place last part target others hdir hpassage hothers ih =>
      cases front with
      | nil =>
          rw [List.nil_append] at hparts
          subst hparts
          exact ⟨place, links + 1, .done _ place, .link hdir hpassage hothers⟩
      | cons first more =>
          obtain ⟨rfl, rfl⟩ := List.cons.inj hparts
          obtain ⟨middle, fewer, hmore, hrest⟩ := ih (List.append_assoc _ _ _)
          exact ⟨middle, fewer, .link hdir hpassage hmore, hrest⟩

/-- From the end of some parts, more parts lead on through as many links as these have left over. -/
theorem exists_append (h : tree.LeadsTo links place front last) :
    ∃ fewer, ∀ rest, tree.follow links place (front ++ rest) = tree.follow fewer last rest := by
  induction h with
  | done links place => exact ⟨links, fun _ => rfl⟩
  | through hdir hpassage _ ih =>
      obtain ⟨fewer, hfewer⟩ := ih
      refine ⟨fewer, fun rest => ?_⟩
      rw [List.cons_append, follow_cons, if_pos hdir, hpassage]
      exact hfewer rest
  | link hdir hpassage _ ih =>
      obtain ⟨fewer, hfewer⟩ := ih
      refine ⟨fewer, fun rest => ?_⟩
      rw [List.cons_append, follow_cons, if_pos hdir, hpassage, ← hfewer rest, List.append_assoc]

end LeadsTo

/-! ## Where paths lead -/

/-- A path leads to a place exactly if it is not empty and its parts lead there. -/
theorem locate_eq_ok_iff {path : Encoded} :
    tree.locate path = .ok last ↔
      path.isEmpty = false ∧ tree.LeadsTo mostLinks (startAt tree.here path) path.parts last := by
  rw [locate]
  cases hempty : path.isEmpty with
  | true => exact ⟨nofun, fun h => absurd h.1 (by decide)⟩
  | false =>
      rw [if_neg Bool.false_ne_true, follow_eq_ok_iff]
      exact ⟨fun h => ⟨rfl, h⟩, And.right⟩

/-- A path leads to the place at which following it ends. -/
theorem locate?_eq_some_iff {path : Encoded} :
    tree.locate? path = some last ↔ tree.locate path = .ok last := by
  rw [locate?]
  cases tree.locate path with
  | error failure => exact ⟨nofun, nofun⟩
  | ok found => rw [Except.toOption, Option.some_inj, Except.ok.injEq]

/-- A path that leads somewhere is not empty. -/
theorem isEmpty_of_locate? {path : Encoded} (h : tree.locate? path = some last) :
    path.isEmpty = false :=
  (locate_eq_ok_iff.1 (locate?_eq_some_iff.1 h)).1

/-- Paths lead through the place that a path leads to; no link stands there. -/
theorem passage_of_locate? {path : Encoded} (h : tree.locate? path = some last) :
    tree.passage last = .through :=
  (locate_eq_ok_iff.1 (locate?_eq_some_iff.1 h)).2.passage_of_ne_nil path.parts_ne_nil

/-- A path leads through a place where a directory stands. -/
theorem passage_of_isDirectoryAt (h : tree.isDirectoryAt place = true) :
    tree.passage place = .through := by
  rw [passage, of_decide_eq_true h]

/-- A path leads through a place where a file stands. -/
theorem passage_of_file {content : Encoded} (h : tree.get? place = some (.file content)) :
    tree.passage place = .through := by
  rw [passage, h]

/-! ## Directories and links -/

/-- Paths lead through two trees in the same way: they start from the same place, and the same
directories and links stand on the way. -/
structure SameWays (tree other : FileTree) : Prop where
  /-- Paths start from the same place. -/
  here : other.here = tree.here
  /-- The directories are the same. -/
  isDirectoryAt : ∀ place, other.isDirectoryAt place = tree.isDirectoryAt place
  /-- Paths go on in the same way at each place. -/
  passage : ∀ place, other.passage place = tree.passage place

namespace SameWays

/-- Paths lead through a tree as they do. -/
theorem refl (tree : FileTree) : tree.SameWays tree := ⟨rfl, fun _ => rfl, fun _ => rfl⟩

/-- Paths lead through a third tree as they do through the second. -/
theorem trans {third : FileTree} (h : tree.SameWays other) (h' : other.SameWays third) :
    tree.SameWays third where
  here := h'.here.trans h.here
  isDirectoryAt place := (h'.isDirectoryAt place).trans (h.isDirectoryAt place)
  passage place := (h'.passage place).trans (h.passage place)

/-- Paths lead through the first tree as they do through the second. -/
theorem symm (h : tree.SameWays other) : other.SameWays tree where
  here := h.here.symm
  isDirectoryAt place := (h.isDirectoryAt place).symm
  passage place := (h.passage place).symm

/-- Parts lead where they led. -/
theorem leadsTo (h : tree.SameWays other) (hleads : tree.LeadsTo links place parts last) :
    other.LeadsTo links place parts last := by
  induction hleads with
  | done links place => exact .done links place
  | through hdir hpassage _ ih =>
      exact .through ((h.isDirectoryAt _).trans hdir) ((h.passage _).trans hpassage) ih
  | link hdir hpassage _ ih =>
      exact .link ((h.isDirectoryAt _).trans hdir) ((h.passage _).trans hpassage) ih

/-- Paths lead where they led. -/
theorem locate? (h : tree.SameWays other) (path : Encoded) :
    other.locate? path = tree.locate? path := by
  have hiff {a b : FileTree} (hways : a.SameWays b) (place : Place)
      (hplace : a.locate? path = some place) : b.locate? path = some place := by
    obtain ⟨hempty, hleads⟩ := locate_eq_ok_iff.1 (locate?_eq_some_iff.1 hplace)
    exact locate?_eq_some_iff.2 (locate_eq_ok_iff.2 ⟨hempty, hways.here ▸ hways.leadsTo hleads⟩)
  apply Option.ext
  intro place
  exact ⟨hiff h.symm place, hiff h place⟩

end SameWays

/-! ## Names in a directory -/

/-- A plain name leads to the entry of that name. -/
theorem step_of_isPlain {name : Encoded} (h : name.IsPlain) (place : Place) :
    step place name = place ++ [name] := by
  rw [step, if_neg (not_or.2 ⟨h.ne_empty, h.ne_current⟩), if_neg h.ne_parent]

/-- An empty part leads nowhere else. -/
theorem step_empty (place : Place) : step place "" = place := by
  rw [step, if_pos (.inl rfl)]

/-- The path to a plain name in a directory goes on from the directory. -/
theorem exists_locate_join {directory name : Encoded} (hl : tree.locate? directory = some place)
    (hd : tree.isDirectoryAt place = true) (hn : name.IsPlain) :
    ∃ fewer, tree.locate (directory.join name) = tree.follow fewer place [name] := by
  obtain ⟨hempty, hleads⟩ := locate_eq_ok_iff.1 (locate?_eq_some_iff.1 hl)
  have hstart : startAt tree.here (directory.join name) = startAt tree.here directory := by
    rw [startAt, startAt, Encoded.isAbsolute_join hempty hn]
  rw [locate, Encoded.isEmpty_join hempty hn, if_neg Bool.false_ne_true, hstart]
  rcases Encoded.parts_join hempty hn with hparts | ⟨front, hfront, hparts⟩
  · obtain ⟨fewer, hfewer⟩ := hleads.exists_append
    exact ⟨fewer, by rw [hparts, hfewer]⟩
  · -- the directory is written with a separator at its end, which leads nowhere further
    rw [hfront] at hleads
    obtain ⟨middle, fewer, hmiddle, hend⟩ := hleads.exists_of_append
    have hsame : middle = place := by
      cases hend with
      | through hdir _ hdone =>
          cases hdone
          exact (step_empty middle).symm
      | link hdir hpassage _ =>
          rw [step_empty, passage_of_isDirectoryAt hdir] at hpassage
          cases hpassage
    obtain ⟨fewer, hfewer⟩ := hmiddle.exists_append
    exact ⟨fewer, by rw [hparts, hfewer, hsame]⟩

/-- In a directory a plain name leads to the place of that name below the directory, if paths lead
through that place. -/
theorem locate?_join {directory name : Encoded} (hl : tree.locate? directory = some place)
    (hd : tree.isDirectoryAt place = true) (hn : name.IsPlain)
    (hpassage : tree.passage (place ++ [name]) = .through) :
    tree.locate? (directory.join name) = some (place ++ [name]) := by
  obtain ⟨fewer, hfollow⟩ := exists_locate_join hl hd hn
  rw [locate?_eq_some_iff, hfollow, follow_cons, if_pos hd, step_of_isPlain hn, hpassage]
  exact tree.follow_nil fewer _

/-- A directory is found at the place that its path leads to. -/
theorem exists_of_isDirectory {path : Encoded} (h : tree.isDirectory path = true) :
    ∃ place, tree.locate? path = some place ∧ tree.isDirectoryAt place = true := by
  obtain ⟨-, hfound⟩ := of_decide_eq_true h
  obtain ⟨place, hplace, hget⟩ := Option.bind_eq_some_iff.1 hfound
  exact ⟨place, hplace, decide_eq_true hget⟩

end FileTree

end EventTracking
