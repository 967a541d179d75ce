import EventTracking.Proofs.Writing
import Mathlib

/-!
# Walks

A walk goes through the entries of each directory in order and passes over what is not kept. In a
file tree where every entry stands in a directory, and on a file system that lists every directory,
the walk finds each file beneath the directory exactly once, unless a name that leads there is not
kept or is that of a link. It finds the files in the order of the names that lead there.

Main statements: a walk finds exactly the files to which kept names lead (`mem_walk`), in the order
of their names (`pairwise_walk`). Joining these names to the path of the directory leads there
(`locate?_pathBelow`).
-/

namespace EventTracking.FileTree

open Text

variable {tree : FileTree} {keep : Encoded → Bool}

/-! ## Well-formed file trees -/

/-- A file tree is well formed if every entry but the root stands in a directory, and all names are
plain. -/
structure IsWellFormed (tree : FileTree) : Prop where
  /-- An entry stands in a directory. -/
  parent : ∀ found ∈ tree.entries, found.1 ≠ [] → tree.isDirectoryAt found.1.dropLast = true
  /-- Names are plain. -/
  plain : ∀ found ∈ tree.entries, ∀ name ∈ found.1, name.IsPlain

instance (tree : FileTree) : Decidable tree.IsWellFormed :=
  decidable_of_iff ((∀ found ∈ tree.entries, found.1 ≠ [] →
      tree.isDirectoryAt found.1.dropLast = true) ∧
      ∀ found ∈ tree.entries, ∀ name ∈ found.1, name.IsPlain)
    ⟨fun ⟨hparent, hplain⟩ => ⟨hparent, hplain⟩, fun h => ⟨h.parent, h.plain⟩⟩

/-- All names on the way to an entry lead to directories. -/
theorem IsWellFormed.get?_of_append {front back : Place} {entry : FileEntry}
    (h : tree.IsWellFormed) (hget : tree.get? (front ++ back) = some entry) (hback : back ≠ []) :
    tree.get? front = some .directory := by
  induction back using List.reverseRecOn generalizing entry with
  | nil => exact absurd rfl hback
  | append_singleton more name ih =>
      have hne : front ++ (more ++ [name]) ≠ [] := by
        rw [← List.append_assoc]
        exact List.concat_ne_nil _ _
      have hparent := h.parent _ (mem_entries_iff.2 hget) hne
      rw [isDirectoryAt, decide_eq_true_eq, ← List.append_assoc, List.dropLast_concat] at hparent
      by_cases hmore : more = []
      · rw [hmore, List.append_nil] at hparent
        exact hparent
      · exact ih hparent hmore

/-! ## Entries of a directory -/

/-- The entries of a directory are what stands at its place with one more name. -/
theorem mem_children {place : Place} {child : Encoded × FileEntry} :
    child ∈ tree.children place ↔ tree.get? (place ++ [child.1]) = some child.2 := by
  rw [children, List.mem_filterMap, ← mem_entries_iff]
  constructor
  · rintro ⟨found, hfound, hchild⟩
    obtain ⟨name, -, hname⟩ := Option.bind_eq_some_iff.1 hchild
    split at hname
    · rename_i hplace
      obtain rfl := Option.some.inj hname
      exact hplace ▸ hfound
    · cases hname
  · intro hmem
    refine ⟨_, hmem, ?_⟩
    rw [List.getLast?_concat, Option.bind_some, if_pos rfl]

/-- The entries of a directory come in the order of their names. -/
theorem pairwise_children (tree : FileTree) (place : Place) :
    (tree.children place).Pairwise fun a b => a.1 < b.1 := by
  refine List.pairwise_filterMap.2 (tree.sorted.imp ?_)
  intro a b hlt x hx y hy
  -- both places are that of the directory with one more name
  have hplace {found : Place × FileEntry} {child : Encoded × FileEntry}
      (h : (found.1.getLast?.bind fun name =>
        if found.1 = place ++ [name] then some (name, found.2) else none) = some child) :
      found.1 = place ++ [child.1] := by
    obtain ⟨name, -, hname⟩ := Option.bind_eq_some_iff.1 h
    split at hname
    · rename_i hplace
      obtain rfl := Option.some.inj hname
      exact hplace
    · cases hname
  rw [hplace hx, hplace hy] at hlt
  rcases List.cons_lt_cons_iff.1 (lt_of_append_lt hlt) with hname | ⟨-, hnil⟩
  · exact hname
  · exact absurd hnil (List.lt_irrefl _)

/-! ## Walks -/

/-- What a walk of one level less finds at and in an entry of a directory. -/
def visit (tree : FileTree) (keep : Encoded → Bool) (levels : Nat) (path : Encoded) (place : Place)
    (child : Encoded × FileEntry) : List (Place × Found) :=
  match child.2 with
  | .directory =>
    (tree.walk keep levels (path.join child.1) (place ++ [child.1])).map fun found =>
      (child.1 :: found.1, found.2)
  | .file _ => [([child.1], .file)]
  | .link _ => []

/-- A walk visits the entries of the directory whose names are kept, in order, unless the file
system does not list them. -/
theorem walk_succ (levels : Nat) (path : Encoded) (place : Place) :
    tree.walk keep (levels + 1) path place =
      match tree.system.refusal? .list path with
      | some reason => [([], .closed reason)]
      | none =>
        ((tree.children place).filter fun child => keep child.1).flatMap
          (tree.visit keep levels path place) := rfl

/-- What is found by a visit to an entry is the entry, if it is a file, or something in it. -/
theorem mem_visit {levels : Nat} {path : Encoded} {place : Place} {child : Encoded × FileEntry}
    {found : Place × Found} :
    found ∈ tree.visit keep levels path place child ↔
      ∃ names, found.1 = child.1 :: names ∧
        ((∃ content, child.2 = .file content) ∧ names = [] ∧ found.2 = .file ∨
          child.2 = .directory ∧
            (names, found.2) ∈ tree.walk keep levels (path.join child.1) (place ++ [child.1])) := by
  obtain ⟨name, entry⟩ := child
  obtain ⟨below, kind⟩ := found
  cases entry with
  | directory =>
      rw [visit, List.mem_map]
      constructor
      · rintro ⟨inner, hinner, hfound⟩
        cases hfound
        exact ⟨inner.1, rfl, .inr ⟨rfl, hinner⟩⟩
      · rintro ⟨names, rfl, ⟨⟨content, hfile⟩, -⟩ | ⟨-, hinner⟩⟩
        · cases hfile
        · exact ⟨_, hinner, rfl⟩
  | file content =>
      rw [visit, List.mem_singleton]
      constructor
      · intro hfound
        cases hfound
        exact ⟨[], rfl, .inl ⟨⟨content, rfl⟩, rfl, rfl⟩⟩
      · rintro ⟨names, rfl, ⟨-, rfl, rfl⟩ | ⟨hdirectory, -⟩⟩
        · rfl
        · cases hdirectory
  | link target =>
      refine iff_of_false List.not_mem_nil ?_
      rintro ⟨names, -, ⟨⟨content, hfile⟩, -⟩ | ⟨hdirectory, -⟩⟩
      · cases hfile
      · cases hdirectory

/-- A walk finds exactly the files beneath the directory, down to the last level, to which only
names that are kept lead. -/
theorem mem_walk (h : tree.IsWellFormed) (hopen : ∀ path, tree.system.refusal? .list path = none)
    {levels : Nat} {path : Encoded} {place names : Place} {found : Found} :
    (names, found) ∈ tree.walk keep levels path place ↔
      found = .file ∧ names ≠ [] ∧ names.length ≤ levels ∧ (∀ name ∈ names, keep name = true) ∧
        ∃ content, tree.get? (place ++ names) = some (.file content) := by
  induction levels generalizing path place names with
  | zero =>
      constructor
      · intro hmem
        cases hmem
      · rintro ⟨-, hne, hlength, -⟩
        exact absurd (List.eq_nil_of_length_eq_zero (Nat.le_zero.1 hlength)) hne
  | succ levels ih =>
      rw [walk_succ, hopen]
      dsimp only
      rw [List.mem_flatMap]
      constructor
      · rintro ⟨⟨name, entry⟩, hchild, hfound⟩
        obtain ⟨hmem, hkeep⟩ := List.mem_filter.1 hchild
        have hget : tree.get? (place ++ [name]) = some entry := mem_children.1 hmem
        obtain ⟨more, rfl, ⟨⟨content, rfl⟩, rfl, rfl⟩ | ⟨-, hinner⟩⟩ := mem_visit.1 hfound
        · exact ⟨rfl, List.cons_ne_nil _ _, Nat.le_add_left 1 levels,
            List.forall_mem_singleton.2 hkeep, content, hget⟩
        · obtain ⟨rfl, -, hlength, hall, hbelow⟩ := ih.1 hinner
          refine ⟨rfl, List.cons_ne_nil _ _, Nat.succ_le_succ hlength,
            List.forall_mem_cons.2 ⟨hkeep, hall⟩, ?_⟩
          rwa [List.append_assoc, List.singleton_append] at hbelow
      · rintro ⟨rfl, hne, hlength, hall, content, hget⟩
        obtain ⟨name, more, rfl⟩ := List.exists_cons_of_ne_nil hne
        obtain ⟨hkeep, hrest⟩ := List.forall_mem_cons.1 hall
        by_cases hmore : more = []
        · subst hmore
          exact ⟨(name, .file content), List.mem_filter.2 ⟨mem_children.2 hget, hkeep⟩,
            mem_visit.2 ⟨[], rfl, .inl ⟨⟨content, rfl⟩, rfl, rfl⟩⟩⟩
        · rw [List.append_cons] at hget
          -- the first name leads to a directory, since something stands beneath it
          exact ⟨(name, .directory),
            List.mem_filter.2 ⟨mem_children.2 (h.get?_of_append hget hmore), hkeep⟩,
            mem_visit.2 ⟨more, rfl, .inr ⟨rfl, ih.2
              ⟨rfl, hmore, Nat.le_of_succ_le_succ hlength, hrest, content, hget⟩⟩⟩⟩

/-- A walk finds things in the order of their names. -/
theorem pairwise_walk (tree : FileTree) (keep : Encoded → Bool) (levels : Nat) (path : Encoded)
    (place : Place) : (tree.walk keep levels path place).Pairwise fun a b => a.1 < b.1 := by
  induction levels generalizing path place with
  | zero => exact .nil
  | succ levels ih =>
      rw [walk_succ]
      split
      · exact List.pairwise_singleton _ _
      · rw [List.pairwise_flatMap]
        constructor
        · rintro child -
          unfold visit
          split
          · refine List.pairwise_map.2 ((ih _ _).imp ?_)
            exact fun hlt => List.cons_lt_cons_iff.2 (.inr ⟨rfl, hlt⟩)
          · exact List.pairwise_singleton _ _
          · exact .nil
        · refine ((pairwise_children tree place).filter _).imp ?_
          intro child other hlt found hfound next hnext
          obtain ⟨names, hnames, -⟩ := mem_visit.1 hfound
          obtain ⟨more, hmore, -⟩ := mem_visit.1 hnext
          rw [hnames, hmore]
          exact List.cons_lt_cons_iff.2 (.inl hlt)

/-! ## Paths of what is found -/

/-- The names that lead to a file from a directory lead there when they are joined to its path. -/
theorem locate?_pathBelow (h : tree.IsWellFormed) {root : Encoded} {place names : Place}
    {content : Encoded} (hroot : tree.locate? root = some place)
    (hget : tree.get? (place ++ names) = some (.file content)) (hnames : names ≠ []) :
    tree.locate? (names.foldl Encoded.join root) = some (place ++ names) := by
  induction names generalizing root place with
  | nil => exact absurd rfl hnames
  | cons name rest ih =>
      have hplain : name.IsPlain :=
        h.plain _ (mem_entries_iff.2 hget) name (List.mem_append_right _ List.mem_cons_self)
      have hdirectory : tree.isDirectoryAt place = true :=
        decide_eq_true (h.get?_of_append hget hnames)
      rw [List.foldl_cons]
      rw [List.append_cons] at hget ⊢
      by_cases hrest : rest = []
      · subst hrest
        rw [List.append_nil] at hget ⊢
        exact locate?_join hroot hdirectory hplain (passage_of_file hget)
      · have hnext : tree.get? (place ++ [name]) = some .directory :=
          h.get?_of_append hget hrest
        refine ih (locate?_join hroot hdirectory hplain ?_) hget hrest
        exact passage_of_isDirectoryAt (decide_eq_true hnext)

end EventTracking.FileTree
