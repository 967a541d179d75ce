import EventTracking.Path
import Mathlib.Data.List.Nodup

/-!
# Joined paths

A plain name, which holds no separator and is neither empty nor one of the names for the directory
itself and the enclosing one, is joined to the path of a directory by adding it, with a separator
unless there is one. So it becomes the last part of the path.

Main statements: joining keeps plain names apart (`Encoded.join_injective`), and adds them to the
parts of the path (`Encoded.parts_join`).
-/

namespace EventTracking

open Text

namespace Path

/-! ## Parts of joined paths -/

section

variable {α : Type} [DecidableEq α] {separator : α}

/-- A separator ends an empty part. -/
theorem parts_separator_cons (separator : α) (rest : List α) :
    parts separator (separator :: rest) = [] :: parts separator rest := by
  rw [parts, if_pos rfl]

/-- Any other character belongs to the first part. -/
theorem parts_cons_of_ne {c : α} {rest part : List α} {others : List (List α)}
    (hc : c ≠ separator) (h : parts separator rest = part :: others) :
    parts separator (c :: rest) = (c :: part) :: others := by
  rw [parts, if_neg hc, h]

/-- A text has a first part. -/
theorem exists_parts_eq_cons (separator : α) (text : List α) :
    ∃ part others, parts separator text = part :: others := by
  induction text with
  | nil => exact ⟨[], [], rfl⟩
  | cons c rest ih =>
      by_cases hc : c = separator
      · subst hc
        exact ⟨[], parts c rest, parts_separator_cons c rest⟩
      · obtain ⟨part, others, h⟩ := ih
        exact ⟨c :: part, others, parts_cons_of_ne hc h⟩

/-- A separator divides the parts before it from those after it. -/
theorem parts_append_separator (separator : α) (before after : List α) :
    parts separator (before ++ separator :: after) =
      parts separator before ++ parts separator after := by
  induction before with
  | nil => exact parts_separator_cons separator after
  | cons c rest ih =>
      by_cases hc : c = separator
      · subst hc
        rw [List.cons_append, parts_separator_cons, parts_separator_cons, ih, List.cons_append]
      · obtain ⟨part, others, h⟩ := exists_parts_eq_cons separator rest
        rw [h, List.cons_append] at ih
        rw [List.cons_append, parts_cons_of_ne hc ih, parts_cons_of_ne hc h, List.cons_append]

/-- A text without separators is its only part. -/
theorem parts_of_notMem {text : List α} (h : separator ∉ text) : parts separator text = [text] := by
  induction text with
  | nil => rfl
  | cons c rest ih =>
      rw [List.mem_cons, not_or] at h
      exact parts_cons_of_ne (Ne.symm h.1) (ih h.2)

variable {base name other : List α}

/-- A name without separators is joined to a directory by adding it, with a separator unless there
is one. -/
theorem joined_of_notMem (hb : base ≠ []) (h : separator ∉ name) :
    joined separator base name =
      if base.getLast? = some separator then base ++ name else base ++ separator :: name := by
  have hhead : name.head? ≠ some separator := fun hs => h (List.mem_of_mem_head? hs)
  have hne : base.isEmpty = false := List.isEmpty_eq_false_iff.2 hb
  rw [joined, if_neg hhead, hne, Bool.false_or]
  simp only [decide_eq_true_eq]

/-- A joined path begins as the directory does. -/
theorem exists_joined_eq_append (hb : base ≠ []) (h : separator ∉ name) :
    ∃ rest, joined separator base name = base ++ rest := by
  rw [joined_of_notMem hb h]
  split
  · exact ⟨_, rfl⟩
  · exact ⟨_, rfl⟩

/-- Joining keeps names without separators apart. -/
theorem joined_injective (hb : base ≠ []) (hn : separator ∉ name) (ho : separator ∉ other)
    (h : joined separator base name = joined separator base other) : name = other := by
  rw [joined_of_notMem hb hn, joined_of_notMem hb ho] at h
  split at h
  · exact List.append_cancel_left h
  · exact (List.cons.inj (List.append_cancel_left h)).2

/-- The parts of a joined path are those of the directory, but for an empty one at the end, and the
name. -/
theorem parts_joined (hb : base ≠ []) (h : separator ∉ name) :
    parts separator (joined separator base name) = parts separator base ++ [name] ∨
      ∃ front, parts separator base = front ++ [[]] ∧
        parts separator (joined separator base name) = front ++ [name] := by
  have hname : parts separator name = [name] := parts_of_notMem h
  rw [joined_of_notMem hb h]
  split
  · rename_i hlast
    obtain ⟨front, hfront⟩ : ∃ front, base = front ++ [separator] := by
      rw [List.getLast?_eq_some_iff] at hlast
      exact hlast
    refine .inr ⟨parts separator front, ?_, ?_⟩
    · rw [hfront, parts_append_separator]
      rfl
    · rw [hfront, List.append_assoc, List.singleton_append, parts_append_separator, hname]
  · exact .inl (by rw [parts_append_separator, hname])

end

/-! ## Plain names -/

/-- A plain name is the name of an entry: it is not empty, is neither `.` nor `..`, and holds no
separator. -/
structure IsPlain (name : String) : Prop where
  /-- The name is not empty. -/
  ne_nil : name.toList ≠ []
  /-- The name is not the one for the directory itself. -/
  ne_current : name.toList ≠ ['.']
  /-- The name is not the one for the enclosing directory. -/
  ne_parent : name.toList ≠ ['.', '.']
  /-- The name holds no separator. -/
  separator_notMem : '/' ∉ name.toList

instance (name : String) : Decidable (IsPlain name) :=
  decidable_of_iff (name.toList ≠ [] ∧ name.toList ≠ ['.'] ∧ name.toList ≠ ['.', '.'] ∧
      '/' ∉ name.toList)
    ⟨fun ⟨hnil, hcurrent, hparent, hmem⟩ => ⟨hnil, hcurrent, hparent, hmem⟩,
      fun h => ⟨h.ne_nil, h.ne_current, h.ne_parent, h.separator_notMem⟩⟩

/-- The parts of a path to a plain name are those of the directory, but for an empty one at the end,
and the plain name. -/
theorem parts_join {base name : String} (hb : base.toList ≠ []) (h : IsPlain name) :
    parts '/' (join base name).toList = parts '/' base.toList ++ [name.toList] ∨
      ∃ front, parts '/' base.toList = front ++ [[]] ∧
        parts '/' (join base name).toList = front ++ [name.toList] := by
  rw [join, String.toList_ofList]
  exact parts_joined hb h.separator_notMem

end Path

namespace Text.Encoded

/-! ## Encoded paths -/

/-- A plain name is the name of an entry, be it a text or not. -/
structure IsPlain (name : Encoded) : Prop where
  /-- The name is not empty. -/
  ne_empty : name ≠ ""
  /-- The name is not the one for the directory itself. -/
  ne_current : name ≠ "."
  /-- The name is not the one for the enclosing directory. -/
  ne_parent : name ≠ ".."
  /-- The name holds no separator. -/
  separator_notMem : Path.slash ∉ name.toBytes

instance (name : Encoded) : Decidable name.IsPlain :=
  decidable_of_iff (name ≠ "" ∧ name ≠ "." ∧ name ≠ ".." ∧ Path.slash ∉ name.toBytes)
    ⟨fun ⟨hempty, hcurrent, hparent, hmem⟩ => ⟨hempty, hcurrent, hparent, hmem⟩,
      fun h => ⟨h.ne_empty, h.ne_current, h.ne_parent, h.separator_notMem⟩⟩

/-- A text is a plain name of an entry exactly if it is a plain name. -/
theorem isPlain_text {name : String} : (text name).IsPlain ↔ Path.IsPlain name := by
  have hne (other : String) : text name ≠ text other ↔ name.toList ≠ other.toList := by
    rw [Ne, text.injEq, Ne, String.toList_inj]
  constructor
  · intro h
    exact ⟨(hne "").1 h.ne_empty, (hne ".").1 h.ne_current, (hne "..").1 h.ne_parent,
      fun hmem => h.separator_notMem (Path.slash_mem_toBytes_iff.2 hmem)⟩
  · intro h
    exact ⟨(hne "").2 h.ne_nil, (hne ".").2 h.ne_current, (hne "..").2 h.ne_parent,
      fun hmem => h.separator_notMem (Path.slash_mem_toBytes_iff.1 hmem)⟩

variable {base name other : Encoded}

/-- A path is empty exactly if it has no bytes. -/
theorem isEmpty_eq_false_iff {path : Encoded} : path.isEmpty = false ↔ path.toBytes ≠ [] :=
  List.isEmpty_eq_false_iff

/-- A text has characters if it has bytes. -/
theorem ne_nil_of_isEmpty {path : String} (h : (text path).isEmpty = false) : path.toList ≠ [] := by
  rw [isEmpty_eq_false_iff, toBytes_text] at h
  exact fun hnil => h (by rw [hnil]; rfl)

/-- A path has parts. -/
theorem parts_ne_nil (path : Encoded) : path.parts ≠ [] := by
  obtain ⟨part, others, h⟩ := Path.exists_parts_eq_cons Path.slash path.toBytes
  rw [parts, h]
  exact List.cons_ne_nil _ _

/-- A path that has been joined is not empty. -/
theorem isEmpty_join (hb : base.isEmpty = false) (h : name.IsPlain) :
    (base.join name).isEmpty = false := by
  rw [isEmpty_eq_false_iff] at hb ⊢
  obtain ⟨rest, hrest⟩ := Path.exists_joined_eq_append hb h.separator_notMem
  rw [join, toBytes_ofBytes, hrest]
  exact List.append_ne_nil_of_left_ne_nil hb rest

/-- A joined path starts where the path of the directory does. -/
theorem isAbsolute_join (hb : base.isEmpty = false) (h : name.IsPlain) :
    (base.join name).isAbsolute = base.isAbsolute := by
  rw [isEmpty_eq_false_iff] at hb
  obtain ⟨rest, hrest⟩ := Path.exists_joined_eq_append hb h.separator_notMem
  obtain ⟨byte, bytes, hbase⟩ := List.exists_cons_of_ne_nil hb
  rw [isAbsolute, isAbsolute, join, toBytes_ofBytes, hrest, hbase]
  rfl

/-- Joining keeps plain names apart. -/
theorem join_injective (hb : base.isEmpty = false) (hn : name.IsPlain) (ho : other.IsPlain)
    (h : base.join name = base.join other) : name = other := by
  have hbytes := congrArg toBytes h
  rw [join, join, toBytes_ofBytes, toBytes_ofBytes] at hbytes
  exact toBytes_injective (Path.joined_injective (isEmpty_eq_false_iff.1 hb) hn.separator_notMem
    ho.separator_notMem hbytes)

/-- The parts of a path to a plain name are those of the directory, but for an empty one at the end,
and the plain name. -/
theorem parts_join (hb : base.isEmpty = false) (h : name.IsPlain) :
    (base.join name).parts = base.parts ++ [name] ∨
      ∃ front, base.parts = front ++ [("" : Encoded)] ∧ (base.join name).parts = front ++ [name] := by
  have hempty : ofBytes [] = "" := rfl
  rw [parts, parts, join, toBytes_ofBytes]
  rcases Path.parts_joined (isEmpty_eq_false_iff.1 hb) h.separator_notMem with
    hparts | ⟨front, hfront, hparts⟩
  · left
    rw [hparts, List.map_append, List.map_singleton, ofBytes_toBytes]
  · right
    refine ⟨front.map ofBytes, ?_, ?_⟩
    · rw [hfront, List.map_append, List.map_singleton, hempty]
    · rw [hparts, List.map_append, List.map_singleton, ofBytes_toBytes]

end Text.Encoded

end EventTracking
