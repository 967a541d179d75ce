import EventTracking.Loading
import EventTracking.Proofs.JoinedPaths

/-!
# Components of joined paths

A plain name that is joined to a path is one more component of it. So the paths of what lies beneath
a directory are in the order of the names that lead there, one after the other, and not in that of
their texts: `a/b.rs` comes before `a.rs`.

Main statements: joining names to a directory adds them to the components of its path
(`components_pathBelow`), and names in order make paths in order (`texts_pathBelow_lt`).
-/

namespace EventTracking

open Text

namespace Path

/-! ## Components of joined paths -/

/-- A plain name is the component that it stands for. -/
theorem innerComponent_of_isPlain {name : String} (h : IsPlain name) :
    innerComponent name.toList = some (.entry name) := by
  unfold innerComponent
  split
  · rename_i hn
    exact absurd hn h.ne_nil
  · rename_i hn
    exact absurd hn h.ne_current
  · rename_i hn
    exact absurd hn h.ne_parent
  · rw [String.ofList_toList]

/-- Only the empty text has nothing but an empty part. -/
theorem eq_nil_of_parts {text : List Char} (h : parts '/' text = [[]]) : text = [] := by
  cases text with
  | nil => rfl
  | cons c rest =>
      obtain ⟨part, others, hrest⟩ := exists_parts_eq_cons '/' rest
      by_cases hc : c = '/'
      · subst hc
        rw [parts_separator_cons, hrest] at h
        cases h
      · rw [parts_cons_of_ne hc hrest] at h
        cases h

/-- The components of a path that has parts. -/
theorem components_of_parts {path : String} {first : List Char} {rest : List (List Char)}
    (hne : path.toList ≠ []) (h : parts '/' path.toList = first :: rest) :
    components path = (leadingComponent first).toList ++ rest.filterMap innerComponent := by
  rw [components, if_neg (by rwa [List.isEmpty_iff]), h]

/-- A path that has been joined is not empty. -/
theorem join_ne_nil {base name : String} (hb : base.toList ≠ []) (h : IsPlain name) :
    (join base name).toList ≠ [] := by
  obtain ⟨rest, hrest⟩ := exists_joined_eq_append hb h.separator_notMem
  rw [join, String.toList_ofList, hrest]
  exact List.append_ne_nil_of_left_ne_nil hb rest

/-- Joining a plain name to a path adds it to the components. -/
theorem components_join {base name : String} (hb : base.toList ≠ []) (h : IsPlain name) :
    components (join base name) = components base ++ [.entry name] := by
  have hname : [name.toList].filterMap innerComponent = [.entry name] := by
    rw [List.filterMap_cons_some (innerComponent_of_isPlain h), List.filterMap_nil]
  rcases parts_join hb h with hparts | ⟨front, hfront, hparts⟩
  · obtain ⟨first, rest, hbase⟩ := exists_parts_eq_cons '/' base.toList
    rw [hbase, List.cons_append] at hparts
    rw [components_of_parts (join_ne_nil hb h) hparts, components_of_parts hb hbase,
      List.filterMap_append, hname, List.append_assoc]
  · cases front with
    | nil => exact absurd (eq_nil_of_parts hfront) hb
    | cons first rest =>
        rw [List.cons_append] at hfront hparts
        -- the empty part at the end of the path is no component
        have hempty : [([] : List Char)].filterMap innerComponent = [] := rfl
        rw [components_of_parts (join_ne_nil hb h) hparts, components_of_parts hb hfront,
          List.filterMap_append, List.filterMap_append, hname, hempty, List.append_nil,
          List.append_assoc]

/-- The path of what names lead to from a directory, all of them being texts. -/
def pathBelow (root : String) (names : List String) : String := names.foldl join root

/-- Where the directory and the names are texts, so is the path. -/
theorem pathBelow_text (root : String) (names : List String) :
    EventTracking.pathBelow root (names.map Encoded.text) = pathBelow root names := by
  rw [EventTracking.pathBelow, pathBelow]
  induction names generalizing root with
  | nil => rfl
  | cons first rest ih =>
      rw [List.map_cons, List.foldl_cons, List.foldl_cons, Encoded.join_text, ih]

/-- Joining plain names to a path one after the other adds them to the components. -/
theorem components_pathBelow {root : String} {names : List String} (hroot : root.toList ≠ [])
    (h : ∀ name ∈ names, IsPlain name) :
    components (pathBelow root names) = components root ++ names.map .entry := by
  rw [pathBelow]
  induction names generalizing root with
  | nil => exact (List.append_nil _).symm
  | cons first rest ih =>
      obtain ⟨hfirst, hrest⟩ := List.forall_mem_cons.1 h
      rw [List.foldl_cons, ih (join_ne_nil hroot hfirst) hrest, components_join hroot hfirst,
        List.append_assoc]
      rfl

/-- The components of a path as they are written. -/
def texts (path : String) : List String := (components path).map Component.text

/-- Files beneath a directory are in the order of the names that lead to them from there. -/
theorem texts_pathBelow_lt {root : String} {names others : List String}
    (hroot : root.toList ≠ []) (hnames : ∀ name ∈ names, IsPlain name)
    (hothers : ∀ name ∈ others, IsPlain name) (hlt : names < others) :
    texts (pathBelow root names) < texts (pathBelow root others) := by
  have htexts (names : List String) : (names.map Component.entry).map Component.text = names := by
    rw [List.map_map]
    exact List.map_id names
  rw [texts, texts, components_pathBelow hroot hnames, components_pathBelow hroot hothers,
    List.map_append, List.map_append, htexts, htexts]
  exact List.append_left_lt hlt

/-- A name is that of a source file exactly if it has an ending `rs` behind something. -/
theorem isSourceName_iff {name : String} :
    isSourceName name = true ↔ ∃ stem, stem ≠ "" ∧ name = stem ++ ".rs" := by
  unfold isSourceName withoutEnding?
  split
  · rename_i stem hstem
    split at hstem
    · rename_i hsuffix
      obtain rfl := Option.some.inj hstem
      obtain ⟨front, hfront⟩ := List.isSuffixOf_iff_suffix.1 hsuffix
      have htake : name.toList.take (name.toList.length - ".rs".toList.length) = front := by
        rw [← hfront, List.length_append, Nat.add_sub_cancel, List.take_left]
      rw [htake, String.toList_ofList]
      constructor
      · intro hne
        refine ⟨String.ofList front, ?_, ?_⟩
        · rintro hempty
          rw [← String.toList_ofList (l := front), hempty] at hne
          cases hne
        · rw [← String.toList_inj, String.toList_append, String.toList_ofList, hfront]
      · rintro ⟨stem, hne, rfl⟩
        rw [String.toList_append] at hfront
        rw [List.append_cancel_right hfront]
        simpa using hne
    · cases hstem
  · rename_i hnone
    split at hnone
    · cases hnone
    · rename_i hsuffix
      refine iff_of_false Bool.false_ne_true ?_
      rintro ⟨stem, -, rfl⟩
      apply hsuffix
      rw [List.isSuffixOf_iff_suffix, String.toList_append]
      exact List.suffix_append _ _

end Path

end EventTracking
