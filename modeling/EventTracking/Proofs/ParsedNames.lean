import EventTracking.Name
import Mathlib

/-!
# Names that are read back

A name is read from a text that is cut at every `::`, from the left and without overlaps, and empty
pieces are left out. A run of more than two colons leaves a colon over, which goes to the front of
the next piece, and so no piece ends in a colon but the last one. That is why the pieces can be
joined again: no colon of a piece comes together with the `::` that follows it.

Main statements: pieces are separate (`areSeparate_pieces`), separate parts are the pieces of the
text that joins them (`pieces_intercalate`), and so the names that are read back from what is
written for them are those with separate segments, none of them empty (`parse_display_eq_iff`).
-/

namespace EventTracking.QualifiedName

/-! ## Pieces -/

/-- Parts without `::`, of which only the last one may end in a colon. -/
structure AreSeparate (parts : List (List Char)) : Prop where
  /-- There is no `::` in a part. -/
  unbroken : ∀ part ∈ parts, ¬ [':', ':'] <:+: part
  /-- A part that another one follows does not end in a colon. -/
  closed : parts.Pairwise fun part _ => part.getLast? ≠ some ':'

/-- A character that does not begin a `::` belongs to the first piece. -/
theorem pieces_cons {c : Char} {rest piece : List Char} {others : List (List Char)}
    (h : c = ':' → rest.head? ≠ some ':') (hrest : pieces rest = piece :: others) :
    pieces (c :: rest) = (c :: piece) :: others := by
  rw [pieces, hrest]
  rintro more rfl rfl
  exact h rfl rfl

/-- There is no `::` after a character that does not begin one. -/
theorem not_infix_cons {c : Char} {text : List Char} (h : c = ':' → text.head? ≠ some ':')
    (htext : ¬ [':', ':'] <:+: text) : ¬ [':', ':'] <:+: c :: text := by
  rw [List.infix_cons_iff, not_or]
  refine ⟨?_, htext⟩
  intro hstart
  obtain ⟨hc, hnext⟩ := List.cons_prefix_cons.1 hstart
  obtain ⟨more, rfl⟩ := hnext
  exact h hc.symm rfl

/-- The first piece of a text is all of it, or it ends where the first `::` begins. -/
theorem exists_first_piece (text : List Char) :
    ∃ piece, ¬ [':', ':'] <:+: piece ∧
      (text = piece ∧ pieces text = [piece] ∨
        ∃ rest, text = piece ++ ':' :: ':' :: rest ∧ piece.getLast? ≠ some ':' ∧
          pieces text = piece :: pieces rest) := by
  induction text with
  | nil => exact ⟨[], by simp, .inl ⟨rfl, rfl⟩⟩
  | cons c more ih =>
      by_cases hcut : c = ':' ∧ more.head? = some ':'
      · obtain ⟨rfl, hhead⟩ := hcut
        obtain ⟨rest, rfl⟩ := List.head?_eq_some_iff.1 hhead
        exact ⟨[], by simp, .inr ⟨rest, rfl, by simp, rfl⟩⟩
      · rw [not_and] at hcut
        obtain ⟨piece, hunbroken, ⟨rfl, hpieces⟩ | ⟨rest, rfl, hlast, hpieces⟩⟩ := ih
        · exact ⟨c :: more, not_infix_cons hcut hunbroken, .inl ⟨rfl, pieces_cons hcut hpieces⟩⟩
        · have hhead : c = ':' → piece.head? ≠ some ':' := by
            intro hc hpiece
            refine hcut hc ?_
            rw [List.head?_append, hpiece, Option.some_or]
          refine ⟨c :: piece, not_infix_cons hhead hunbroken,
            .inr ⟨rest, rfl, ?_, pieces_cons hcut hpieces⟩⟩
          cases piece with
          | nil => exact fun hc => hcut (Option.some.inj hc) rfl
          | cons d others =>
              rw [List.getLast?_cons_cons]
              exact hlast

/-- The pieces of a text are separate. -/
theorem areSeparate_pieces (text : List Char) : AreSeparate (pieces text) := by
  -- the text behind the first `::` is shorter
  induction hlength : text.length using Nat.strong_induction_on generalizing text with
  | h length ih =>
    obtain ⟨piece, hunbroken, ⟨-, hpieces⟩ | ⟨rest, rfl, hlast, hpieces⟩⟩ := exists_first_piece text
    · rw [hpieces]
      exact ⟨List.forall_mem_singleton.2 hunbroken, List.pairwise_singleton _ _⟩
    · have hshorter : rest.length < length := by
        rw [← hlength, List.length_append, List.length_cons, List.length_cons]
        omega
      have hrest := ih rest.length hshorter rest rfl
      rw [hpieces]
      exact ⟨List.forall_mem_cons.2 ⟨hunbroken, hrest.unbroken⟩,
        List.pairwise_cons.2 ⟨fun _ _ => hlast, hrest.closed⟩⟩

/-- Some of several separate parts are separate. -/
theorem AreSeparate.sublist {parts some : List (List Char)} (h : AreSeparate parts)
    (hsome : some.Sublist parts) : AreSeparate some :=
  ⟨fun part hpart => h.unbroken part (hsome.mem hpart), h.closed.sublist hsome⟩

/-- A part without `::` has one piece. -/
theorem pieces_of_unbroken {part : List Char} (h : ¬ [':', ':'] <:+: part) :
    pieces part = [part] := by
  obtain ⟨piece, -, ⟨rfl, hpieces⟩ | ⟨rest, rfl, -, -⟩⟩ := exists_first_piece part
  · exact hpieces
  · exact absurd ⟨piece, rest, by simp⟩ h

/-- A part without `::` that does not end in a colon is the first piece if `::` follows. -/
theorem pieces_append {part : List Char} (h : ¬ [':', ':'] <:+: part)
    (hlast : part.getLast? ≠ some ':') (rest : List Char) :
    pieces (part ++ ':' :: ':' :: rest) = part :: pieces rest := by
  induction part with
  | nil => rfl
  | cons c more ih =>
      rw [List.infix_cons_iff, not_or] at h
      have hnext : c = ':' → (more ++ ':' :: ':' :: rest).head? ≠ some ':' := by
        rintro rfl hhead
        cases more with
        | nil => exact hlast rfl
        | cons d others =>
            obtain rfl := Option.some.inj hhead
            exact h.1 ⟨others, rfl⟩
      refine pieces_cons hnext (ih h.2 ?_)
      cases more with
      | nil => exact fun hnone => by cases hnone
      | cons d others =>
          rw [List.getLast?_cons_cons] at hlast
          exact hlast

/-- Separate parts are the pieces of the text that joins them. -/
theorem pieces_intercalate {parts : List (List Char)} (h : AreSeparate parts) (hne : parts ≠ []) :
    pieces ([':', ':'].intercalate parts) = parts := by
  induction parts with
  | nil => exact absurd rfl hne
  | cons first rest ih =>
      obtain ⟨hfirst, hrest⟩ := List.forall_mem_cons.1 h.unbroken
      obtain ⟨hlast, hclosed⟩ := List.pairwise_cons.1 h.closed
      cases rest with
      | nil =>
          rw [List.intercalate_singleton]
          exact pieces_of_unbroken hfirst
      | cons second others =>
          have hothers := ih ⟨hrest, hclosed⟩ (List.cons_ne_nil _ _)
          rw [List.intercalate_cons_cons, List.append_assoc]
          exact (pieces_append hfirst (hlast second List.mem_cons_self) _).trans
            (congrArg _ hothers)

/-! ## Names -/

/-- A name with separate segments, none of them empty. -/
structure IsReadable (name : QualifiedName) : Prop where
  /-- No segment is empty. -/
  ne_empty : ∀ segment ∈ name.segments, segment ≠ ""
  /-- The segments are separate. -/
  separate : AreSeparate (name.segments.map String.toList)

/-- The segments of a name that is read are the pieces of the text that are not empty. -/
theorem map_toList_segments_parse (text : String) :
    (parse text).segments.map String.toList =
      (pieces text.toList).filter (!·.isEmpty) := by
  rw [parse, List.map_map]
  exact (List.map_congr_left fun _ _ => String.toList_ofList).trans (List.map_id' _)

/-- Every name that is read is readable. -/
theorem isReadable_parse (text : String) : (parse text).IsReadable where
  ne_empty segment hsegment := by
    rintro rfl
    have hmem : "".toList ∈ (parse text).segments.map String.toList := List.mem_map_of_mem hsegment
    rw [map_toList_segments_parse] at hmem
    cases List.of_mem_filter hmem
  separate := by
    rw [map_toList_segments_parse]
    exact (areSeparate_pieces text.toList).sublist List.filter_sublist

/-- A readable name is read back from what is written for it. -/
theorem IsReadable.parse_display {name : QualifiedName} (h : name.IsReadable) :
    parse name.display = name := by
  obtain ⟨segments⟩ := name
  by_cases hsegments : segments = []
  · subst hsegments
    rfl
  · have hpieces := pieces_intercalate h.separate (by simpa using hsegments)
    have hkept : (segments.map String.toList).filter (!·.isEmpty) = segments.map String.toList := by
      refine List.filter_eq_self.2 fun part hpart => ?_
      obtain ⟨segment, hsegment, rfl⟩ := List.mem_map.1 hpart
      simpa using h.ne_empty segment hsegment
    have hback : (segments.map String.toList).map String.ofList = segments := by
      rw [List.map_map]
      exact (List.map_congr_left fun _ _ => String.ofList_toList).trans (List.map_id' _)
    have hcolons : "::".toList = [':', ':'] := rfl
    rw [display, parse, String.toList_intercalate, hcolons, hpieces, hkept, hback]

/-- A name is read back from what is written for it exactly if it is readable. -/
theorem parse_display_eq_iff (name : QualifiedName) :
    parse name.display = name ↔ name.IsReadable := by
  constructor
  · intro h
    rw [← h]
    exact isReadable_parse _
  · exact IsReadable.parse_display

/-- Segments without colons, none of them empty, make a readable name. -/
theorem isReadable_of_notMem {name : QualifiedName}
    (h : ∀ segment ∈ name.segments, segment ≠ "" ∧ ':' ∉ segment.toList) : name.IsReadable where
  ne_empty segment hsegment := (h segment hsegment).1
  separate := by
    have hparts : ∀ part ∈ name.segments.map String.toList, ':' ∉ part := by
      intro part hpart
      obtain ⟨segment, hsegment, rfl⟩ := List.mem_map.1 hpart
      exact (h segment hsegment).2
    refine ⟨?_, ?_⟩
    · intro part hpart hbroken
      exact hparts part hpart (hbroken.mem List.mem_cons_self)
    · refine List.pairwise_of_forall_mem_list fun part hpart _ _ hlast => ?_
      exact hparts part hpart (List.mem_of_getLast? hlast)

/-- What is read from any text is read back from what is written for it, and so is every name whose
segments are not empty and hold no colon. No other names are read back than those that some text is
read as. -/
theorem read_back_of_display :
    (∀ text, parse (parse text).display = parse text) ∧
      (∀ name : QualifiedName, (∀ segment ∈ name.segments, segment ≠ "" ∧ ':' ∉ segment.toList) →
        parse name.display = name) ∧
      ∀ name, parse name.display = name ↔ ∃ text, parse text = name := by
  have hparsed (text : String) : parse (parse text).display = parse text :=
    (isReadable_parse text).parse_display
  refine ⟨hparsed, fun name h => (isReadable_of_notMem h).parse_display, fun name => ?_⟩
  constructor
  · intro h
    exact ⟨name.display, h⟩
  · rintro ⟨text, rfl⟩
    exact hparsed text

/-- A name of three segments is read back, and so is what is read from a text with runs of colons,
which is not written as that text. -/
theorem read_back_of_lifecycle :
    let lifecycle : QualifiedName := ⟨["crate", "events", "Lifecycle"]⟩
    (∀ segment ∈ lifecycle.segments, segment ≠ "" ∧ ':' ∉ segment.toList) ∧
      parse lifecycle.display = lifecycle ∧
      parse "a:::::b:::" = ⟨["a", ":b", ":"]⟩ ∧
      (parse "a:::::b:::").display = "a:::b:::" ∧
      parse "a:::b:::" = ⟨["a", ":b", ":"]⟩ := by
  intro lifecycle
  obtain ⟨hparsed, hnames, -⟩ := read_back_of_display
  have h : ∀ segment ∈ lifecycle.segments, segment ≠ "" ∧ ':' ∉ segment.toList := by decide
  have hread : parse "a:::::b:::" = ⟨["a", ":b", ":"]⟩ := by decide
  have hshown : (parse "a:::::b:::").display = "a:::b:::" := by decide
  refine ⟨h, hnames lifecycle h, hread, hshown, ?_⟩
  rw [← hshown, hparsed, hread]

end EventTracking.QualifiedName
