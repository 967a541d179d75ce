import EventTracking.Proofs.PayloadKeys
import EventTracking.Proofs.QuotedText
import EventTracking.Proofs.VariantCoverage
import EventTracking.Proofs.Words

/-!
# Artifacts are read line by line

An artifact says no more than the registry of its group. This is shown by a reader that knows
nothing of the grammar: it splits the text into lines, takes each line that ends in `=> {` for the
head of an arm, and reads the lines that follow it. What it finds are the events in order, each with
the keys of its payload and the values that these are given.

The names of a group stand in the artifact as they are, so they must not hold line breaks. Apart
from that they may be anything: a line is recognised by its first or last character, and these never
belong to a name.

Main statements: rendered lines are split again (`linesOf_render`), the lines of a group on one line
are lines (`isLine_of_mem_lines`), an entry is read back (`readPair?_shown`), and so are arms
(`readArms?_shownArm_append`).
-/

namespace EventTracking

open Code Text Line

namespace Text

/-! ## Lines of a text -/

/-- The lines of a text. A line break at the end of the text begins no further line. -/
def linesOf : List Char → List (List Char)
  | [] => []
  | c :: rest =>
    if c = '\n' then [] :: linesOf rest
    else
      match linesOf rest with
      | [] => [[c]]
      | line :: others => (c :: line) :: others

/-- A text without line breaks. -/
def IsLine (text : String) : Prop := '\n' ∉ text.toList

instance (text : String) : Decidable (IsLine text) := inferInstanceAs (Decidable (_ ∉ _))

/-- What holds no line break belongs to the first line of what follows it. -/
theorem linesOf_append_eq_cons {front rest first : List Char} {more : List (List Char)}
    (h : '\n' ∉ front) (hrest : linesOf rest = first :: more) :
    linesOf (front ++ rest) = (front ++ first) :: more := by
  induction front with
  | nil => exact hrest
  | cons c others ih =>
      rw [List.mem_cons, not_or] at h
      rw [List.cons_append, linesOf, if_neg (Ne.symm h.1), ih h.2]
      rfl

/-- A line that is ended by a line break comes first. -/
theorem linesOf_append {line : List Char} (h : '\n' ∉ line) (rest : List Char) :
    linesOf (line ++ '\n' :: rest) = line :: linesOf rest := by
  rw [linesOf_append_eq_cons h (by rw [linesOf, if_pos rfl]), List.append_nil]

/-- A line holds no line break. -/
theorem lineBreak_notMem_of_mem_linesOf {text line : List Char} (h : line ∈ linesOf text) :
    '\n' ∉ line := by
  induction text generalizing line with
  | nil => cases h
  | cons c rest ih =>
      rw [linesOf] at h
      split at h
      · rcases List.mem_cons.1 h with rfl | hrest
        · exact List.not_mem_nil
        · exact ih hrest
      · rename_i hc
        split at h
        · obtain rfl := List.mem_singleton.1 h
          exact fun hbreak => hc (List.mem_singleton.1 hbreak).symm
        · rename_i first others hlines
          rw [hlines] at ih
          rcases List.mem_cons.1 h with rfl | hothers
          · intro hbreak
            rcases List.mem_cons.1 hbreak with hbreak | hbreak
            · exact hc hbreak.symm
            · exact ih List.mem_cons_self hbreak
          · exact ih (List.mem_cons_of_mem _ hothers)

/-- A text that is ended by a line break has one line for each of its line breaks. -/
theorem length_linesOf_lineBreak (text : List Char) :
    (linesOf (text ++ ['\n'])).length = text.count '\n' + 1 := by
  induction text with
  | nil => rfl
  | cons c more ih =>
      rw [List.cons_append, linesOf, List.count_cons]
      by_cases hc : c = '\n'
      · rw [if_pos hc, List.length_cons, ih, if_pos (by rw [hc, beq_self_eq_true])]
      · rw [if_neg hc, if_neg (by simpa using hc), ← ih]
        cases hlines : linesOf (more ++ ['\n']) with
        | nil => rw [hlines] at ih; cases ih
        | cons line others => rfl

/-- A text that is ended by a line break keeps its lines whatever follows it. -/
theorem linesOf_append_lineBreak (text rest : List Char) :
    linesOf (text ++ '\n' :: rest) = linesOf (text ++ ['\n']) ++ linesOf rest := by
  induction text with
  | nil => rfl
  | cons c more ih =>
      rw [List.cons_append, List.cons_append, linesOf, linesOf, ih]
      split
      · rfl
      · -- the line break ends a line, to which the first character belongs
        cases hlines : linesOf (more ++ ['\n']) with
        | nil =>
            have hlength := length_linesOf_lineBreak more
            rw [hlines] at hlength
            cases hlength
        | cons line others => rfl

/-- Joined texts stand on one line exactly if each of them does. -/
theorem isLine_append_iff {front back : String} :
    IsLine (front ++ back) ↔ IsLine front ∧ IsLine back := by
  rw [IsLine, String.toList_append, List.mem_append, not_or, IsLine, IsLine]

/-- Joined texts stand on one line if each of them does. -/
theorem isLine_append {front back : String} (hfront : IsLine front) (hback : IsLine back) :
    IsLine (front ++ back) :=
  isLine_append_iff.2 ⟨hfront, hback⟩

/-- Texts with a separator between them stand on one line if each of them does. -/
theorem isLine_intercalate {separator : String} {texts : List String} (hs : IsLine separator)
    (ht : ∀ text ∈ texts, IsLine text) : IsLine (separator.intercalate texts) := by
  induction texts with
  | nil =>
      rw [String.intercalate_nil]
      decide
  | cons first rest ih =>
      obtain ⟨hfirst, hrest⟩ := List.forall_mem_cons.1 ht
      cases rest with
      | nil =>
          rw [String.intercalate_singleton]
          exact hfirst
      | cons second others =>
          rw [String.intercalate_cons_cons]
          exact isLine_append (isLine_append hfirst hs) (ih hrest)

/-- The snake case of a text on one line stands on one line. -/
theorem isLine_snakeCase {text : String} (h : IsLine text) : IsLine (snakeCase text) :=
  notMem_snakeCase (by decide) (by decide) h

/-- A number is written on one line. -/
theorem isLine_repr (n : Nat) : IsLine n.repr := by
  rw [IsLine, Nat.toList_repr]
  intro h
  have hdigit := Nat.isDigit_of_mem_toDigits (by decide) (by decide) h
  cases hdigit

/-- Lines that are each ended by a line break are read back. -/
theorem linesOf_join {texts : List String} (h : ∀ text ∈ texts, IsLine text) :
    linesOf (String.join (texts.map (· ++ "\n"))).toList = texts.map String.toList := by
  induction texts with
  | nil => rfl
  | cons first rest ih =>
      obtain ⟨hfirst, hrest⟩ := List.forall_mem_cons.1 h
      have hbreak : "\n".toList = ['\n'] := rfl
      rw [List.map_cons, String.join_cons, String.toList_append, String.toList_append, hbreak,
        List.append_assoc, List.singleton_append, linesOf_append hfirst, ih hrest, List.map_cons]

/-- Trimming leaves characters of the text. -/
theorem mem_of_mem_trim {text : List Char} {c : Char} (h : c ∈ trim text) : c ∈ text := by
  rw [trim, List.mem_reverse] at h
  have hreverse := (List.dropWhile_suffix _).mem h
  rw [List.mem_reverse] at hreverse
  exact (List.dropWhile_suffix _).mem hreverse

end Text

/-! ## Lines of code -/

namespace Code.Line

/-- A line as it stands in the text, without its line break. -/
def shown (line : Line) : List Char :=
  if line.text.toList.isEmpty then []
  else (String.join (List.replicate line.depth indentation)).toList ++ line.text.toList

/-- Lines are written one after the other, each with a line break. -/
theorem toList_render_cons (line : Line) (rest : List Line) :
    (render (line :: rest)).toList = line.shown ++ '\n' :: (render rest).toList := by
  rw [render, List.map_cons, String.join_cons, String.toList_append, ← render, write, shown]
  split
  · rfl
  · rw [String.toList_append, String.toList_append, List.append_assoc]
    rfl

/-- The characters of code are those of its lines, each with a line break. -/
theorem toList_render (lines : List Line) :
    (render lines).toList = lines.flatMap fun line => line.shown ++ ['\n'] := by
  induction lines with
  | nil => rfl
  | cons first rest ih =>
      rw [toList_render_cons, ih, List.flatMap_cons, List.append_assoc, List.singleton_append]

/-- Indentation consists of spaces. -/
theorem eq_space_of_mem_indentation {depth : Nat} {c : Char}
    (h : c ∈ (String.join (List.replicate depth indentation)).toList) : c = ' ' := by
  induction depth with
  | zero => cases h
  | succ depth ih =>
      rw [List.replicate_succ, String.join_cons, String.toList_append, List.mem_append] at h
      rcases h with hfirst | hrest
      · rw [show indentation.toList = [' ', ' ', ' ', ' '] from rfl] at hfirst
        simpa using hfirst
      · exact ih hrest

/-- A line whose text stands on one line holds no line break. -/
theorem lineBreak_notMem_shown {line : Line} (h : IsLine line.text) : '\n' ∉ line.shown := by
  unfold shown
  split
  · exact List.not_mem_nil
  · rw [List.mem_append, not_or]
    refine ⟨?_, h⟩
    intro hmem
    exact absurd (eq_space_of_mem_indentation hmem) (by decide)

/-- The lines of code are read back from its text. -/
theorem linesOf_render {lines : List Line} (h : ∀ line ∈ lines, IsLine line.text) :
    linesOf (render lines).toList = lines.map shown := by
  induction lines with
  | nil => rfl
  | cons first rest ih =>
      obtain ⟨hfirst, hrest⟩ := List.forall_mem_cons.1 h
      rw [toList_render_cons, linesOf_append (lineBreak_notMem_shown hfirst), ih hrest,
        List.map_cons]

/-- A line without its indentation. -/
def unindented (line : List Char) : List Char := line.dropWhile (· == ' ')

/-- The text of a line is what stands behind the indentation. -/
theorem unindented_shown {line : Line} (h : line.text.toList.head? ≠ some ' ') :
    unindented line.shown = line.text.toList := by
  unfold unindented shown
  split
  · rename_i hempty
    rw [List.isEmpty_iff.1 hempty]
    rfl
  · have hspaces : ∀ c ∈ (String.join (List.replicate line.depth indentation)).toList,
        (c == ' ') = true := by
      intro c hc
      exact beq_iff_eq.2 (eq_space_of_mem_indentation hc)
    rw [List.dropWhile_append_of_pos hspaces]
    cases htext : line.text.toList with
    | nil => rfl
    | cons c rest =>
        rw [htext] at h
        rw [List.dropWhile_cons_of_neg]
        rw [beq_iff_eq]
        exact fun hc => h (congrArg some hc)

/-- A line ends as its text does. -/
theorem getLast?_shown (line : Line) : line.shown.getLast? = line.text.toList.getLast? := by
  unfold shown
  split
  · rename_i hempty
    rw [List.isEmpty_iff.1 hempty]
  · rename_i hne
    exact List.getLast?_append_of_ne_nil _ (by rwa [List.isEmpty_iff] at hne)

/-- Nesting leaves the texts of the lines as they are. -/
theorem map_text_nested (lines : List Line) : (nested lines).map Line.text = lines.map Line.text := by
  rw [nested, List.map_map]
  rfl

end Code.Line

/-! ## Names on one line -/

/-- A group none of whose names holds a line break. -/
structure EventGroup.OnOneLine (group : EventGroup) : Prop where
  /-- The parts of the group's name stand on one line. -/
  segments : ∀ segment ∈ group.name.segments, IsLine segment
  /-- The names of the events stand on one line. -/
  events : ∀ event ∈ group.registry.events, IsLine event.name.simple
  /-- The names of the fields stand on one line. -/
  fields : ∀ event ∈ group.registry.events, ∀ field ∈ event.fields, IsLine field
  /-- The names of what is left out stand on one line. -/
  excluded : ∀ name ∈ group.excluded, IsLine name.simple

/-- A name on one line is written on one line. -/
theorem isLine_writtenName {name : String} (h : IsLine name) : IsLine (writtenName name) := by
  rcases writtenName_eq_or name with hplain | hraw
  · rwa [hplain]
  · rw [hraw]
    exact isLine_append (by decide) h

/-- The simple name of a path on one line stands on one line. -/
theorem isLine_simple {path : QualifiedName} (h : ∀ segment ∈ path.segments, IsLine segment) :
    IsLine path.simple := by
  rw [QualifiedName.simple]
  cases hlast : path.segments.getLast? with
  | none => decide
  | some segment => exact h segment (List.mem_of_getLast? hlast)

/-- A path on one line is written on one line. -/
theorem isLine_writtenPath {path : QualifiedName} (h : ∀ segment ∈ path.segments, IsLine segment) :
    IsLine (writtenPath path) := by
  refine isLine_intercalate (by decide) ?_
  intro text htext
  cases hsegments : path.segments with
  | nil =>
      rw [hsegments] at htext
      cases htext
  | cons first rest =>
      rw [hsegments] at htext h
      obtain ⟨hfirst, hrest⟩ := List.forall_mem_cons.1 h
      rcases List.mem_cons.1 htext with rfl | hmem
      · split
        · exact hfirst
        · exact isLine_writtenName hfirst
      · obtain ⟨segment, hsegment, rfl⟩ := List.mem_map.1 hmem
        exact isLine_writtenName (hrest segment hsegment)

/-- The path of the runtime library stands on one line if what is given does. -/
theorem isLine_runtimeText {runtime : String} (h : IsLine runtime) :
    IsLine (runtimeText runtime) := by
  have htrim : IsLine (String.ofList (trim runtime.toList)) := by
    rw [IsLine, String.toList_ofList]
    exact fun hmem => h (mem_of_mem_trim hmem)
  unfold runtimeText
  dsimp only
  split
  · exact htrim
  · exact isLine_append (by decide) htrim

/-- The name that is found free stands on one line. -/
theorem isLine_freeName {taken : List String} {fuel : Nat} {name : String} (h : IsLine name) :
    IsLine (freeName taken fuel name) := by
  induction fuel generalizing name with
  | zero => exact h
  | succ fuel ih =>
      rw [freeName]
      split
      · exact ih (isLine_append h (by decide))
      · exact h

/-- The local of a field on one line stands on one line. -/
theorem isLine_localFor {fields : List String} {field : String} (h : IsLine field) :
    IsLine (localFor fields field) := by
  unfold localFor
  split
  · exact isLine_freeName (isLine_append h (by decide))
  · exact isLine_writtenName h

namespace Event

variable {event : Event}

/-- The field and the local of a bound field stand on one line. -/
theorem isLine_of_mem_boundFields (h : ∀ field ∈ event.fields, IsLine field) {bound : BoundField}
    (hbound : bound ∈ event.boundFields) :
    IsLine bound.field ∧ ∀ target, bound.target = some target → IsLine target := by
  obtain ⟨field, hfield, rfl⟩ := List.mem_map.1 hbound
  have hline : IsLine field := h field hfield
  cases event.form with
  | newtype => exact ⟨hline, nofun⟩
  | unit | braced | tuple =>
      refine ⟨hline, ?_⟩
      rintro target htarget
      rw [← Option.some.inj htarget]
      exact isLine_localFor hline

/-- The value of a bound field stands on one line. -/
theorem isLine_value (h : ∀ field ∈ event.fields, IsLine field) {bound : BoundField}
    (hbound : bound ∈ event.boundFields) : IsLine bound.value := by
  obtain ⟨hfield, htarget⟩ := isLine_of_mem_boundFields h hbound
  unfold BoundField.value
  split
  · rename_i target heq
    exact htarget target heq
  · exact isLine_append (by decide) (isLine_writtenName hfield)

/-- A bound field stands on one line in a pattern. -/
theorem isLine_fieldPattern (h : ∀ field ∈ event.fields, IsLine field) {bound : BoundField}
    (hbound : bound ∈ event.boundFields) : IsLine bound.pattern := by
  obtain ⟨hfield, htarget⟩ := isLine_of_mem_boundFields h hbound
  have hname : IsLine (writtenName bound.field) := isLine_writtenName hfield
  unfold BoundField.pattern
  dsimp only
  split
  · rename_i target heq
    split
    · exact hname
    · exact isLine_append (isLine_append hname (by decide)) (htarget target heq)
  · exact hname

/-- The pattern of an arm stands on one line. -/
theorem isLine_pattern {groupPath : String} (hpath : IsLine groupPath)
    (hname : IsLine event.name.simple) (h : ∀ field ∈ event.fields, IsLine field) :
    IsLine (event.pattern groupPath) := by
  have hvariant : IsLine (groupPath ++ "::" ++ writtenName event.name.simple) :=
    isLine_append (isLine_append hpath (by decide)) (isLine_writtenName hname)
  have hfields : IsLine (", ".intercalate (event.boundFields.map BoundField.pattern)) := by
    refine isLine_intercalate (by decide) ?_
    intro text htext
    obtain ⟨bound, hbound, rfl⟩ := List.mem_map.1 htext
    exact isLine_fieldPattern h hbound
  have hvalues : IsLine (", ".intercalate (event.boundFields.map BoundField.value)) := by
    refine isLine_intercalate (by decide) ?_
    intro text htext
    obtain ⟨bound, hbound, rfl⟩ := List.mem_map.1 htext
    exact isLine_value h hbound
  have hends (ending : String) (hending : IsLine ending) :
      IsLine (groupPath ++ "::" ++ writtenName event.name.simple ++ ending) :=
    isLine_append hvariant hending
  unfold pattern
  dsimp only
  split
  · exact hvariant
  · exact hends _ (by decide)
  · exact isLine_append (isLine_append (hends _ (by decide)) hfields) (by decide)
  · exact hends _ (by decide)
  · exact hends _ (by decide)
  · exact hends _ (by decide)
  · exact isLine_append (isLine_append (hends _ (by decide)) hvalues) (by decide)

end Event

/-! ## Kinds of lines -/

/-- Whether a line is the head of an arm. -/
def isArmHead (line : List Char) : Bool := "=> \x7b".toList.isSuffixOf line

/-- The text of the line that hands the event to the tracker. -/
def trackCall : String := "tracker.track(name, payload);"

/-- Whether a line hands the event to the tracker. -/
def isTrackCall (line : List Char) : Bool := unindented line == trackCall.toList

/-- A line that is neither the head of an arm nor hands the event to the tracker. -/
def IsOther (line : List Char) : Prop := isArmHead line = false ∧ isTrackCall line = false

instance (line : List Char) : Decidable (IsOther line) :=
  inferInstanceAs (Decidable (isArmHead line = false ∧ isTrackCall line = false))

/-- A text ends as a suffix of it does. -/
theorem getLast?_of_suffix {text ending : List Char} (h : ending <:+ text) (hne : ending ≠ []) :
    text.getLast? = ending.getLast? := by
  obtain ⟨front, rfl⟩ := h
  exact List.getLast?_append_of_ne_nil front hne

/-- A line that does not end in a brace is not the head of an arm. -/
theorem isArmHead_eq_false {line : List Char} (h : line.getLast? ≠ some '\x7b') :
    isArmHead line = false := by
  rw [Bool.eq_false_iff]
  intro hhead
  rw [isArmHead, List.isSuffixOf_iff_suffix] at hhead
  exact h (getLast?_of_suffix hhead (by decide))

/-- A line that does not end in a semicolon does not hand over the event. -/
theorem isTrackCall_eq_false {line : List Char} (h : line.getLast? ≠ some ';') :
    isTrackCall line = false := by
  rw [Bool.eq_false_iff]
  intro hcall
  rw [isTrackCall, beq_iff_eq] at hcall
  have hsuffix : trackCall.toList <:+ line := hcall ▸ List.dropWhile_suffix _
  exact h (getLast?_of_suffix hsuffix (by decide))

/-- A line is of the other kind if it ends neither in a brace nor in a semicolon. -/
theorem isOther_of_getLast? {line : Line} {c : Char} (h : line.text.toList.getLast? = some c)
    (hbrace : c ≠ '\x7b') (hsemicolon : c ≠ ';') : IsOther line.shown := by
  have hlast : line.shown.getLast? = some c := by rw [getLast?_shown, h]
  refine ⟨isArmHead_eq_false ?_, isTrackCall_eq_false ?_⟩
  · rw [hlast]
    exact fun heq => hbrace (Option.some.inj heq)
  · rw [hlast]
    exact fun heq => hsemicolon (Option.some.inj heq)

/-- The text of a line inside an arm: neither blank, nor the call, nor a brace begins it, and no
brace ends it. -/
structure IsInner (text : String) : Prop where
  /-- The text begins with a character of its own. -/
  first : ∃ c, text.toList.head? = some c ∧ c ≠ ' ' ∧ c ≠ 't' ∧ c ≠ '\x7d'
  /-- The text does not end in an opening brace. -/
  last : text.toList.getLast? ≠ some '\x7b'

namespace IsInner

variable {line : Line}

/-- A line inside an arm is found again behind its indentation. -/
theorem unindented_shown (h : IsInner line.text) : unindented line.shown = line.text.toList := by
  obtain ⟨c, hc, hspace, -, -⟩ := h.first
  refine Line.unindented_shown ?_
  rw [hc]
  exact fun heq => hspace (Option.some.inj heq)

/-- A line inside an arm is not the head of an arm. -/
theorem isArmHead_shown (h : IsInner line.text) : isArmHead line.shown = false := by
  refine isArmHead_eq_false ?_
  rw [getLast?_shown]
  exact h.last

/-- A line inside an arm is of the other kind. -/
theorem isOther (h : IsInner line.text) : IsOther line.shown := by
  refine ⟨h.isArmHead_shown, ?_⟩
  obtain ⟨c, hc, -, hcall, -⟩ := h.first
  rw [Bool.eq_false_iff]
  intro htrack
  rw [isTrackCall, beq_iff_eq, h.unindented_shown] at htrack
  rw [htrack] at hc
  exact hcall (Option.some.inj hc).symm

/-- A line inside an arm does not close the arm. -/
theorem ne_close (h : IsInner line.text) : unindented line.shown ≠ ['\x7d'] := by
  obtain ⟨c, hc, -, -, hbrace⟩ := h.first
  rw [h.unindented_shown]
  intro hclose
  rw [hclose] at hc
  exact hbrace (Option.some.inj hc).symm

/-- A text that begins and ends with texts of its own is that of a line inside an arm. -/
theorem of_append {front ending : String} (hfirst : ∃ c, front.toList.head? = some c ∧ c ≠ ' ' ∧
    c ≠ 't' ∧ c ≠ '\x7d') (hne : ending.toList ≠ [])
    (hlast : ending.toList.getLast? ≠ some '\x7b') (between : String) :
    IsInner (front ++ between ++ ending) := by
  obtain ⟨c, hc, hrest⟩ := hfirst
  constructor
  · refine ⟨c, ?_, hrest⟩
    rw [String.toList_append, String.toList_append, List.append_assoc, List.head?_append, hc]
    rfl
  · rw [String.toList_append, List.getLast?_append_of_ne_nil _ hne]
    exact hlast

end IsInner

/-! ## Lines of an arm -/

namespace Event

/-- The lines between the head of an arm and its closing brace. -/
def innerLines (runtime : String) (event : Event) : List Line :=
  outermost ("name = " ++ quote event.eventName ++ ";") ::
    literalLines runtime (event.keys.zip event.expressions)

/-- The line that begins an arm. -/
def headText (groupPath : String) (event : Event) : String :=
  event.pattern groupPath ++ " =>" ++ " \x7b"

/-- An arm consists of its head, the lines inside and its closing brace. -/
theorem arm_eq (groupPath runtime : String) (event : Event) :
    event.arm groupPath runtime =
      outermost (event.headText groupPath) :: nested (event.innerLines runtime) ++
        [outermost "\x7d"] := by
  rw [arm, payloadLines_eq_literalLines]
  rfl

/-- An entry of a payload is the text of a line inside an arm. -/
theorem isInner_entryLine (runtime : String) (entry : String × String) :
    IsInner (entryLine runtime entry).text := by
  have htext : (entryLine runtime entry).text =
      "(" ++ (quote entry.1 ++ ".to_owned(), " ++ runtime ++ "::to_value(" ++ entry.2) ++ ")),"
      := by
    simp only [entryLine, outermost, String.append_assoc]
  rw [htext]
  exact .of_append ⟨'(', by decide⟩ (by decide) (by decide) _

/-- The texts between the head of an arm and its closing brace are those of lines inside an arm. -/
theorem isInner_of_mem_innerLines {runtime : String} {event : Event} {line : Line}
    (h : line ∈ event.innerLines runtime) : IsInner line.text := by
  have hclose : IsInner "]);" := ⟨⟨']', by decide⟩, by decide⟩
  rcases List.mem_cons.1 h with rfl | hpayload
  · exact .of_append ⟨'n', by decide⟩ (by decide) (by decide) _
  · unfold literalLines at hpayload
    split at hpayload
    · rw [List.mem_singleton.1 hpayload]
      exact .of_append ⟨'p', by decide⟩ (by decide) (by decide) _
    · rw [List.mem_append, List.mem_cons, List.mem_singleton] at hpayload
      rcases hpayload with (rfl | hentry) | rfl
      · exact .of_append ⟨'p', by decide⟩ (by decide) (by decide) _
      · obtain ⟨inner, hinner, rfl⟩ := List.mem_map.1 hentry
        obtain ⟨entry, -, rfl⟩ := List.mem_map.1 hinner
        exact isInner_entryLine runtime entry
      · exact hclose

/-- The lines of an arm stand on one line each. -/
theorem isLine_of_mem_arm {groupPath runtime : String} {event : Event} (hpath : IsLine groupPath)
    (hruntime : IsLine runtime) (hname : IsLine event.name.simple)
    (hfields : ∀ field ∈ event.fields, IsLine field) {line : Line}
    (h : line ∈ event.arm groupPath runtime) : IsLine line.text := by
  have hentry : ∀ entry ∈ event.keys.zip event.expressions,
      IsLine (entryLine runtime entry).text := by
    rintro ⟨key, value⟩ hmem
    obtain ⟨bound, hbound, rfl⟩ := List.mem_map.1 (List.of_mem_zip hmem).2
    have hvalue : IsLine bound.value := isLine_value hfields hbound
    exact isLine_append (isLine_append (isLine_append (isLine_append (isLine_append
      (isLine_append (by decide) (lineBreak_notMem_quote key)) (by decide)) hruntime) (by decide))
      hvalue) (by decide)
  rw [arm_eq, List.mem_append, List.mem_cons, List.mem_singleton] at h
  rcases h with (rfl | hinner) | rfl
  · exact isLine_append (isLine_append (isLine_pattern hpath hname hfields) (by decide)) (by decide)
  · obtain ⟨inner, hmem, rfl⟩ := List.mem_map.1 hinner
    change IsLine inner.text
    rcases List.mem_cons.1 hmem with rfl | hpayload
    · exact isLine_append (isLine_append (by decide) (lineBreak_notMem_quote _)) (by decide)
    · unfold literalLines at hpayload
      split at hpayload
      · rw [List.mem_singleton.1 hpayload]
        exact isLine_append (isLine_append (by decide) hruntime) (by decide)
      · rw [List.mem_append, List.mem_cons, List.mem_singleton] at hpayload
        rcases hpayload with (rfl | hnested) | rfl
        · exact isLine_append (isLine_append (by decide) hruntime) (by decide)
        · obtain ⟨line, hline, rfl⟩ := List.mem_map.1 hnested
          obtain ⟨entry, hlisted, rfl⟩ := List.mem_map.1 hline
          exact hentry entry hlisted
        · decide
  · decide

end Event

/-! ## Lines of an artifact -/

namespace EventGroup

variable {group : EventGroup} {runtime : String}

/-- The lines in front of the arms of an artifact. -/
def openingLines (group : EventGroup) (runtime : String) : List Line :=
  group.commentLines ++ outermost "" :: group.signatureLines runtime ++
    [outermost "\x7b", ⟨1, "let name: &'static str;"⟩,
      ⟨1, "let payload: " ++ runtime ++ "::Payload;"⟩, ⟨1, "match event \x7b"⟩]

/-- The lines behind the arms of an artifact. -/
def closingLines : List Line := [⟨1, "\x7d"⟩, ⟨1, trackCall⟩, outermost "\x7d"]

/-- An artifact consists of its arms and the lines in front of them and behind them. -/
theorem lines_eq (group : EventGroup) (runtime : String) :
    group.lines runtime =
      group.openingLines runtime ++ nested (nested (group.arms runtime)) ++ closingLines := by
  simp [lines, bodyLines, openingLines, closingLines, block, nested, outermost, trackCall]

/-- A line in front of the arms is of the other kind, whatever the names are. -/
theorem isOther_of_mem_openingLines {line : Line} (h : line ∈ group.openingLines runtime) :
    IsOther line.shown := by
  have hends {ending : String} {c : Char} (hc : ending.toList.getLast? = some c)
      (hne : ending.toList ≠ []) (front : String) :
      (front ++ ending).toList.getLast? = some c := by
    rw [String.toList_append, List.getLast?_append_of_ne_nil _ hne, hc]
  rw [openingLines, List.mem_append, List.mem_append, List.mem_cons] at h
  rcases h with (hcomment | rfl | hsignature) | hbody
  · rw [commentLines] at hcomment
    rcases List.mem_cons.1 hcomment with rfl | hleft
    · exact isOther_of_getLast? (hends (c := '.') (by decide) (by decide) _) (by decide) (by decide)
    · split at hleft
      · cases hleft
      · rw [List.mem_singleton.1 hleft]
        exact isOther_of_getLast? (hends (c := '.') (by decide) (by decide) _) (by decide)
          (by decide)
  · exact ⟨rfl, rfl⟩
  · simp only [signatureLines, List.mem_cons, List.not_mem_nil, or_false] at hsignature
    rcases hsignature with rfl | rfl | rfl | rfl | rfl | rfl | rfl
    · exact isOther_of_getLast? (hends (c := '.') (by decide) (by decide) _) (by decide) (by decide)
    · decide
    · decide
    · decide
    · exact isOther_of_getLast? (hends (c := ')') (by decide) (by decide) _) (by decide) (by decide)
    · decide
    · exact isOther_of_getLast? (hends (c := ',') (by decide) (by decide) _) (by decide) (by decide)
  · simp only [List.mem_cons, List.not_mem_nil, or_false] at hbody
    rcases hbody with rfl | rfl | rfl | rfl
    · decide
    · decide
    · exact (IsInner.of_append ⟨'l', by decide⟩ (by decide) (by decide) _).isOther
    · decide

/-- The lines in front of the arms stand on one line each. -/
theorem isLine_of_mem_openingLines (hgroup : group.OnOneLine) (hruntime : IsLine runtime)
    {line : Line} (h : line ∈ group.openingLines runtime) : IsLine line.text := by
  have hdisplay : IsLine group.name.display :=
    isLine_intercalate (by decide) hgroup.segments
  have hpath : IsLine (writtenPath group.name) := isLine_writtenPath hgroup.segments
  have htype : IsLine group.typeText := by
    unfold typeText
    split
    · exact hpath
    · refine isLine_append (isLine_append (isLine_append hpath (by decide)) ?_) (by decide)
      refine isLine_intercalate (by decide) ?_
      intro text htext
      rw [(List.mem_replicate.1 htext).2]
      decide
  rw [openingLines, List.mem_append, List.mem_append, List.mem_cons] at h
  rcases h with (hcomment | rfl | hsignature) | hbody
  · rw [commentLines] at hcomment
    rcases List.mem_cons.1 hcomment with rfl | hleft
    · exact isLine_append (isLine_append (by decide) hdisplay) (by decide)
    · split at hleft
      · cases hleft
      · rw [List.mem_singleton.1 hleft]
        refine isLine_append (isLine_append (by decide) (isLine_intercalate (by decide) ?_))
          (by decide)
        intro text htext
        obtain ⟨name, hname, rfl⟩ := List.mem_map.1 htext
        exact isLine_append (isLine_append (by decide) (hgroup.excluded name hname)) (by decide)
  · decide
  · simp only [signatureLines, List.mem_cons, List.not_mem_nil, or_false] at hsignature
    have hfunction : IsLine (trackingFunction group.name) :=
      isLine_append (by decide) (isLine_snakeCase (isLine_simple hgroup.segments))
    rcases hsignature with rfl | rfl | rfl | rfl | rfl | rfl | rfl
    · exact isLine_append (isLine_append (by decide) hdisplay) (by decide)
    · decide
    · decide
    · decide
    · exact isLine_append (isLine_append (isLine_append (isLine_append (by decide) hfunction)
        (by decide)) htype) (by decide)
    · decide
    · exact isLine_append (isLine_append (by decide) hruntime) (by decide)
  · simp only [List.mem_cons, List.not_mem_nil, or_false] at hbody
    rcases hbody with rfl | rfl | rfl | rfl
    · decide
    · decide
    · exact isLine_append (isLine_append (by decide) hruntime) (by decide)
    · decide

/-- The lines of an artifact stand on one line each if the names of its group do. -/
theorem isLine_of_mem_lines (hgroup : group.OnOneLine) (hruntime : IsLine runtime)
    {line : Line} (h : line ∈ group.lines runtime) : IsLine line.text := by
  rw [lines_eq, List.mem_append, List.mem_append] at h
  rcases h with (hopening | harms) | hclosing
  · exact isLine_of_mem_openingLines hgroup hruntime hopening
  · obtain ⟨outer, houter, rfl⟩ := List.mem_map.1 harms
    obtain ⟨inner, hinner, rfl⟩ := List.mem_map.1 houter
    obtain ⟨event, hevent, harm⟩ := List.mem_flatMap.1 hinner
    have hline : IsLine inner.text :=
      Event.isLine_of_mem_arm (isLine_writtenPath hgroup.segments) hruntime
        (hgroup.events event hevent) (hgroup.fields event hevent) harm
    exact hline
  · have hall : ∀ line ∈ closingLines, IsLine line.text := by decide
    exact hall line hclosing

end EventGroup

/-! ## Reading arms -/

/-- Reads the name that is set by a line. -/
def readName? (line : List Char) : Option String :=
  if "name = ".toList.isPrefixOf (unindented line) then
    match unquote? ((unindented line).drop "name = ".toList.length) with
    | some (name, [';']) => some name
    | _ => none
  else none

/-- What stands between the key and the value of an entry. -/
def entryMiddle (runtime : String) : List Char :=
  (".to_owned(), " ++ runtime ++ "::to_value(").toList

/-- Reads the key and the value that a line adds to a payload. -/
def readPair? (runtime : String) (line : List Char) : Option (String × String) :=
  if "(".toList.isPrefixOf (unindented line) then
    match unquote? ((unindented line).drop "(".toList.length) with
    | some (key, after) =>
      if (entryMiddle runtime).isPrefixOf after && ")),".toList.isSuffixOf after then
        let value := after.drop (entryMiddle runtime).length
        some (key, String.ofList (value.take (value.length - ")),".toList.length)))
      else none
    | none => none
  else none

/-- Reads the entries of a payload up to the line that ends it. -/
def readEntries? (runtime : String) : List (List Char) → Option (List (String × String))
  | [] => none
  | line :: rest =>
    if unindented line = "]);".toList then some []
    else
      match readPair? runtime line, readEntries? runtime rest with
      | some entry, some entries => some (entry :: entries)
      | _, _ => none

/-- Reads a payload: it is new, or it has entries. -/
def readPayload? (runtime : String) : List (List Char) → Option (List (String × String))
  | [] => none
  | line :: rest =>
    if unindented line = ("payload = " ++ runtime ++ "::Payload::new();").toList then some []
    else if unindented line = ("payload = " ++ runtime ++ "::Payload::from([").toList then
      readEntries? runtime rest
    else none

/-- Reads the name and the payload of an arm from the lines behind its head. -/
def readArm? (runtime : String) : List (List Char) → Option (String × List (String × String))
  | [] => none
  | line :: rest =>
    match readName? line, readPayload? runtime rest with
    | some name, some entries => some (name, entries)
    | _, _ => none

/-- Reads the arms of an artifact from its lines. -/
def readArms? (runtime : String) :
    List (List Char) → Option (List (String × List (String × String)))
  | [] => some []
  | line :: rest =>
    if isArmHead line then
      match readArm? runtime rest, readArms? runtime rest with
      | some arm, some arms => some (arm :: arms)
      | _, _ => none
    else readArms? runtime rest

section

variable {runtime : String}

/-- A name is read from the line that sets it. -/
theorem readName?_shown {line : Line} {name : String}
    (h : line.text = "name = " ++ quote name ++ ";") : readName? line.shown = some name := by
  have hinner : IsInner line.text := h ▸ .of_append ⟨'n', by decide⟩ (by decide) (by decide) _
  have htext : unindented line.shown = "name = ".toList ++ ((quote name).toList ++ [';']) := by
    rw [hinner.unindented_shown, h, String.toList_append, String.toList_append, List.append_assoc]
    rfl
  rw [readName?, htext, if_pos (List.isPrefixOf_iff_prefix.2 ⟨_, rfl⟩), List.drop_left,
    unquote?_quote_append]
  rfl

/-- An entry is read from its line. -/
theorem readPair?_shown {line : Line} {entry : String × String}
    (h : line.text = (Event.entryLine runtime entry).text) :
    readPair? runtime line.shown = some entry := by
  have hinner : IsInner line.text := h ▸ Event.isInner_entryLine runtime entry
  have htext : unindented line.shown =
      "(".toList ++ ((quote entry.1).toList ++
        (entryMiddle runtime ++ (entry.2.toList ++ ")),".toList))) := by
    rw [hinner.unindented_shown, h, Event.entryLine, outermost, entryMiddle]
    simp only [String.toList_append, List.append_assoc]
  have hbegins : (entryMiddle runtime).isPrefixOf
      (entryMiddle runtime ++ (entry.2.toList ++ ")),".toList)) = true :=
    List.isPrefixOf_iff_prefix.2 ⟨_, rfl⟩
  have hsuffix : ")),".toList.isSuffixOf
      (entryMiddle runtime ++ (entry.2.toList ++ ")),".toList)) = true :=
    List.isSuffixOf_iff_suffix.2 ⟨_, List.append_assoc _ _ _⟩
  rw [readPair?, htext, if_pos (List.isPrefixOf_iff_prefix.2 ⟨_, rfl⟩), List.drop_left,
    unquote?_quote_append]
  dsimp only
  rw [hbegins, hsuffix, Bool.and_self, if_pos rfl, List.drop_left, List.length_append,
    Nat.add_sub_cancel, List.take_left, String.ofList_toList]

/-- The entries of a payload are read from their lines, whatever follows the end. -/
theorem readEntries?_append {lines : List Line} {entries : List (String × String)}
    (h : lines.map Line.text = (entries.map (Event.entryLine runtime)).map Line.text) {last : Line}
    (hlast : last.text = "]);") (rest : List (List Char)) :
    readEntries? runtime (lines.map shown ++ last.shown :: rest) = some entries := by
  have hend : unindented last.shown = "]);".toList := by
    have hinner : IsInner last.text := hlast ▸ ⟨⟨']', by decide⟩, by decide⟩
    rw [hinner.unindented_shown, hlast]
  induction entries generalizing lines with
  | nil =>
      rw [List.map_nil, List.map_nil, List.map_eq_nil_iff] at h
      rw [h, List.map_nil, List.nil_append, readEntries?, if_pos hend]
  | cons entry more ih =>
      obtain ⟨line, others, rfl⟩ : ∃ line others, lines = line :: others := by
        cases lines with
        | nil => cases h
        | cons line others => exact ⟨line, others, rfl⟩
      obtain ⟨hline, hothers⟩ := List.cons.inj h
      have hinner : IsInner line.text := hline ▸ Event.isInner_entryLine runtime entry
      have hne : unindented line.shown ≠ "]);".toList := by
        rw [hinner.unindented_shown, hline, Event.entryLine, outermost]
        simp only [String.toList_append]
        intro hclose
        exact absurd (List.cons.inj hclose).1 (by decide)
      rw [List.map_cons, List.cons_append, readEntries?, if_neg hne, readPair?_shown hline,
        ih hothers]

/-- The payload of an arm is read from its lines, whatever follows them. -/
theorem readPayload?_append {lines : List Line} {entries : List (String × String)}
    (h : lines.map Line.text = (Event.literalLines runtime entries).map Line.text)
    (rest : List (List Char)) :
    readPayload? runtime (lines.map shown ++ rest) = some entries := by
  have hfirst {line : Line} {ending : String} (htext : line.text = "payload = " ++ runtime ++ ending)
      (hne : ending.toList ≠ []) (hlast : ending.toList.getLast? ≠ some '\x7b') :
      unindented line.shown = ("payload = " ++ runtime ++ ending).toList := by
    have hinner : IsInner line.text := htext ▸ .of_append ⟨'p', by decide⟩ hne hlast _
    rw [hinner.unindented_shown, htext]
  unfold Event.literalLines at h
  cases entries with
  | nil =>
      obtain ⟨line, rfl, htext⟩ := List.map_eq_singleton_iff.1 h
      rw [List.map_singleton, List.singleton_append, readPayload?,
        if_pos (hfirst htext (by decide) (by decide))]
  | cons entry more =>
      rw [if_neg (by simp), List.cons_append, List.map_cons, List.map_append, map_text_nested] at h
      obtain ⟨first, others, rfl, htext, hothers⟩ := List.map_eq_cons_iff.1 h
      obtain ⟨inner, last, rfl, hinner, hlast⟩ := List.map_eq_append_iff.1 hothers
      obtain ⟨close, rfl, hclose⟩ := List.map_eq_singleton_iff.1 hlast
      have hstart := hfirst htext (by decide) (by decide)
      have hne : unindented first.shown ≠ ("payload = " ++ runtime ++ "::Payload::new();").toList := by
        rw [hstart]
        intro heq
        rw [String.toList_inj, String.append_right_inj] at heq
        exact absurd heq (by decide)
      rw [List.map_cons, List.cons_append, readPayload?, if_neg hne, if_pos hstart, List.map_append,
        List.map_singleton, List.append_assoc, List.singleton_append]
      exact readEntries?_append hinner hclose rest

/-- An arm is read from the lines behind its head, whatever follows them. -/
theorem readArm?_append {event : Event} {lines : List Line}
    (h : lines.map Line.text = (event.innerLines runtime).map Line.text)
    (rest : List (List Char)) :
    readArm? runtime (lines.map shown ++ rest) =
      some (event.eventName, event.keys.zip event.expressions) := by
  rw [Event.innerLines, List.map_cons] at h
  obtain ⟨first, others, rfl, htext, hothers⟩ := List.map_eq_cons_iff.1 h
  rw [List.map_cons, List.cons_append, readArm?, readName?_shown htext, readPayload?_append hothers]

/-- Lines that are no heads of arms are passed over. -/
theorem readArms?_append {front : List (List Char)}
    (h : ∀ line ∈ front, isArmHead line = false) (rest : List (List Char)) :
    readArms? runtime (front ++ rest) = readArms? runtime rest := by
  induction front with
  | nil => rfl
  | cons line more ih =>
      obtain ⟨hline, hmore⟩ := List.forall_mem_cons.1 h
      rw [List.cons_append, readArms?, hline, if_neg Bool.false_ne_true, ih hmore]

end

/-! ## Arms as they are read -/

namespace Event

/-- The lines of an artifact that make the arm of an event: a head, a line that sets the name, the
lines that set the payload, and a closing brace. The payload is new if the event has no fields.
Otherwise it has one entry for each field, in the order of the fields. -/
structure IsArm (groupPath runtime : String) (event : Event) (head : List Char)
    (inner : List (List Char)) (close : List Char) : Prop where
  /-- The first line has the pattern of the event. -/
  pattern : head = ("        " ++ event.pattern groupPath ++ " => \x7b").toList
  /-- The first line is the head of an arm. -/
  begins : isArmHead head = true
  /-- The last line is a closing brace. -/
  ends : unindented close = ['\x7d']
  /-- No line in between is either. -/
  goesOn : ∀ line ∈ inner, isArmHead line = false ∧ unindented line ≠ ['\x7d']
  /-- The line behind the head sets the name, and no other line does. -/
  setsName : ∃ first payload, inner = first :: payload ∧
    unindented first = ("name = " ++ quote event.eventName ++ ";").toList ∧
    ∀ line ∈ payload, "name = ".toList.isPrefixOf (unindented line) = false
  /-- Without fields one line sets the payload. -/
  setsNew : event.fields = [] →
    inner.tail.map unindented = [("payload = " ++ runtime ++ "::Payload::new();").toList]
  /-- With fields the payload has a line for each of them. -/
  setsEntries : event.fields ≠ [] →
    inner.tail.map unindented =
      (("payload = " ++ runtime ++ "::Payload::from([") ::
        (event.keys.zip event.expressions).map (fun entry => "(" ++ quote entry.1 ++
          ".to_owned(), " ++ runtime ++ "::to_value(" ++ entry.2 ++ ")),") ++ ["]);"]).map
        String.toList
  /-- There are as many values as fields. -/
  values : event.expressions.length = event.fields.length

/-- The head of an event's arm as it stands in an artifact. -/
def shownHead (groupPath : String) (event : Event) : List Char :=
  (Line.mk 2 (event.headText groupPath)).shown

/-- The lines inside an event's arm as they stand in an artifact. -/
def shownInner (runtime : String) (event : Event) : List (List Char) :=
  (nested (nested (nested (event.innerLines runtime)))).map shown

/-- The closing brace of an arm as it stands in an artifact. -/
def shownClose : List Char := (Line.mk 2 "\x7d").shown

/-- The lines of an event's arm as they stand in an artifact. -/
def shownArm (groupPath runtime : String) (event : Event) : List (List Char) :=
  event.shownHead groupPath :: event.shownInner runtime ++ [shownClose]

/-- An arm stands two levels deep in an artifact. -/
theorem map_shown_arm (groupPath runtime : String) (event : Event) :
    (nested (nested (event.arm groupPath runtime))).map shown =
      event.shownArm groupPath runtime := by
  rw [arm_eq, nested_append, nested_append, List.map_append]
  rfl

variable {groupPath runtime : String} {event : Event}

/-- The head of an event's arm has the pattern of the event. -/
theorem shownHead_eq (groupPath : String) (event : Event) :
    event.shownHead groupPath = ("        " ++ event.pattern groupPath ++ " => \x7b").toList := by
  have htext : event.headText groupPath = event.pattern groupPath ++ " => \x7b" := by
    rw [headText, String.append_assoc]
    rfl
  have hne : (event.pattern groupPath ++ " => \x7b").toList.isEmpty = false := by
    rw [List.isEmpty_eq_false_iff, String.toList_append]
    exact List.append_ne_nil_of_right_ne_nil _ (by decide)
  have hindentation : String.join (List.replicate 2 indentation) = "        " := rfl
  rw [shownHead, shown, htext, hne, if_neg Bool.false_ne_true, hindentation, String.append_assoc,
    ← String.toList_append]

/-- The head of an event's arm ends as one. -/
theorem isArmHead_shownHead : isArmHead (event.shownHead groupPath) = true := by
  have hend : " => \x7b" = " " ++ "=> \x7b" := rfl
  rw [isArmHead, List.isSuffixOf_iff_suffix, shownHead_eq, hend, ← String.append_assoc,
    String.toList_append]
  exact List.suffix_append _ _

/-- The head of an event's arm does not hand over the event. -/
theorem isTrackCall_shownHead : isTrackCall (event.shownHead groupPath) = false := by
  refine isTrackCall_eq_false ?_
  rw [shownHead, getLast?_shown, headText, String.toList_append,
    List.getLast?_append_of_ne_nil _ (by decide)]
  decide

/-- A line inside an event's arm has the text of one of its inner lines. -/
theorem exists_of_mem_shownInner {shownLine : List Char}
    (h : shownLine ∈ event.shownInner runtime) :
    ∃ line : Line, shownLine = line.shown ∧ IsInner line.text := by
  obtain ⟨line, hline, rfl⟩ := List.mem_map.1 h
  obtain ⟨middle, hmiddle, rfl⟩ := List.mem_map.1 hline
  obtain ⟨outer, houter, rfl⟩ := List.mem_map.1 hmiddle
  obtain ⟨inner, hinner, rfl⟩ := List.mem_map.1 houter
  have htext : IsInner inner.text := isInner_of_mem_innerLines hinner
  exact ⟨_, rfl, htext⟩

/-- The lines inside an event's arm are neither heads nor calls. -/
theorem isOther_of_mem_shownInner {shownLine : List Char}
    (h : shownLine ∈ event.shownInner runtime) : IsOther shownLine := by
  obtain ⟨line, rfl, hinner⟩ := exists_of_mem_shownInner h
  exact hinner.isOther

/-- The lines inside an event's arm have the texts of its inner lines. -/
theorem map_unindented_shownInner (runtime : String) (event : Event) :
    (event.shownInner runtime).map unindented =
      (event.innerLines runtime).map fun line => line.text.toList := by
  rw [shownInner, List.map_map, nested, nested, nested, List.map_map, List.map_map, List.map_map]
  refine List.map_congr_left ?_
  intro line hline
  have htext : IsInner line.text := isInner_of_mem_innerLines hline
  have hinner : IsInner (Line.mk (line.depth + 1 + 1 + 1) line.text).text := htext
  exact hinner.unindented_shown

/-- The lines that set a payload set no name. -/
theorem head?_ne_of_mem_literalLines {entries : List (String × String)} {line : Line}
    (h : line ∈ literalLines runtime entries) : line.text.toList.head? ≠ some 'n' := by
  have hstart {front : String} {c : Char} (hc : front.toList.head? = some c) (hne : c ≠ 'n')
      (rest : String) : (front ++ rest).toList.head? ≠ some 'n' := by
    rw [String.toList_append, List.head?_append, hc]
    exact fun heq => hne (Option.some.inj heq)
  have hset (rest : String) : ("payload = " ++ rest).toList.head? ≠ some 'n' :=
    hstart (c := 'p') (by decide) (by decide) rest
  unfold literalLines at h
  split at h
  · rw [List.mem_singleton.1 h, outermost, String.append_assoc]
    exact hset _
  · rw [List.mem_append, List.mem_cons, List.mem_singleton] at h
    rcases h with (rfl | hentry) | rfl
    · rw [outermost, String.append_assoc]
      exact hset _
    · obtain ⟨inner, hinner, rfl⟩ := List.mem_map.1 hentry
      obtain ⟨entry, -, rfl⟩ := List.mem_map.1 hinner
      simp only [entryLine, outermost, String.append_assoc]
      exact hstart (c := '(') (by decide) (by decide) _
    · decide

/-- Behind the first line the lines inside an event's arm set the payload. -/
theorem map_unindented_tail_shownInner (runtime : String) (event : Event) :
    (event.shownInner runtime).tail.map unindented =
      ((literalLines runtime (event.keys.zip event.expressions)).map Line.text).map
        String.toList := by
  rw [List.map_tail, map_unindented_shownInner, innerLines, List.map_cons, List.tail_cons,
    List.map_map]
  rfl

/-- An event has a key and a value for each field. -/
theorem length_zip_keys (event : Event) :
    (event.keys.zip event.expressions).length = event.fields.length := by
  rw [List.length_zip, keys, expressions, List.length_map, List.length_map, length_boundFields,
    Nat.min_self]

/-- The lines of an event's arm in an artifact make an arm. -/
theorem isArm_shownArm (groupPath runtime : String) (event : Event) :
    event.IsArm groupPath runtime (event.shownHead groupPath) (event.shownInner runtime)
      shownClose where
  pattern := shownHead_eq groupPath event
  begins := isArmHead_shownHead
  ends := by decide
  goesOn := by
    intro shownLine hmem
    obtain ⟨line, rfl, hinner⟩ := exists_of_mem_shownInner hmem
    exact ⟨hinner.isArmHead_shown, hinner.ne_close⟩
  setsName := by
    have hfirst : IsInner (Line.mk 3 ("name = " ++ quote event.eventName ++ ";")).text :=
      .of_append ⟨'n', by decide⟩ (by decide) (by decide) _
    refine ⟨_, _, rfl, hfirst.unindented_shown, ?_⟩
    intro shownLine hmem
    have htext : unindented shownLine ∈ (event.shownInner runtime).tail.map unindented :=
      List.mem_map.2 ⟨shownLine, hmem, rfl⟩
    rw [map_unindented_tail_shownInner, List.map_map] at htext
    obtain ⟨line, hline, heq⟩ := List.mem_map.1 htext
    rw [← heq, Bool.eq_false_iff]
    intro hbegins
    obtain ⟨rest, hrest⟩ := List.isPrefixOf_iff_prefix.1 hbegins
    apply head?_ne_of_mem_literalLines hline
    have htoList : line.text.toList = "name = ".toList ++ rest := hrest.symm
    rw [htoList]
    rfl
  setsNew := by
    intro hfields
    have hnil : event.keys.zip event.expressions = [] := by
      rw [← List.length_eq_zero_iff, length_zip_keys, hfields]
      rfl
    rw [map_unindented_tail_shownInner, hnil]
    rfl
  setsEntries := by
    intro hfields
    have hne : (event.keys.zip event.expressions).isEmpty = false := by
      rw [List.isEmpty_eq_false_iff, ← List.length_pos_iff, length_zip_keys]
      exact List.length_pos_iff.2 hfields
    rw [map_unindented_tail_shownInner, literalLines, hne, if_neg Bool.false_ne_true,
      List.cons_append, List.map_cons, List.map_append, map_text_nested, List.map_map]
    rfl
  values := by rw [expressions, List.length_map, length_boundFields]

end Event

/-! ## Artifacts as they are read -/

namespace EventGroup

variable {group : EventGroup} {runtime : String}

/-- The lines of an artifact as they stand in its text. -/
theorem map_shown_lines (group : EventGroup) (runtime : String) :
    (group.lines runtime).map shown =
      (group.openingLines runtime).map shown ++
        (group.registry.events.map (Event.shownArm (writtenPath group.name) runtime)).flatten ++
        closingLines.map shown := by
  have harms : (nested (nested (group.arms runtime))).map shown =
      (group.registry.events.map (Event.shownArm (writtenPath group.name) runtime)).flatten := by
    rw [arms, nested, nested, List.map_flatMap, List.map_flatMap, List.map_flatMap, List.flatMap_def]
    congr 1
    refine List.map_congr_left ?_
    intro event _
    exact Event.map_shown_arm _ _ event
  rw [lines_eq, List.map_append, List.map_append, harms]

/-- The arm of an event is read, and the arms behind it are. -/
theorem readArms?_shownArm_append (groupPath : String) (event : Event) (rest : List (List Char)) :
    readArms? runtime (event.shownArm groupPath runtime ++ rest) =
      (readArms? runtime rest).map
        ((event.eventName, event.keys.zip event.expressions) :: ·) := by
  have harm : readArm? runtime (event.shownInner runtime ++ (Event.shownClose :: rest)) =
      some (event.eventName, event.keys.zip event.expressions) := by
    refine readArm?_append ?_ _
    rw [map_text_nested, map_text_nested, map_text_nested]
  have hinside : readArms? runtime (event.shownInner runtime ++ (Event.shownClose :: rest)) =
      readArms? runtime rest := by
    rw [readArms?_append fun line hline => (Event.isOther_of_mem_shownInner hline).1, readArms?,
      if_neg (by decide)]
  rw [Event.shownArm, List.cons_append, List.cons_append, List.append_assoc,
    List.singleton_append, readArms?, if_pos Event.isArmHead_shownHead, harm, hinside]
  cases readArms? runtime rest <;> rfl

/-- The arms of events are read one after the other. -/
theorem readArms?_flatten_append (groupPath : String) (events : List Event)
    {rest : List (List Char)} (hrest : ∀ line ∈ rest, isArmHead line = false) :
    readArms? runtime ((events.map (Event.shownArm groupPath runtime)).flatten ++ rest) =
      some (events.map fun event => (event.eventName, event.keys.zip event.expressions)) := by
  induction events with
  | nil =>
      have hnone : readArms? runtime (rest ++ []) = readArms? runtime [] :=
        readArms?_append hrest []
      rw [List.append_nil] at hnone
      exact hnone
  | cons first others ih =>
      rw [List.map_cons, List.flatten_cons, List.append_assoc, readArms?_shownArm_append, ih]
      rfl

/-- Among the lines of an event's arm only the first is the head of an arm. -/
theorem filter_isArmHead_shownArm (groupPath runtime : String) (event : Event) :
    (event.shownArm groupPath runtime).filter isArmHead = [event.shownHead groupPath] := by
  have hinner : (event.shownInner runtime).filter isArmHead = [] := by
    rw [List.filter_eq_nil_iff]
    intro line hline
    rw [(Event.isOther_of_mem_shownInner hline).1]
    exact Bool.false_ne_true
  rw [Event.shownArm, List.cons_append, List.filter_cons_of_pos Event.isArmHead_shownHead,
    List.filter_append, hinner]
  rfl

/-- Among the lines of several arms the first line of each is the head of an arm. -/
theorem filter_isArmHead_flatten (groupPath runtime : String) (events : List Event) :
    (events.map (Event.shownArm groupPath runtime)).flatten.filter isArmHead =
      (events.map (Event.shownArm groupPath runtime)).filterMap List.head? := by
  induction events with
  | nil => rfl
  | cons first others ih =>
      rw [List.map_cons, List.flatten_cons, List.filter_append, filter_isArmHead_shownArm, ih]
      rfl

/-- No line of an event's arm hands over the event. -/
theorem filter_isTrackCall_shownArm (groupPath runtime : String) (event : Event) :
    (event.shownArm groupPath runtime).filter isTrackCall = [] := by
  rw [List.filter_eq_nil_iff]
  intro line hline
  rw [Event.shownArm, List.mem_append, List.mem_cons, List.mem_singleton] at hline
  rcases hline with (rfl | hinner) | rfl
  · rw [Event.isTrackCall_shownHead]
    exact Bool.false_ne_true
  · rw [(Event.isOther_of_mem_shownInner hinner).2]
    exact Bool.false_ne_true
  · decide

/-- No line of several arms hands over the event. -/
theorem filter_isTrackCall_flatten (groupPath runtime : String) (events : List Event) :
    (events.map (Event.shownArm groupPath runtime)).flatten.filter isTrackCall = [] := by
  induction events with
  | nil => rfl
  | cons first others ih =>
      rw [List.map_cons, List.flatten_cons, List.filter_append, filter_isTrackCall_shownArm, ih]
      rfl

end EventGroup

/-- An artifact encodes the registry of its group and nothing else, if no name of the group and not
the runtime holds a line break. Its lines are those of one arm for each event, in order, between
lines of which none is the head of an arm. Behind the arms, and nowhere else, one line hands the
event to the tracker. A reader of lines finds the names of the events and the keys and values of
their payloads, in order. -/
theorem artifact_read_by_lines {group : EventGroup} {runtime : String}
    (hgroup : group.OnOneLine) (hruntime : IsLine runtime) :
    ∃ (front : List (List Char)) (arms : List (List (List Char))),
      linesOf (group.artifact runtime).contents.toList =
        front ++ arms.flatten ++
          ["    \x7d", "    tracker.track(name, payload);", "\x7d"].map String.toList ∧
      List.Forall₂
        (fun event arm => ∃ head inner close, arm = head :: inner ++ [close] ∧
          event.IsArm (writtenPath group.name) (runtimeText runtime) head inner close)
        group.registry.events arms ∧
      (linesOf (group.artifact runtime).contents.toList).filter isArmHead =
        arms.filterMap List.head? ∧
      (linesOf (group.artifact runtime).contents.toList).filter isTrackCall =
        ["    tracker.track(name, payload);".toList] ∧
      readArms? (runtimeText runtime) (linesOf (group.artifact runtime).contents.toList) =
        some (group.registry.events.map fun event =>
          (event.eventName, event.keys.zip event.expressions)) := by
  have hlines : linesOf (group.artifact runtime).contents.toList =
      (group.lines (runtimeText runtime)).map shown :=
    linesOf_render fun line hline =>
      EventGroup.isLine_of_mem_lines hgroup (isLine_runtimeText hruntime) hline
  have hfront : ∀ line ∈ (group.openingLines (runtimeText runtime)).map shown, IsOther line := by
    intro shownLine hmem
    obtain ⟨line, hline, rfl⟩ := List.mem_map.1 hmem
    exact EventGroup.isOther_of_mem_openingLines hline
  have hnoHead : ((group.openingLines (runtimeText runtime)).map shown).filter isArmHead = [] := by
    rw [List.filter_eq_nil_iff]
    intro line hline
    rw [(hfront line hline).1]
    exact Bool.false_ne_true
  have hnoCall :
      ((group.openingLines (runtimeText runtime)).map shown).filter isTrackCall = [] := by
    rw [List.filter_eq_nil_iff]
    intro line hline
    rw [(hfront line hline).2]
    exact Bool.false_ne_true
  have hback : ∀ line ∈ EventGroup.closingLines.map shown, isArmHead line = false := by decide
  rw [hlines, EventGroup.map_shown_lines]
  refine ⟨_, _, rfl, ?_, ?_, ?_, ?_⟩
  · rw [List.forall₂_map_right_iff, List.forall₂_same]
    intro event _
    exact ⟨_, _, _, rfl, Event.isArm_shownArm _ _ event⟩
  · rw [List.filter_append, List.filter_append, hnoHead, EventGroup.filter_isArmHead_flatten,
      List.filter_eq_nil_iff.2 fun line hline => by rw [hback line hline]; exact Bool.false_ne_true,
      List.append_nil, List.nil_append]
  · rw [List.filter_append, List.filter_append, hnoCall, EventGroup.filter_isTrackCall_flatten]
    rfl
  · rw [List.append_assoc, readArms?_append fun line hline => (hfront line hline).1]
    exact EventGroup.readArms?_flatten_append _ _ hback

/-- A group with an event that has two fields and one that has none. The name of the group looks like
a line of an arm. -/
def quotingGroup : EventGroup where
  name := ⟨["crate", "name = \"\"; => \x7b"]⟩
  lifetimes := 1
  location := ⟨"src/lib.rs", 1⟩
  registry := ⟨[⟨⟨["crate", "Life", "Begun"]⟩, .braced, ["userId", "name"]⟩,
    ⟨⟨["crate", "Life", "Ended"]⟩, .unit, []⟩]⟩
  excluded := [⟨["crate", "Life", "Lost"]⟩]

/-- The events of that group are read from the lines of its artifact. -/
theorem quotingGroup_read_by_lines :
    quotingGroup.OnOneLine ∧ IsLine defaultRuntime ∧
      readArms? "::auto_analytics" (linesOf (quotingGroup.artifact defaultRuntime).contents.toList) =
        some [("BEGUN", [("user_id", "userId"), ("name", "name_")]), ("ENDED", [])] := by
  have hgroup : quotingGroup.OnOneLine :=
    ⟨by decide, by decide, by decide, by decide⟩
  have hruntime : IsLine defaultRuntime := by decide
  obtain ⟨-, -, -, -, -, -, hread⟩ := artifact_read_by_lines hgroup hruntime
  refine ⟨hgroup, hruntime, ?_⟩
  have hpath : runtimeText defaultRuntime = "::auto_analytics" := by decide +kernel
  rw [hpath] at hread
  rw [hread]
  decide +kernel

end EventTracking
