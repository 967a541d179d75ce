import EventTracking.Proofs.ArmLocals
import EventTracking.Proofs.ArtifactLines
import EventTracking.Proofs.Spelling

/-!
# Artifacts as pieces of code

Every line of an artifact can be given as a phrase, a list of pieces with the indentation and the
line break of the line. The names in the phrases are identifiers, which there are for every name
that is a word and has a raw form. A group is spelled if all its names are such names.

Main statements: a name is written as its identifier is (`written_nameOf`), and the artifact of a
spelled group is written as the pieces of its phrases (`textOf_phrase`).
-/

namespace EventTracking

open Code Text Line

/-! ## Names as identifiers -/

/-- A name that can be written: a word that is a name by itself or has a raw form. -/
def IsWritable (name : String) : Prop :=
  isWord name.toList = true ∧ name ∉ withoutRawForm

instance (name : String) : Decidable (IsWritable name) :=
  inferInstanceAs (Decidable (isWord name.toList = true ∧ name ∉ withoutRawForm))

/-- The identifier that is written for a name; the word `doc` stands in for a name that cannot be
written. -/
def nameOf (name : String) : Identifier :=
  if h : IsWritable name then ⟨keywords.contains name, name, h.1, fun _ => h.2⟩
  else Token.docWord

/-- The identifier names something. -/
theorem isName_nameOf (name : String) : (nameOf name).isName = true := by
  unfold nameOf
  split
  · exact Bool.or_not_self _
  · decide

/-- The identifier is written as the name is. -/
theorem written_nameOf {name : String} (h : IsWritable name) :
    (nameOf name).written = writtenName name := by
  rw [nameOf, dif_pos h, writtenName, isNameText_of_isWord h.1, Identifier.written]
  by_cases hkeyword : keywords.contains name = true
  · rw [if_pos hkeyword, if_neg (by rw [hkeyword]; decide)]
  · rw [if_neg hkeyword, if_pos (by rw [Bool.eq_false_iff.2 hkeyword]; rfl)]

/-- A word that is no keyword can be written. -/
theorem isWritable_of_notMem_keywords {name : String} (hword : isWord name.toList = true)
    (h : name ∉ keywords) : IsWritable name := by
  have hsubset : ∀ word ∈ withoutRawForm, word ∈ keywords := by decide
  exact ⟨hword, fun hmem => h (hsubset name hmem)⟩

/-- A word that is no keyword is written as it is. -/
theorem writtenName_of_notMem_keywords {name : String} (hword : isWord name.toList = true)
    (h : name ∉ keywords) : writtenName name = name := by
  rw [writtenName, isNameText_of_isWord hword, if_pos]
  rw [Bool.not_eq_true', Bool.eq_false_iff, Ne, List.contains_iff_mem]
  exact h

/-! ## Names in code -/

namespace Code

/-- A word is followed by no punctuation before it. -/
theorem beginsMark_written (identifier : Identifier) (after : List Char) :
    beginsMark (identifier.written.toList ++ after) = false := by
  obtain ⟨c, rest, htext, hc⟩ := identifier.exists_cons_written
  rw [htext]
  exact beginsMark_of_isWordStart hc _

/-- A plain identifier is written as its word. -/
@[simp] theorem written_plain (word : String) (h : isWord word.toList = true) :
    (Identifier.plain word h).written = word := rfl

namespace Piece

/-- A plain word. -/
def plain (word : String) (h : isWord word.toList = true) : Piece := .word (.plain word h)

/-- A plain word is written as it is. -/
@[simp] theorem text_plain (word : String) (h : isWord word.toList = true) :
    (plain word h).text = word.toList := rfl

/-- A single blank. -/
def space : Piece := .gap " "

/-- Words with a separator before each of them. -/
def rooted (names : List Identifier) : List Piece :=
  names.flatMap fun name => [.mark ':' true, .mark ':' false, .word name]

/-- The path of a group. -/
def path (names : List Identifier) : List Piece :=
  .plain "crate" (.refl true) :: rooted names

/-- Phrases with commas between them. -/
def listed (phrases : List (List Piece)) : List Piece :=
  List.intercalate [.mark ',' false, space] phrases

/-- Words with separators fit to what may follow a word. -/
theorem fitAll_rooted (names : List Identifier) {after : List Char} (h : endsWord after = true) :
    fitAll (rooted names) after = true := by
  induction names with
  | nil => rfl
  | cons name rest ih =>
      have hends : endsWord (textOf (rooted rest) ++ after) = true := by
        cases rest with
        | nil => exact h
        | cons => rfl
      rw [rooted, List.flatMap_cons, ← rooted, fitAll_append, ih, Bool.and_true]
      simp only [fitAll, fits, textOf, text, List.append_nil, List.nil_append,
        beginsMark_written, hends, List.cons_append]
      rfl

/-- The lifetimes between the angle brackets of a type, one more than a number. -/
def openLifetimes (count : Nat) : List Piece :=
  listed (List.replicate (count + 1) [.lifetime (.plain "_" (by decide))])

/-- The arguments of a type with that many lifetimes, which are left open. -/
def lifetimeArguments : (count : Nat) → List Piece
  | 0 => []
  | count + 1 => .mark '<' true :: (openLifetimes count ++ [.mark '>' false])

/-- Indentation. -/
def indent (depth : Nat) : Piece := .gap (String.join (List.replicate depth indentation))

/-- A phrase on a line of its own. -/
def line (depth : Nat) (phrase : List Piece) : List Piece :=
  indent depth :: (phrase ++ [.gap "\n"])

/-- The path of something in the runtime library. -/
def runtime (names : List Identifier) : List Piece :=
  rooted (.plain "auto_analytics" (by decide) :: names)

/-- The condition on the type of the tracker. -/
def conditionLines : List Piece :=
  line 0 [plain "where" (by decide)] ++
    line 1 ([plain "T" (by decide), .mark ':' false, space] ++
      runtime [.plain "AutoAnalytics" (by decide)] ++
      [space, .mark '+' false, space, .mark '?' false, plain "Sized" (by decide),
        .mark ',' false])

end Piece

end Code

/-! ## Events in code -/

/-- A word with the snake case of another one behind it is a word. -/
theorem isWord_append_snakeCase {front name : String} (hfront : isWord front.toList = true)
    (hname : isWord name.toList = true) : isWord (front ++ snakeCase name).toList = true := by
  have hsnake : (snakeCase name).toList.all isWordPart = true := by
    rw [List.all_eq_true]
    intro c hc
    rw [snakeCase, String.toList_ofList] at hc
    rcases mem_words hc with rfl | ⟨d, hd, rfl⟩
    · decide
    · apply isWordPart_toLower
      rcases isWordStart_or_isWordPart_of_mem hname hd with hstart | hpart
      · exact isWordPart_of_isWordStart hstart
      · exact hpart
  rw [String.toList_append]
  cases htext : front.toList with
  | nil =>
      rw [htext] at hfront
      cases hfront
  | cons first rest =>
      rw [htext, isWord, Bool.and_eq_true] at hfront
      rw [List.cons_append, isWord, hfront.1, List.all_append, hfront.2, hsnake]
      rfl

namespace Event

open Piece

variable (event : Event)

/-- A field in the pattern of an arm. -/
def fieldPhrase (field : String) : List Piece :=
  if reservedLocals.contains field then
    [.word (nameOf field), .mark ':' false, space, .word (nameOf (localName event.fields field))]
  else [.word (nameOf field)]

/-- What stands behind the path of the variant in the pattern of an arm. -/
def patternPhrase : List Piece :=
  match event.form, event.fields with
  | .unit, _ => []
  | .braced, [] => [space, .group .brace [space, .mark '.' true, .mark '.' false, space]]
  | .braced, first :: rest =>
    [space, .group .brace
      (space :: (listed ((first :: rest).map event.fieldPhrase) ++ [space]))]
  | .newtype, [] => [.group .parenthesis [plain "_" (by decide)]]
  | .newtype, _ :: _ => [.group .parenthesis [plain "event" (by decide)]]
  | .tuple, _ => [.group .parenthesis [.mark '.' true, .mark '.' false]]

/-- The value of a field. -/
def valuePhrase (field : String) : List Piece :=
  match event.form with
  | .newtype =>
    [.mark '&' false, plain "event" (by decide), .mark '.' false, .word (nameOf field)]
  | _ => [.word (nameOf (localName event.fields field))]

/-- The key and the value of a field in the payload. -/
def pairPhrase (field : String) : List Piece :=
  [.quoted (snakeCase field), .mark '.' false, plain "to_owned" (by decide),
      .group .parenthesis [], .mark ',' false, space] ++
    (runtime [.plain "to_value" (by decide)] ++ [.group .parenthesis (event.valuePhrase field)])

/-- The entry of a field in the payload. -/
def entryPhrase (field : String) : List Piece :=
  [.group .parenthesis (event.pairPhrase field), .mark ',' false]

/-- The value that the payload is set to. -/
def payloadPhrase : List Piece :=
  match event.fields with
  | [] =>
    runtime [.plain "Payload" (by decide), .plain "new" (by decide)] ++ [.group .parenthesis []]
  | first :: rest =>
    runtime [.plain "Payload" (by decide), .plain "from" (by decide)] ++
      [.group .parenthesis [.group .bracket
        (.gap "\n" :: ((first :: rest).flatMap fun field => line 4 (event.entryPhrase field)) ++
          [indent 3])]]

/-- The two assignments of an arm. -/
def assignments : List Piece :=
  line 3 [plain "name" (by decide), space, .mark '=' false, space, .quoted event.eventName,
      .mark ';' false] ++
    line 3 ([plain "payload" (by decide), space, .mark '=' false, space] ++
      event.payloadPhrase ++ [.mark ';' false])

/-- The arm of an event, given the path of the group. -/
def armPhrase (groupPath : List Identifier) : List Piece :=
  indent 2 :: (path (groupPath ++ [nameOf event.name.simple]) ++ event.patternPhrase ++
    [space, .mark '=' true, .mark '>' false, space,
      .group .brace (.gap "\n" :: event.assignments ++ [indent 2]), .gap "\n"])

end Event

namespace EventGroup

open Piece

variable (group : EventGroup)

/-- The path of a group below the crate. -/
def pathNames : List Identifier := group.name.segments.tail.map nameOf

/-- The match over the events of a group. -/
def matchPhrase : List Piece :=
  [plain "match" (by decide), space, plain "event" (by decide), space,
    .group .brace (.gap "\n" :: group.registry.events.flatMap (·.armPhrase group.pathNames) ++
      [indent 1])]

/-- The statements of the function. -/
def bodyStatements : List (List Piece) :=
  [line 1 [plain "let" (by decide), space, plain "name" (by decide), .mark ':' false, space,
      .mark '&' true, .lifetime (.plain "static" (by decide)), space, plain "str" (by decide),
      .mark ';' false],
    line 1 ([plain "let" (by decide), space, plain "payload" (by decide), .mark ':' false,
      space] ++ runtime [.plain "Payload" (by decide)] ++ [.mark ';' false]),
    line 1 group.matchPhrase,
    line 1 [plain "tracker" (by decide), .mark '.' false, plain "track" (by decide),
      .group .parenthesis [plain "name" (by decide), .mark ',' false, space,
        plain "payload" (by decide)],
      .mark ';' false]]

/-- The body of the function. -/
def bodyPhrase : List Piece := group.bodyStatements.flatten

/-- The comments that begin an artifact. -/
def commentPhrase : List Piece :=
  line 0 [.comment (" @generated by auto-analytics from `" ++ group.name.display ++
      "`. Do not edit.")] ++
    match group.excluded with
    | [] => []
    | first :: rest =>
      line 0 [.comment (" No fields could be read for " ++
        ", ".intercalate ((first :: rest).map fun name => "`" ++ name.simple ++ "`") ++
        ", so this match has no arm for them.")]

/-- The attributes of the function as they are read, the first one on a line. -/
def functionAttributes (line : Nat) : List Attribute :=
  [⟨[Token.docWord], line⟩, ⟨[Token.docWord], line + 1⟩, ⟨[Token.docWord], line + 2⟩,
    ⟨[.plain "allow" (by decide)], line + 3⟩]

/-- The description of the function and its attribute. -/
def attributePhrase : List Piece :=
  line 0 [.documentation (" Converts `" ++ group.name.display ++
      "` to a name and payload and delegates it to `AutoAnalytics::track`.")] ++
    line 0 [.documentation ""] ++
    line 0 [.documentation " This is a generated function. Do not edit."] ++
    line 0 [.mark '#' false, .group .bracket [plain "allow" (by decide),
      .group .parenthesis [plain "clippy" (by decide), .mark ':' true, .mark ':' false,
        plain "needless_late_init" (by decide)]]]

/-- The parameters of the function. -/
def parameters : List Piece :=
  [plain "tracker" (by decide), .mark ':' false, space, .mark '&' false, plain "T" (by decide),
      .mark ',' false, space, plain "event" (by decide), .mark ':' false, space,
      .mark '&' false] ++
    Piece.path group.pathNames ++ lifetimeArguments group.lifetimes

/-- The signature of the function. -/
def signaturePhrase : List Piece :=
  line 0 [plain "pub" (by decide), space, plain "fn" (by decide), space,
      .word (nameOf (trackingFunction group.name)), .mark '<' false, plain "T" (by decide),
      .mark '>' false, .group .parenthesis group.parameters] ++
    conditionLines

/-- The function of an artifact. -/
def functionPhrase : List Piece :=
  group.attributePhrase ++ group.signaturePhrase ++
    line 0 [.group .brace (.gap "\n" :: group.bodyPhrase ++ [indent 0])]

/-- An artifact as pieces of code. -/
def phrase : List Piece := group.commentPhrase ++ [.gap "\n"] ++ group.functionPhrase

end EventGroup

/-! ## Code as it is written -/

namespace Code.Piece

/-- Words with separators are written as the segments of a path. -/
theorem textOf_rooted {names : List String} (h : ∀ name ∈ names, IsWritable name) :
    textOf (rooted (names.map nameOf)) =
      names.flatMap fun name => ':' :: ':' :: (writtenName name).toList := by
  induction names with
  | nil => rfl
  | cons name rest ih =>
      obtain ⟨hname, hrest⟩ := List.forall_mem_cons.1 h
      rw [List.map_cons, rooted, List.flatMap_cons, ← rooted, textOf_append, ih hrest,
        List.flatMap_cons, ← written_nameOf hname]
      simp [textOf, text]

/-- The segments of a path below the crate are written after separators. -/
theorem toList_writtenPath (names : List String) :
    (writtenPath ⟨"crate" :: names⟩).toList =
      "crate".toList ++ names.flatMap fun name => ':' :: ':' :: (writtenName name).toList := by
  have htail (first : String) (names : List String) :
      ("::".intercalate (first :: names.map writtenName)).toList =
        first.toList ++ names.flatMap fun name => ':' :: ':' :: (writtenName name).toList := by
    induction names generalizing first with
    | nil => rw [List.map_nil, String.intercalate_singleton, List.flatMap_nil, List.append_nil]
    | cons name rest ih =>
        rw [List.map_cons, String.intercalate_cons_cons, String.toList_append,
          String.toList_append, ih, List.flatMap_cons, List.append_assoc]
        rfl
  exact htail "crate" names

/-- The path of a group is written as it is. -/
theorem textOf_path {names : List String} (h : ∀ name ∈ names, IsWritable name) :
    textOf (path (names.map nameOf)) = (writtenPath ⟨"crate" :: names⟩).toList := by
  rw [path, textOf, textOf_rooted h, toList_writtenPath]
  rfl

/-- Phrases are listed as their texts are. -/
theorem textOf_listed {α : Type} {items : List α} {phrase : α → List Piece} {shown : α → String}
    (h : ∀ item ∈ items, textOf (phrase item) = (shown item).toList) :
    textOf (listed (items.map phrase)) = (", ".intercalate (items.map shown)).toList := by
  induction items with
  | nil => rfl
  | cons first rest ih =>
      obtain ⟨hfirst, hrest⟩ := List.forall_mem_cons.1 h
      cases rest with
      | nil =>
          rw [List.map_singleton, List.map_singleton, String.intercalate_singleton, ← hfirst]
          simp [listed, List.intercalate]
      | cons second others =>
          rw [List.map_cons, List.map_cons, List.map_cons, List.map_cons,
            String.intercalate_cons_cons, String.toList_append, String.toList_append]
          have hlisted := ih hrest
          rw [List.map_cons, List.map_cons] at hlisted
          rw [← hlisted, listed, List.intercalate_cons_cons, textOf_append, textOf_append,
            hfirst]
          rfl

/-- The arguments of a type are written after its path. -/
theorem textOf_lifetimeArguments (count : Nat) :
    textOf (lifetimeArguments count) =
      (if count = 0 then ""
        else "<" ++ ", ".intercalate (List.replicate count "'_") ++ ">").toList := by
  cases count with
  | zero => rfl
  | succ count =>
      have hlisted : textOf (listed ((List.replicate (count + 1) "'_").map
          fun _ => [.lifetime (.plain "_" (by decide))])) =
            (", ".intercalate ((List.replicate (count + 1) "'_").map id)).toList := by
        apply textOf_listed
        intro item hitem
        rw [(List.mem_replicate.1 hitem).2]
        rfl
      rw [List.map_replicate, List.map_id] at hlisted
      rw [if_neg (Nat.succ_ne_zero count), String.toList_append, String.toList_append, ← hlisted,
        lifetimeArguments, textOf, textOf_append]
      rfl

/-- The first line that is rendered is indented and ends in a line break. -/
theorem toList_render_line (depth : Nat) {shown : String} (hne : shown.toList ≠ [])
    (rest : List Line) :
    (render (⟨depth, shown⟩ :: rest)).toList =
      (indent depth).text ++ (shown.toList ++ '\n' :: (render rest).toList) := by
  rw [toList_render_cons, Line.shown, if_neg (by rwa [List.isEmpty_iff]), List.append_assoc]
  rfl

/-- A phrase on a line is written as the line. -/
theorem textOf_line {depth : Nat} {phrase : List Piece} {shown : String}
    (h : textOf phrase = shown.toList) (hne : shown.toList ≠ []) (rest : List Line) :
    (render (⟨depth, shown⟩ :: rest)).toList =
      textOf (line depth phrase) ++ (render rest).toList := by
  rw [toList_render_line depth hne, line, textOf, textOf_append, h]
  simp [textOf, text]

end Code.Piece

/-! ## Locals as they are written -/

/-- The word `name` with an underscore, or `payload` with one, begins no keyword. -/
theorem notMem_keywords_of_prefix {field name : String} (hfield : field ∈ reservedLocals)
    (h : (field ++ "_").toList <+: name.toList) : name ∉ keywords := by
  have hkeywords : ∀ field ∈ reservedLocals, ∀ word ∈ keywords,
      ¬ (field ++ "_").toList <+: word.toList := by
    decide
  exact fun hmem => hkeywords field hfield name hmem h

/-- The local of a field can be written, and that is how the field is bound. -/
theorem isWritable_localName (fields : List String) {field : String} (h : IsWritable field) :
    IsWritable (localName fields field) ∧
      writtenName (localName fields field) = localFor fields field := by
  by_cases hreserved : field ∈ reservedLocals
  · have hlocal := localName_of_mem fields hreserved
    have hword : isWord (localName fields field).toList = true := by
      rw [localName, if_pos (List.contains_iff_mem.2 hreserved)]
      apply isWord_freeName
      rw [String.toList_append]
      exact isWord_append_underscore h.1
    have hkeyword : localName fields field ∉ keywords := by
      apply notMem_keywords_of_prefix hreserved
      rw [hlocal]
      exact isPrefix_of_searchEnds (searchEnds_localFor fields hreserved)
    exact ⟨isWritable_of_notMem_keywords hword hkeyword,
      (writtenName_of_notMem_keywords hword hkeyword).trans hlocal⟩
  · rw [localFor_of_not_reserved hreserved, localName_of_notMem fields hreserved]
    exact ⟨h, rfl⟩

/-- A reserved field is bound under another name. -/
theorem localFor_ne_writtenName (fields : List String) {field : String}
    (h : field ∈ reservedLocals) : localFor fields field ≠ writtenName field := by
  have hplain : ∀ field ∈ reservedLocals, isWord field.toList = true ∧ field ∉ keywords := by
    decide
  obtain ⟨hword, hkeyword⟩ := hplain field h
  rw [writtenName_of_notMem_keywords hword hkeyword]
  intro heq
  apply not_isTaken_of_searchEnds (searchEnds_localFor fields h)
  rw [heq]
  exact .inl h

/-! ## Arms as they are written -/

namespace Event

open Piece

variable {event : Event}

/-- The events whose names and fields can be written. -/
structure IsSpelled (event : Event) : Prop where
  /-- The name of the event can be written. -/
  name : IsWritable event.name.simple
  /-- The fields of the event can be written. -/
  fields : ∀ field ∈ event.fields, IsWritable field
  /-- The fields suit the form. -/
  suits : event.Suits

/-- A field is written in a pattern as it is bound. -/
theorem textOf_fieldPhrase (event : Event) {field : String} (h : IsWritable field) :
    textOf (event.fieldPhrase field) =
      (BoundField.pattern ⟨field, some (localFor event.fields field)⟩).toList := by
  rw [fieldPhrase, BoundField.pattern]
  dsimp only
  by_cases hreserved : field ∈ reservedLocals
  · obtain ⟨hlocal, hwritten⟩ := isWritable_localName event.fields h
    rw [if_pos (List.contains_iff_mem.2 hreserved),
      if_neg (localFor_ne_writtenName event.fields hreserved), ← hwritten, ← written_nameOf h,
      ← written_nameOf hlocal, String.toList_append, String.toList_append, List.append_assoc]
    simp [textOf, Piece.text, space]
  · rw [if_neg (by rwa [List.contains_iff_mem]),
      if_pos (localFor_of_not_reserved hreserved event.fields), ← written_nameOf h]
    simp [textOf, Piece.text]

/-- The pattern of an arm is the path of the variant and what stands behind it. -/
theorem textOf_patternPhrase (h : event.IsSpelled) (groupPath : String) :
    (event.pattern groupPath).toList =
      (groupPath ++ "::" ++ writtenName event.name.simple).toList ++
        textOf event.patternPhrase := by
  obtain ⟨name, form, fields⟩ := event
  cases form with
  | unit => exact (List.append_nil _).symm
  | newtype => cases fields <;> exact String.toList_append
  | tuple =>
      obtain rfl : fields = [] := h.suits.tuple rfl
      exact String.toList_append
  | braced =>
      cases fields with
      | nil => exact String.toList_append
      | cons first rest =>
          have hlisted := textOf_listed fun field hfield =>
            textOf_fieldPhrase ⟨name, .braced, first :: rest⟩ (h.fields field hfield)
          have hbound : (⟨name, .braced, first :: rest⟩ : Event).boundFields.map
                BoundField.pattern =
              (first :: rest).map fun field =>
                BoundField.pattern ⟨field, some (localFor (first :: rest) field)⟩ := by
            rw [boundFields, List.map_map]
            rfl
          have htext : (⟨name, .braced, first :: rest⟩ : Event).pattern groupPath =
              groupPath ++ "::" ++ writtenName name.simple ++ " \x7b " ++
                ", ".intercalate ((⟨name, .braced, first :: rest⟩ : Event).boundFields.map
                  BoundField.pattern) ++ " \x7d" := rfl
          rw [htext, hbound, String.toList_append, String.toList_append, String.toList_append,
            ← hlisted, patternPhrase]
          simp [textOf, Piece.text, textOf_append, space, Delimiter.openingSign,
            Delimiter.closingSign]

/-- The fields of an event are those that are bound. -/
theorem map_field_boundFields (event : Event) :
    event.boundFields.map BoundField.field = event.fields := by
  rw [boundFields, List.map_map]
  conv_rhs => rw [← List.map_id event.fields]
  apply List.map_congr_left
  intro field _
  cases event.form <;> rfl

/-- The value of a field is written as the field is bound. -/
theorem textOf_valuePhrase (h : event.IsSpelled) {bound : BoundField}
    (hbound : bound ∈ event.boundFields) :
    textOf (event.valuePhrase bound.field) = bound.value.toList := by
  obtain ⟨field, hmem, rfl⟩ := List.mem_map.1 hbound
  have hfield := h.fields field hmem
  obtain ⟨hlocal, hwritten⟩ := isWritable_localName event.fields hfield
  obtain ⟨name, form, fields⟩ := event
  have htarget : textOf [.word (nameOf (localName fields field))] =
      (localFor fields field).toList := by
    rw [← hwritten, ← written_nameOf hlocal]
    simp [textOf, Piece.text]
  cases form with
  | newtype =>
      change textOf [_, _, _, _] = ("&event." ++ writtenName field).toList
      rw [String.toList_append, ← written_nameOf hfield]
      simp [textOf, Piece.text]
  | unit => exact htarget
  | braced => exact htarget
  | tuple => exact htarget

/-- The entry of a field is written as the field is bound. -/
theorem textOf_entryPhrase (h : event.IsSpelled) {bound : BoundField}
    (hbound : bound ∈ event.boundFields) :
    textOf (event.entryPhrase bound.field) = (bound.entry "::auto_analytics").toList := by
  rw [BoundField.entry]
  simp only [String.toList_append, ← textOf_valuePhrase h hbound]
  simp [entryPhrase, pairPhrase, textOf, Piece.text, runtime, rooted, space, Delimiter.openingSign,
    Delimiter.closingSign]

/-- The entries of the fields are written on lines of their own. -/
theorem textOf_entryLines (h : event.IsSpelled) {bounds : List BoundField}
    (hbounds : ∀ bound ∈ bounds, bound ∈ event.boundFields) (rest : List Line) :
    (render ((bounds.map fun bound => ⟨4, bound.entry "::auto_analytics"⟩) ++ rest)).toList =
      textOf ((bounds.map BoundField.field).flatMap fun field =>
        line 4 (event.entryPhrase field)) ++ (render rest).toList := by
  induction bounds with
  | nil => rfl
  | cons bound more ih =>
      obtain ⟨hbound, hmore⟩ := List.forall_mem_cons.1 hbounds
      have hne : (bound.entry "::auto_analytics").toList ≠ [] := by simp [BoundField.entry]
      rw [List.map_cons, List.cons_append, textOf_line (textOf_entryPhrase h hbound) hne,
        ih hmore, List.map_cons, List.flatMap_cons, textOf_append, List.append_assoc]

/-- The assignments of an arm are written on their lines. -/
theorem textOf_assignments (h : event.IsSpelled) (rest : List Line) :
    (render (⟨3, "name = " ++ quote event.eventName ++ ";"⟩ ::
        nested (nested (nested (event.payloadLines "::auto_analytics"))) ++ rest)).toList =
      textOf event.assignments ++ (render rest).toList := by
  have hname : textOf [plain "name" (by decide), space, .mark '=' false, space,
      .quoted event.eventName, .mark ';' false] =
        ("name = " ++ quote event.eventName ++ ";").toList := by
    simp [textOf, Piece.text, space]
  rw [List.cons_append, textOf_line hname (by simp), assignments, textOf_append,
    List.append_assoc, List.append_cancel_left_eq]
  cases hfields : event.boundFields with
  | nil =>
      have hnone : event.fields = [] := by rw [← map_field_boundFields, hfields]; rfl
      have hpayload : textOf ([plain "payload" (by decide), space, .mark '=' false, space] ++
          event.payloadPhrase ++ [.mark ';' false]) =
            "payload = ::auto_analytics::Payload::new();".toList := by
        rw [payloadPhrase, hnone]
        rfl
      rw [payloadLines, hfields]
      exact textOf_line hpayload (by decide) rest
  | cons first more =>
      have hsome : event.fields = (first :: more).map BoundField.field := by
        rw [← map_field_boundFields, hfields]
      have hlines : nested (nested (nested (event.payloadLines "::auto_analytics"))) ++ rest =
          ⟨3, "payload = ::auto_analytics::Payload::from(["⟩ ::
            (((first :: more).map fun bound => ⟨4, bound.entry "::auto_analytics"⟩) ++
              ⟨3, "]);"⟩ :: rest) := by
        rw [payloadLines, hfields]
        simp [nested, outermost]
      rw [hlines, toList_render_line 3 (by decide),
        textOf_entryLines h (fun bound hbound => hfields ▸ hbound),
        toList_render_line 3 (by decide), payloadPhrase, hsome]
      simp [line, textOf, Piece.text, textOf_append, runtime, rooted, space,
        Delimiter.openingSign, Delimiter.closingSign]

/-- The arm of an event is written on its lines. -/
theorem textOf_armPhrase (h : event.IsSpelled) {names : List String}
    (hnames : ∀ name ∈ names, IsWritable name) (rest : List Line) :
    (render (nested (nested (event.arm (writtenPath ⟨"crate" :: names⟩) "::auto_analytics")) ++
        rest)).toList =
      textOf (event.armPhrase (names.map nameOf)) ++ (render rest).toList := by
  have hpath := textOf_path (List.forall_mem_append.2 ⟨hnames, List.forall_mem_singleton.2 h.name⟩)
  have hvariant : (writtenPath ⟨"crate" :: (names ++ [event.name.simple])⟩).toList =
      (writtenPath ⟨"crate" :: names⟩ ++ "::" ++ writtenName event.name.simple).toList := by
    simp [toList_writtenPath]
  have hpattern := textOf_patternPhrase h (writtenPath ⟨"crate" :: names⟩)
  rw [← hvariant, ← hpath, List.map_append, List.map_singleton] at hpattern
  have hlines : nested (nested (event.arm (writtenPath ⟨"crate" :: names⟩) "::auto_analytics")) ++
        rest =
      ⟨2, event.pattern (writtenPath ⟨"crate" :: names⟩) ++ " => \x7b"⟩ ::
        (⟨3, "name = " ++ quote event.eventName ++ ";"⟩ ::
            nested (nested (nested (event.payloadLines "::auto_analytics"))) ++
          ⟨2, "\x7d"⟩ :: rest) := by
    have hhead : event.pattern (writtenPath ⟨"crate" :: names⟩) ++ " =>" ++ " \x7b" =
        event.pattern (writtenPath ⟨"crate" :: names⟩) ++ " => \x7b" := by
      rw [String.append_assoc]
      rfl
    rw [arm, block, hhead]
    simp [nested, outermost]
  rw [hlines, toList_render_line 2 (by simp), textOf_assignments h,
    toList_render_line 2 (by decide), String.toList_append, hpattern]
  simp [armPhrase, textOf, Piece.text, textOf_append, space, Delimiter.openingSign,
    Delimiter.closingSign]

end Event

/-! ## Artifacts as they are written -/

namespace EventGroup

open Piece

variable {group : EventGroup}

/-- The groups whose names can be written: they are named below the crate, and so are their events
and what these hold. -/
structure IsSpelled (group : EventGroup) : Prop where
  /-- The group is named below the crate. -/
  segments : group.name.segments = "crate" :: group.name.segments.tail
  /-- It is not named by the crate alone. -/
  below : group.name.segments.tail ≠ []
  /-- The names on the way to the group can be written. -/
  names : ∀ name ∈ group.name.segments.tail, IsWritable name
  /-- The events of the group can be written. -/
  events : ∀ event ∈ group.registry.events, event.IsSpelled
  /-- The members that are left out have words for names. -/
  excluded : ∀ name ∈ group.excluded, isWord name.simple.toList = true

/-- The path of a group is written as it is. -/
theorem textOf_pathNames (h : group.IsSpelled) :
    textOf (Piece.path group.pathNames) = (writtenPath group.name).toList := by
  obtain ⟨⟨segments⟩, lifetimes, location, registry, excluded⟩ := group
  have hsegments : segments = "crate" :: segments.tail := h.segments
  rw [pathNames, textOf_path h.names]
  dsimp only
  rw [← hsegments]

/-- The arms of a group are written on their lines. -/
theorem textOf_arms (h : group.IsSpelled) {events : List Event}
    (hevents : ∀ event ∈ events, event.IsSpelled) (rest : List Line) :
    (render (nested (nested (events.flatMap
        (·.arm (writtenPath group.name) "::auto_analytics"))) ++ rest)).toList =
      textOf (events.flatMap (·.armPhrase group.pathNames)) ++ (render rest).toList := by
  induction events with
  | nil => rfl
  | cons event more ih =>
      obtain ⟨hevent, hmore⟩ := List.forall_mem_cons.1 hevents
      have hpath : writtenPath group.name = writtenPath ⟨"crate" :: group.name.segments.tail⟩ := by
        rw [← h.segments]
      rw [List.flatMap_cons, nested_append, nested_append, List.append_assoc, List.flatMap_cons,
        textOf_append, List.append_assoc, ← ih hmore, pathNames, hpath]
      exact Event.textOf_armPhrase hevent h.names _

/-- The body of the function is written on its lines. -/
theorem textOf_bodyPhrase (h : group.IsSpelled) (rest : List Line) :
    (render (nested (group.bodyLines "::auto_analytics") ++ rest)).toList =
      textOf group.bodyPhrase ++ (render rest).toList := by
  have hlines : nested (group.bodyLines "::auto_analytics") ++ rest =
      ⟨1, "let name: &'static str;"⟩ :: ⟨1, "let payload: ::auto_analytics::Payload;"⟩ ::
        ⟨1, "match event \x7b"⟩ ::
          (nested (nested (group.registry.events.flatMap
              (·.arm (writtenPath group.name) "::auto_analytics"))) ++
            ⟨1, "\x7d"⟩ :: ⟨1, "tracker.track(name, payload);"⟩ :: rest) := by
    simp [bodyLines, arms, block, nested, outermost]
  rw [hlines, toList_render_line 1 (by decide), toList_render_line 1 (by decide),
    toList_render_line 1 (by decide), textOf_arms h h.events, toList_render_line 1 (by decide),
    toList_render_line 1 (by decide)]
  simp [bodyPhrase, bodyStatements, matchPhrase, line, textOf, Piece.text, textOf_append, runtime,
    rooted, space, Delimiter.openingSign, Delimiter.closingSign]

/-- The comments of an artifact are written on their lines. -/
theorem textOf_commentPhrase (group : EventGroup) (rest : List Line) :
    (render (group.commentLines ++ rest)).toList =
      textOf group.commentPhrase ++ (render rest).toList := by
  rw [commentLines, commentPhrase]
  cases group.excluded with
  | nil =>
      rw [List.map_nil, List.isEmpty_nil, if_pos rfl, List.cons_append, outermost,
        toList_render_line 0 (by simp)]
      simp [line, textOf, Piece.text]
  | cons first more =>
      rw [List.map_cons, List.isEmpty_cons, if_neg (by decide), List.cons_append,
        List.singleton_append, outermost, outermost, toList_render_line 0 (by simp),
        toList_render_line 0 (by simp)]
      simp [line, textOf, Piece.text]

/-- The type of a group is written as it is. -/
theorem textOf_type (h : group.IsSpelled) :
    textOf (Piece.path group.pathNames ++ lifetimeArguments group.lifetimes) =
      group.typeText.toList := by
  rw [textOf_append, textOf_pathNames h, textOf_lifetimeArguments, typeText]
  split
  · exact List.append_nil _
  · simp only [String.toList_append, List.append_assoc]

/-- The name of the function is written as it is. -/
theorem written_trackingFunction (h : group.IsSpelled) :
    (nameOf (trackingFunction group.name)).written = trackingFunction group.name := by
  have hsimple : isWord group.name.simple.toList = true := by
    have hlast : group.name.segments.getLast? = group.name.segments.tail.getLast? := by
      conv_lhs => rw [h.segments]
      exact List.getLast?_cons_of_ne_nil h.below
    rw [QualifiedName.simple, hlast, List.getLast?_eq_some_getLast h.below, Option.getD_some]
    exact (h.names _ (List.getLast_mem h.below)).1
  have hword : isWord (trackingFunction group.name).toList = true :=
    isWord_append_snakeCase (by decide) hsimple
  have hkeyword : trackingFunction group.name ∉ keywords := by
    have hkeywords : ∀ word ∈ keywords, ¬ "track_".toList <+: word.toList := by decide
    intro hmem
    apply hkeywords _ hmem
    rw [trackingFunction, String.toList_append]
    exact List.prefix_append _ _
  rw [written_nameOf (isWritable_of_notMem_keywords hword hkeyword),
    writtenName_of_notMem_keywords hword hkeyword]

/-- The description of the function is written on its lines. -/
theorem textOf_attributePhrase (group : EventGroup) (rest : List Line) :
    (render ((group.signatureLines "::auto_analytics").take 4 ++ rest)).toList =
      textOf group.attributePhrase ++ (render rest).toList := by
  have hdescription : textOf [.documentation (" Converts `" ++ group.name.display ++
      "` to a name and payload and delegates it to `AutoAnalytics::track`.")] =
        ("/// Converts `" ++ group.name.display ++
          "` to a name and payload and delegates it to `AutoAnalytics::track`.").toList := by
    simp [textOf, Piece.text]
  simp only [signatureLines, List.take_succ_cons, List.take_zero, List.cons_append,
    List.nil_append, outermost]
  have hempty : textOf [.documentation ""] = "///".toList := rfl
  have hedit : textOf [.documentation " This is a generated function. Do not edit."] =
      "/// This is a generated function. Do not edit.".toList := rfl
  have hallow : textOf [.mark '#' false, .group .bracket [plain "allow" (by decide),
      .group .parenthesis [plain "clippy" (by decide), .mark ':' true, .mark ':' false,
        plain "needless_late_init" (by decide)]]] =
        "#[allow(clippy::needless_late_init)]".toList := rfl
  rw [textOf_line hdescription (by simp), textOf_line hempty (by decide),
    textOf_line hedit (by decide), textOf_line hallow (by decide), attributePhrase, textOf_append,
    textOf_append, textOf_append]
  simp only [List.append_assoc]

/-- The signature is written on its lines. -/
theorem textOf_signaturePhrase (h : group.IsSpelled) (rest : List Line) :
    (render ((group.signatureLines "::auto_analytics").drop 4 ++ rest)).toList =
      textOf group.signaturePhrase ++ (render rest).toList := by
  have htype := textOf_type h
  rw [textOf_append] at htype
  simp only [signatureLines, List.drop_succ_cons, List.drop_zero, List.cons_append,
    List.nil_append, outermost]
  rw [toList_render_line 0 (by simp), toList_render_line 0 (by decide),
    toList_render_line 1 (by simp)]
  simp only [String.toList_append, ← htype]
  simp [signaturePhrase, parameters, conditionLines, line, textOf, Piece.text, textOf_append,
    written_trackingFunction h, runtime, rooted, space, Delimiter.openingSign,
    Delimiter.closingSign]

/-- An artifact is written as its pieces are. -/
theorem textOf_phrase (h : group.IsSpelled) :
    (group.artifact defaultRuntime).contents.toList = textOf group.phrase := by
  have hlines : group.lines "::auto_analytics" =
      group.commentLines ++ ⟨0, ""⟩ :: ((group.signatureLines "::auto_analytics").take 4 ++
        ((group.signatureLines "::auto_analytics").drop 4 ++
          ⟨0, "\x7b"⟩ :: (nested (group.bodyLines "::auto_analytics") ++ [⟨0, "\x7d"⟩]))) := by
    rw [← List.append_assoc (List.take 4 _), List.take_append_drop]
    simp [lines, outermost]
  rw [artifact]
  dsimp only
  rw [show runtimeText defaultRuntime = "::auto_analytics" by decide, hlines,
    textOf_commentPhrase, toList_render_cons, textOf_attributePhrase, textOf_signaturePhrase h,
    toList_render_line 0 (by decide), textOf_bodyPhrase h, toList_render_line 0 (by decide)]
  simp [phrase, functionPhrase, line, textOf, Piece.text, textOf_append, Line.shown, render,
    Delimiter.openingSign, Delimiter.closingSign]

end EventGroup

end EventTracking
