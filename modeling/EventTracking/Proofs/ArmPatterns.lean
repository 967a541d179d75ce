import EventTracking.Proofs.ParsedSources
import EventTracking.Proofs.PayloadKeys
import EventTracking.Proofs.VariantCoverage
import EventTracking.Proofs.WrittenBack

/-!
# Patterns of arms

The pattern of an arm is the path of a variant with what stands behind it: nothing, fields in braces,
or a value in parentheses. All of this is text, and a name in it means what it is read as. A name
that can be written is read as itself again; a blank field is not, and neither is a path through a
module whose name is no word.

Main statements: what is read as a name can be written (`ReadsAs.isWritable`), so a qualified name
has a path in code exactly if it can be written as one (`exists_isWrittenAs_iff`), the pattern of an
event's arm is one of the six kinds (`pattern_eq_text_ofEvent`), and a field in it binds the local of
that field (`binds_ofField`).
-/

namespace EventTracking

open Code Text Line

/-! ## Names that are read -/

/-- A text in code is read as a name, and the name is that word. -/
def Code.ReadsAs (text name : String) : Prop :=
  ∃ identifier, Identifier.read? text = some identifier ∧ identifier.text = name

namespace Code.ReadsAs

variable {text name : String}

/-- What is read as a name can be written. -/
theorem isWritable (h : ReadsAs text name) : IsWritable name := by
  obtain ⟨identifier, hread, rfl⟩ := h
  unfold Identifier.read? at hread
  split at hread
  · split at hread
    · rename_i hname
      obtain rfl := Option.some.inj hread
      exact Grammar.isWritable_text hname
    · cases hread
  · cases hread

/-- Nothing is read as a blank. -/
theorem ne_blank (h : ReadsAs text name) : name ≠ "_" := by
  rintro rfl
  exact h.isWritable.2 (by decide)

/-- A text is read as one name at most. -/
theorem unique {other : String} (h : ReadsAs text name) (ho : ReadsAs text other) :
    name = other := by
  obtain ⟨identifier, hread, rfl⟩ := h
  obtain ⟨same, hsame, rfl⟩ := ho
  rw [Option.some.inj (hread.symm.trans hsame)]

/-- What is written for a name that can be written is read as that name. -/
theorem of_isWritable (h : IsWritable name) : ReadsAs (writtenName name) name := by
  have htext : (nameOf name).text = name := by rw [nameOf, dif_pos h]
  have hback : (nameOf name).IsWrittenBack := by
    apply Identifier.isWrittenBack_of_isWritable
    rw [htext]
    exact h
  rw [Identifier.IsWrittenBack, htext] at hback
  exact hback

/-- What is written for the local of a field is read as the name of that local. -/
theorem of_localFor (fields : List String) {field : String} (h : IsWritable field) :
    ReadsAs (localFor fields field) (localName fields field) := by
  obtain ⟨hlocal, hwritten⟩ := isWritable_localName fields h
  rw [← hwritten]
  exact of_isWritable hlocal

end Code.ReadsAs

/-! ## Paths that are read -/

/-- The pieces of a path in code are read as the segments of a qualified name. The first piece may be
the word `crate`, which stands for itself. -/
inductive Code.PathReadsAs : (pieces segments : List String) → Prop where
  /-- All pieces are names. -/
  | names {pieces segments : List String} (read : List.Forall₂ ReadsAs pieces segments) :
      PathReadsAs pieces segments
  /-- The path begins at the crate. -/
  | crate {pieces segments : List String} (read : List.Forall₂ ReadsAs pieces segments) :
      PathReadsAs ("crate" :: pieces) ("crate" :: segments)

namespace QualifiedName

/-- A text is a path in code that is read as the qualified name. -/
def IsWrittenAs (name : QualifiedName) (text : String) : Prop :=
  ∃ pieces, text = "::".intercalate pieces ∧ PathReadsAs pieces name.segments

/-- A qualified name can be written as a path: its segments are names that can be written, but for a
leading `crate`. -/
structure CanBeWritten (name : QualifiedName) : Prop where
  /-- The first segment is `crate` or can be written. -/
  first : ∀ segment ∈ name.segments.head?, segment = "crate" ∨ IsWritable segment
  /-- The other segments can be written. -/
  others : ∀ segment ∈ name.segments.tail, IsWritable segment

variable {name place : QualifiedName} {names : List String}

/-- Segments that can be written do not matter behind others. -/
theorem canBeWritten_iff_of_append (hsegments : name.segments = place.segments ++ names)
    (h : ∀ segment ∈ names, IsWritable segment) : name.CanBeWritten ↔ place.CanBeWritten := by
  obtain ⟨segments⟩ := name
  obtain ⟨front⟩ := place
  obtain rfl : segments = front ++ names := hsegments
  -- only the first segment of a name may be `crate`, and it belongs to `place` if that has any
  cases front with
  | nil =>
      constructor
      · exact fun _ => ⟨nofun, List.forall_mem_nil _⟩
      · exact fun _ => ⟨fun segment hsegment => .inr (h segment (List.mem_of_mem_head? hsegment)),
          fun segment hsegment => h segment (List.mem_of_mem_tail hsegment)⟩
  | cons first rest =>
      constructor
      · rintro ⟨hfirst, hothers⟩
        exact ⟨hfirst, (List.forall_mem_append.1 hothers).1⟩
      · rintro ⟨hfirst, hothers⟩
        exact ⟨hfirst, List.forall_mem_append.2 ⟨hothers, h⟩⟩

/-- Names that can be written are read as themselves. -/
theorem forall₂_readsAs (h : ∀ segment ∈ names, IsWritable segment) :
    List.Forall₂ ReadsAs (names.map writtenName) names := by
  rw [List.forall₂_map_left_iff, List.forall₂_same]
  exact fun segment hsegment => .of_isWritable (h segment hsegment)

/-- A name that can be written is read from the path that is written for it. -/
theorem isWrittenAs_writtenPath (h : name.CanBeWritten) : name.IsWrittenAs (writtenPath name) := by
  obtain ⟨segments⟩ := name
  refine ⟨_, rfl, ?_⟩
  cases segments with
  | nil => exact .names .nil
  | cons first rest =>
      by_cases hcrate : first = "crate"
      · subst hcrate
        exact .crate (forall₂_readsAs h.others)
      · have hfirst := (h.first first rfl).resolve_left hcrate
        simp only [if_neg hcrate]
        exact .names (.cons (.of_isWritable hfirst) (forall₂_readsAs h.others))

/-- A name that is read from a path can be written. -/
theorem canBeWritten_of_isWrittenAs {text : String} (h : name.IsWrittenAs text) :
    name.CanBeWritten := by
  obtain ⟨pieces, -, hpieces⟩ := h
  have hall {pieces segments : List String} (hread : List.Forall₂ ReadsAs pieces segments) :
      ∀ segment ∈ segments, IsWritable segment := by
    have hwritable := hread.flip.imp fun _ _ hone => And.intro (ReadsAs.isWritable hone) hone
    exact ((List.forall₂_and_left _ _).1 hwritable).1
  -- a piece `crate` makes a first segment that need not be writable
  generalize hsegments : name.segments = segments at hpieces
  constructor
  · rw [hsegments]
    cases hpieces with
    | names hread =>
        exact fun segment hsegment => .inr (hall hread segment (List.mem_of_mem_head? hsegment))
    | crate => exact fun segment hsegment => .inl (Option.some.inj hsegment).symm
  · rw [hsegments]
    cases hpieces with
    | names hread =>
        exact fun segment hsegment => hall hread segment (List.mem_of_mem_tail hsegment)
    | crate hread => exact hall hread

/-- A qualified name has a path in code exactly if it can be written as one. -/
theorem exists_isWrittenAs_iff : (∃ text, name.IsWrittenAs text) ↔ name.CanBeWritten :=
  ⟨fun ⟨_, h⟩ => canBeWritten_of_isWrittenAs h, fun h => ⟨_, isWrittenAs_writtenPath h⟩⟩

/-- The path of what lies directly below a name goes on from the path of the name. -/
theorem writtenPath_child (h : name.segments ≠ []) (segment : String) :
    writtenPath (name.child segment) = writtenPath name ++ "::" ++ writtenName segment := by
  obtain ⟨segments⟩ := name
  obtain ⟨first, rest, rfl⟩ := List.exists_cons_of_ne_nil h
  have hpieces (start : String) : "::".intercalate (start :: (rest ++ [segment]).map writtenName) =
      "::".intercalate (start :: rest.map writtenName) ++ "::" ++ writtenName segment := by
    rw [List.map_append, ← List.cons_append, List.map_singleton,
      String.intercalate_append_of_ne_nil (List.cons_ne_nil _ _) (List.cons_ne_nil _ _),
      String.intercalate_singleton]
  exact hpieces _

end QualifiedName

/-! ## Fields in patterns -/

/-- A field in a pattern with braces, as it is written. -/
inductive FieldPattern where
  /-- The field alone, which binds a local of its name. -/
  | shorthand (field : String)
  /-- The field with another word that it is bound to. -/
  | renamed (field word : String)

namespace FieldPattern

/-- What names the field. -/
def field : FieldPattern → String
  | shorthand field => field
  | renamed field _ => field

/-- What names the local that is bound. -/
def target : FieldPattern → String
  | shorthand field => field
  | renamed _ word => word

/-- The pattern as code. -/
def text : FieldPattern → String
  | shorthand field => field
  | renamed field word => field ++ ": " ++ word

/-- The pattern binds the local of that name to the field of that name. -/
def Binds (part : FieldPattern) (field word : String) : Prop :=
  ReadsAs part.field field ∧ ReadsAs part.target word

/-- The pattern of a field, given all fields of the variant. -/
def ofField (fields : List String) (field : String) : FieldPattern :=
  if localFor fields field = writtenName field then shorthand (writtenName field)
  else renamed (writtenName field) (localFor fields field)

/-- The pattern of a field is written as a bound field is. -/
theorem text_ofField (fields : List String) (field : String) :
    (ofField fields field).text = BoundField.pattern ⟨field, some (localFor fields field)⟩ := by
  rw [ofField, BoundField.pattern]
  by_cases h : localFor fields field = writtenName field
  · rw [if_pos h]
    exact (if_pos h).symm
  · rw [if_neg h]
    exact (if_neg h).symm

/-- The pattern of a field binds the local of that field. -/
theorem binds_ofField (fields : List String) {field : String} (h : IsWritable field) :
    (ofField fields field).Binds field (localName fields field) := by
  have hfield := ReadsAs.of_isWritable h
  have hlocal := ReadsAs.of_localFor fields h
  unfold ofField
  split
  · rename_i hsame
    exact ⟨hfield, hsame ▸ hlocal⟩
  · exact ⟨hfield, hlocal⟩

end FieldPattern

/-! ## Whole patterns -/

/-- The pattern of an arm behind the path of its variant. -/
inductive ArmPattern where
  /-- Nothing. -/
  | bare
  /-- Fields in braces. -/
  | braces (parts : List FieldPattern)
  /-- Braces around no field. -/
  | emptyBraces
  /-- The wrapped value, bound to `event`. -/
  | wrapped
  /-- The wrapped value, which is not bound. -/
  | ignored
  /-- Parentheses around no field. -/
  | emptyParentheses

namespace ArmPattern

/-- The pattern as code, `path` being the path of the variant. -/
def text (path : String) : ArmPattern → String
  | bare => path
  | braces parts =>
    path ++ " \x7b " ++ ", ".intercalate (parts.map FieldPattern.text) ++ " \x7d"
  | emptyBraces => path ++ " \x7b .. \x7d"
  | wrapped => path ++ "(event)"
  | ignored => path ++ "(_)"
  | emptyParentheses => path ++ "(..)"

/-- A pattern begins with the path of its variant. -/
theorem exists_text_eq_append (path : String) (pattern : ArmPattern) :
    ∃ rest, pattern.text path = path ++ rest := by
  cases pattern with
  | bare => exact ⟨"", String.append_empty.symm⟩
  | braces parts => exact ⟨_, by rw [text, String.append_assoc, String.append_assoc]⟩
  | emptyBraces => exact ⟨_, rfl⟩
  | wrapped => exact ⟨_, rfl⟩
  | ignored => exact ⟨_, rfl⟩
  | emptyParentheses => exact ⟨_, rfl⟩

/-- The pattern of an event's arm. A form that takes no fields has the pattern without fields,
whatever the fields are. -/
def ofEvent (event : Event) : ArmPattern :=
  match event.form, event.fields with
  | .unit, _ => bare
  | .braced, [] => emptyBraces
  | .braced, first :: rest => braces ((first :: rest).map (FieldPattern.ofField event.fields))
  | .newtype, [] => ignored
  | .newtype, _ :: _ => wrapped
  | .tuple, _ => emptyParentheses

end ArmPattern

/-- The pattern of an event is written as the pattern of its arm. -/
theorem Event.pattern_eq_text_ofEvent {event : Event} (hsuits : event.Suits) (groupPath : String) :
    event.pattern groupPath =
      (ArmPattern.ofEvent event).text (groupPath ++ "::" ++ writtenName event.name.simple) := by
  obtain ⟨name, form, fields⟩ := event
  cases form with
  | unit => rfl
  | braced =>
      cases fields with
      | nil => rfl
      | cons first rest =>
          have hparts : ((first :: rest).map (FieldPattern.ofField (first :: rest))).map
              FieldPattern.text =
                (boundFields ⟨name, .braced, first :: rest⟩).map BoundField.pattern := by
            rw [boundFields, List.map_map, List.map_map]
            refine List.map_congr_left ?_
            intro field _
            exact FieldPattern.text_ofField _ field
          rw [ArmPattern.ofEvent, ArmPattern.text, hparts]
          rfl
  | newtype => cases fields <;> rfl
  | tuple =>
      obtain rfl : fields = [] := hsuits.tuple rfl
      rfl

/-! ## Bodies of arms -/

/-- The lines of an arm that set the name of its event, and its payload to a literal with an entry
for each key. -/
def Event.settingLines (event : Event) (runtime : String) (values : List String) : List Line :=
  outermost ("name = " ++ quote event.eventName ++ ";") ::
    literalLines runtime (event.keys.zip values)

/-- The arm of an event sets its name and its payload and does nothing else. -/
theorem Event.body_patternArm (event : Event) (groupPath runtime : String) :
    (event.patternArm groupPath runtime).body =
      event.settingLines runtime event.expressions := by
  rw [patternArm, payloadLines_eq_literalLines, settingLines]

end EventTracking
