import EventTracking.Proofs.ReadNames

/-!
# Names that are written back

A name loses its raw marker when it is read and gets one when it is written, if it needs one. It is
written back if the text that is written for it is read as a name again, and as the same one. The
words that may not stand as names by themselves all have a raw form, but for five of them.

Whatever is read where a name is expected is none of these five. There is one place where something
else than a name may be read: a field in braces may be the word `_`, which is not written back.

Main statements: an identifier is written back exactly if its word has a raw form
(`isWrittenBack_iff`), and so is everything that a source declares except for blank fields
(`names_written_back`).
-/

namespace EventTracking.Code

open Text

/-! ## Reading a name -/

namespace Identifier

/-- Reads a text that consists of one name. -/
def read? (text : String) : Option Identifier :=
  match Token.ofChars text.toList with
  | .ok [.word identifier _] => if identifier.isName then some identifier else none
  | _ => none

/-- A name is read from what is written for it. -/
theorem read?_written {identifier : Identifier} (h : identifier.isName = true) :
    read? identifier.written = some identifier := by
  rw [read?, ofChars_written]
  exact if_pos h

/-- What is written for the word of an identifier is read as a name with the same word. -/
def IsWrittenBack (identifier : Identifier) : Prop :=
  ∃ again, read? (writtenName identifier.text) = some again ∧ again.text = identifier.text

/-- A name that can be written is written back. -/
theorem isWrittenBack_of_isWritable {identifier : Identifier} (h : IsWritable identifier.text) :
    identifier.IsWrittenBack := by
  have htext : (nameOf identifier.text).text = identifier.text := by rw [nameOf, dif_pos h]
  refine ⟨nameOf identifier.text, ?_, htext⟩
  rw [← written_nameOf h]
  exact read?_written (isName_nameOf _)

/-- The words without a raw form are keywords, and with the raw marker they make no sense. -/
theorem not_isWrittenBack_of_mem {identifier : Identifier} (h : identifier.text ∈ withoutRawForm) :
    ¬ identifier.IsWrittenBack := by
  have hnone : ∀ word ∈ withoutRawForm, read? (writtenName word) = none := by decide +kernel
  rintro ⟨again, hread, -⟩
  rw [hnone _ h] at hread
  cases hread

/-- An identifier is written back exactly if its word has a raw form. -/
theorem isWrittenBack_iff (identifier : Identifier) :
    identifier.IsWrittenBack ↔ identifier.text ∉ withoutRawForm := by
  constructor
  · intro hback hmem
    exact not_isWrittenBack_of_mem hmem hback
  · intro hraw
    exact isWrittenBack_of_isWritable ⟨identifier.isWord_text, hraw⟩

end Identifier

/-! ## Names that are declared -/

/-- The names of fields in braces, in order. -/
def Fields.names : Fields → List Identifier
  | .named names => names
  | _ => []

/-- The fields that are spelled can be written, blanks apart. -/
theorem Fields.IsSpelled.isWritable {fields : Fields} (h : fields.IsSpelled) :
    ∀ name ∈ fields.names, name.text = "_" ∨ IsWritable name.text := by
  cases fields with
  | named names => exact h names rfl
  | positional types => exact List.forall_mem_nil _
  | none => exact List.forall_mem_nil _

namespace Item

/-- What an item declares, fields apart: an enum itself and its variants, or a module. -/
def names : Item → List Identifier
  | .enum _ name _ variants => name :: variants.map Variant.name
  | .module _ name _ => [name]
  | _ => []

/-- The fields that an item declares, in order. -/
def fieldNames : Item → List Identifier
  | .enum _ _ _ variants => variants.flatMap fun variant => variant.fields.names
  | .struct _ _ fields => fields.names
  | _ => []

/-- What a spelled item declares can be written, blank fields apart. -/
theorem Spells.isWritable {item : Item} (h : item.Spells) :
    (∀ name ∈ item.names, IsWritable name.text) ∧
      ∀ name ∈ item.fieldNames, name.text = "_" ∨ IsWritable name.text := by
  cases item with
  | enum attributes name generics variants =>
      obtain ⟨hname, hvariants⟩ := h
      constructor
      · intro declared hdeclared
        rcases List.mem_cons.1 hdeclared with rfl | hvariant
        · exact hname
        · obtain ⟨variant, hmem, rfl⟩ := List.mem_map.1 hvariant
          exact (hvariants variant hmem).1
      · intro field hfield
        obtain ⟨variant, hmem, hnamed⟩ := List.mem_flatMap.1 hfield
        exact (hvariants variant hmem).2.isWritable field hnamed
  | struct attributes name fields => exact ⟨List.forall_mem_nil _, Fields.IsSpelled.isWritable h⟩
  | module attributes name items =>
      exact ⟨List.forall_mem_singleton.2 h, List.forall_mem_nil _⟩
  | use => exact ⟨List.forall_mem_nil _, List.forall_mem_nil _⟩
  | named => exact ⟨List.forall_mem_nil _, List.forall_mem_nil _⟩
  | unnamed => exact ⟨List.forall_mem_nil _, List.forall_mem_nil _⟩
  | unread => exact ⟨List.forall_mem_nil _, List.forall_mem_nil _⟩

end Item

/-- An identifier is written back exactly if its word has a raw form, so it is whenever it stands
where a name is expected. Different words are written differently. So every enum, variant and inline
module that a source declares, at any depth, is written back, and so is every field but those that
are blank. -/
theorem names_written_back (identifier other : Identifier) (source : String) :
    (identifier.IsWrittenBack ↔ identifier.text ∉ withoutRawForm) ∧
    (identifier.isName = true → identifier.IsWrittenBack) ∧
    (identifier.text ≠ other.text → writtenName identifier.text ≠ writtenName other.text) ∧
    ∀ outline, Outline.ofSource source = .ok outline →
      ∀ placed ∈ Item.placedAll .root outline.items,
        (∀ name ∈ placed.item.names, name.IsWrittenBack) ∧
        ∀ name ∈ placed.item.fieldNames, name.IsWrittenBack ↔ name.text ≠ "_" := by
  refine ⟨identifier.isWrittenBack_iff, ?_, ?_, ?_⟩
  · intro hname
    exact Identifier.isWrittenBack_of_isWritable (Grammar.isWritable_text hname)
  · intro hne heq
    exact hne (writtenName_injective identifier.isWord_text other.isWord_text heq)
  · intro outline hread placed hplaced
    have hspelled := Item.isSpelled_of_mem_placedAll (Outline.isSpelled_of_ofSource hread) hplaced
    obtain ⟨hnames, hfields⟩ := Item.Spells.isWritable hspelled.item
    constructor
    · intro name hname
      exact Identifier.isWrittenBack_of_isWritable (hnames name hname)
    · intro name hname
      constructor
      · -- the blank is one of the words without a raw form
        intro hback hblank
        rw [Identifier.isWrittenBack_iff, hblank] at hback
        exact hback (by decide)
      · intro hne
        exact Identifier.isWrittenBack_of_isWritable ((hfields name hname).resolve_left hne)

/-- A source whose names are all keywords. -/
def keywordSource : String := "mod r#type \x7b enum r#match \x7b r#in \x7b r#fn: u32 \x7d \x7d \x7d"

/-- All of these names are written back, the first one as an identifier of its own. -/
theorem keywords_written_back :
    (nameOf "type").IsWrittenBack ∧ writtenName "type" ≠ writtenName "doc" ∧
    ∃ outline, Outline.ofSource keywordSource = .ok outline ∧
      ((Item.placedAll .root outline.items).flatMap fun placed =>
        (placed.item.names ++ placed.item.fieldNames).map Identifier.text) =
          ["type", "match", "in", "fn"] ∧
      ∀ placed ∈ Item.placedAll .root outline.items,
        ∀ name ∈ placed.item.names ++ placed.item.fieldNames, name.IsWrittenBack := by
  have htexts : ((Outline.ofSource keywordSource).toOption.map fun outline =>
      (Item.placedAll .root outline.items).flatMap fun placed =>
        (placed.item.names ++ placed.item.fieldNames).map Identifier.text) =
          some ["type", "match", "in", "fn"] := by
    decide +kernel
  obtain ⟨-, hraw, hdifferent, hsource⟩ :=
    names_written_back (nameOf "type") Token.docWord keywordSource
  refine ⟨hraw (isName_nameOf "type"), hdifferent (by decide), ?_⟩
  cases hread : Outline.ofSource keywordSource with
  | error fault =>
      rw [hread] at htexts
      cases htexts
  | ok outline =>
      rw [hread] at htexts
      have hlisted := Option.some.inj htexts
      refine ⟨outline, rfl, hlisted, ?_⟩
      intro placed hplaced name hname
      obtain ⟨hnames, hfields⟩ := hsource outline hread placed hplaced
      rcases List.mem_append.1 hname with hdeclared | hfield
      · exact hnames name hdeclared
      · refine (hfields name hfield).2 ?_
        intro hblank
        have hmem : name.text ∈ ["type", "match", "in", "fn"] := by
          rw [← hlisted]
          exact List.mem_flatMap.2 ⟨placed, hplaced, List.mem_map_of_mem hname⟩
        rw [hblank] at hmem
        revert hmem
        decide

/-- A source with a blank field. -/
def blankSource : String := "enum Event \x7b Paused \x7b _: u32 \x7d \x7d"

/-- The blank field is read, and what is written for it makes no sense. -/
theorem blank_not_written_back :
    ∃ outline, Outline.ofSource blankSource = .ok outline ∧
      ∃ placed ∈ Item.placedAll .root outline.items, ∃ field ∈ placed.item.fieldNames,
        field.text = "_" ∧ writtenName field.text = "r#_" ∧ ¬ field.IsWrittenBack := by
  have htexts : ((Outline.ofSource blankSource).toOption.map fun outline =>
      ((Item.placedAll .root outline.items).flatMap fun placed => placed.item.fieldNames).map
        Identifier.text) = some ["_"] := by
    decide +kernel
  cases hread : Outline.ofSource blankSource with
  | error fault =>
      rw [hread] at htexts
      cases htexts
  | ok outline =>
      rw [hread] at htexts
      obtain ⟨field, hfield, htext⟩ := List.mem_map.1
        (Option.some.inj htexts ▸ List.mem_singleton_self "_")
      obtain ⟨placed, hplaced, hnamed⟩ := List.mem_flatMap.1 hfield
      refine ⟨outline, rfl, placed, hplaced, field, hnamed, htext, ?_, ?_⟩
      · rw [htext]
        decide +kernel
      · apply Identifier.not_isWrittenBack_of_mem
        rw [htext]
        decide

end EventTracking.Code
