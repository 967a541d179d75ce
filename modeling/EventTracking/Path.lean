import EventTracking.Name
import EventTracking.Text.Encoded

/-!
# Paths

The parts of a path are separated by `/`. Two paths name the same place when they have the same
components: repeated separators, a separator at the end and inner `.` parts do not count, a leading
`.` does.

Paths are encoded: a path need not be a text, but its separators are always to be seen among its
bytes.

Main statements: the separator is seen among the bytes of a text exactly if it stands in the text
(`slash_mem_toBytes_iff`), and joining encoded paths is joining texts where they are texts
(`join_text`).
-/

namespace EventTracking

open Text

namespace Path

/-! ## Components -/

/-- One step of a path. -/
inductive Component where
  /-- The separator that begins an absolute path. -/
  | root
  /-- A leading `.`. -/
  | current
  /-- A step `..` to the enclosing directory. -/
  | parent
  /-- A step to the entry of that name. -/
  | entry (name : String)
deriving DecidableEq, Repr

/-- A component as it is written. -/
def Component.text : Component → String
  | .root => "/"
  | .current => "."
  | .parent => ".."
  | .entry name => name

/-- The parts of a list between its separators. -/
def parts {α : Type} [DecidableEq α] (separator : α) : List α → List (List α)
  | [] => [[]]
  | c :: rest =>
    if c = separator then [] :: parts separator rest
    else
      match parts separator rest with
      | [] => [[c]]
      | part :: others => (c :: part) :: others

/-- The component that a part stands for anywhere but at the head of a path. -/
def innerComponent : List Char → Option Component
  | [] => none
  | ['.'] => none
  | ['.', '.'] => some .parent
  | part => some (.entry (String.ofList part))

/-- The component that the first part of a path stands for. -/
def leadingComponent : List Char → Option Component
  | [] => some .root
  | ['.'] => some .current
  | part => innerComponent part

/-- The components of a path. -/
def components (path : String) : List Component :=
  if path.toList.isEmpty then [] else
    match parts '/' path.toList with
    | [] => []
    | first :: rest => (leadingComponent first).toList ++ rest.filterMap innerComponent

/-! ## Joining -/

/-- `below` seen from the directory `base`: a separator is put between them unless `base` is empty
or already ends in one; what begins with a separator stays as it is. -/
def joined {α : Type} [DecidableEq α] (separator : α) (base below : List α) : List α :=
  if below.head? = some separator then below
  else if base.isEmpty || base.getLast? = some separator then base ++ below
  else base ++ separator :: below

/-- The path `below` seen from the directory `base`. -/
def join (base below : String) : String := String.ofList (joined '/' base.toList below.toList)

/-- The empty directory adds nothing. -/
theorem join_empty (below : String) : join "" below = below := by
  unfold join joined
  split
  · exact String.ofList_toList
  · exact String.ofList_toList

/-! ## Source files -/

/-- The components of `file` below `root`, if it lies there. -/
def below? (root file : String) : Option (List Component) :=
  if (components root).isPrefixOf (components file) then
    some ((components file).drop (components root).length)
  else none

/-- The text without `ending`, if it ends in it. -/
def withoutEnding? (ending text : String) : Option String :=
  if ending.toList.isSuffixOf text.toList then
    some (String.ofList (text.toList.take (text.toList.length - ending.toList.length)))
  else none

/-- A source file's name has the extension `rs`: a dot that does not begin the name, then `rs`. -/
def isSourceName (name : String) : Bool :=
  match withoutEnding? ".rs" name with
  | some stem => !stem.toList.isEmpty
  | none => false

/-- The module that the components of a file below the source root stand for: the directories, then
the file's stem unless it is `mod`, or `lib` or `main` directly below the root. -/
def moduleOf (relative : List Component) : QualifiedName :=
  match relative.getLast? with
  | none => .root
  | some file =>
    let directories := relative.dropLast
    let stem := (withoutEnding? ".rs" file.text).getD file.text
    let within : QualifiedName := ⟨"crate" :: directories.map Component.text⟩
    if stem = "mod" || directories.isEmpty && (stem = "lib" || stem = "main") then within
    else within.child stem

/-- The module that a source file defines; a file outside the root belongs to the crate's root. -/
def moduleFor (root file : String) : QualifiedName :=
  match below? root file with
  | none => .root
  | some relative => moduleOf relative

/-! ## Separators among bytes -/

/-- The byte of the separator. -/
def slash : UInt8 := 0x2F

/-- The byte of the separator occurs in no other character. -/
theorem slash_mem_utf8EncodeChar_iff {c : Char} : slash ∈ String.utf8EncodeChar c ↔ c = '/' := by
  constructor
  · intro h
    have hbyte : slash.toNat ∈ Utf8.bytesOfCode c.toNat := by
      rw [← Utf8.map_toNat_utf8EncodeChar]
      exact List.mem_map_of_mem h
    have hcode : c.toNat = '/'.toNat := (Utf8.mem_bytesOfCode_iff (by decide)).1 hbyte
    exact Char.toNat_inj.1 hcode
  · rintro rfl
    exact List.mem_singleton_self slash

/-- The bytes of a text hold the separator exactly if the text does. -/
theorem slash_mem_toBytes_iff {text : String} :
    slash ∈ (Encoded.text text).toBytes ↔ '/' ∈ text.toList := by
  rw [Encoded.toBytes_text, List.mem_flatMap]
  constructor
  · rintro ⟨c, hc, hslash⟩
    rwa [← slash_mem_utf8EncodeChar_iff.1 hslash]
  · exact fun h => ⟨'/', h, slash_mem_utf8EncodeChar_iff.2 rfl⟩

/-- A character has bytes. -/
theorem utf8EncodeChar_ne_nil (c : Char) : String.utf8EncodeChar c ≠ [] := by
  intro h
  have hlength := String.length_utf8EncodeChar c
  rw [h] at hlength
  exact absurd hlength.symm (Nat.ne_of_gt c.utf8Size_pos)

/-- The bytes of a text begin with the separator exactly if the text does. -/
theorem head?_toBytes_eq_slash_iff {text : String} :
    (Encoded.text text).toBytes.head? = some slash ↔ text.toList.head? = some '/' := by
  rw [Encoded.toBytes_text]
  cases text.toList with
  | nil => exact ⟨nofun, nofun⟩
  | cons c rest =>
    obtain ⟨byte, bytes, hbytes⟩ := List.exists_cons_of_ne_nil (utf8EncodeChar_ne_nil c)
    rw [List.flatMap_cons, hbytes, List.cons_append, List.head?_cons, List.head?_cons,
      Option.some_inj, Option.some_inj]
    constructor
    · rintro rfl
      exact slash_mem_utf8EncodeChar_iff.1 (hbytes ▸ List.mem_cons_self)
    · rintro rfl
      exact (List.cons.inj hbytes).1.symm

/-- The bytes of a text end in the separator exactly if the text does. -/
theorem getLast?_toBytes_eq_slash_iff {text : String} :
    (Encoded.text text).toBytes.getLast? = some slash ↔ text.toList.getLast? = some '/' := by
  rw [Encoded.toBytes_text]
  rcases List.eq_nil_or_concat text.toList with h | ⟨front, c, h⟩
  · rw [h]
    exact ⟨nofun, nofun⟩
  · obtain ⟨bytes, byte, hbytes⟩ :=
      (List.eq_nil_or_concat (String.utf8EncodeChar c)).resolve_left (utf8EncodeChar_ne_nil c)
    rw [List.concat_eq_append] at h hbytes
    rw [h, List.flatMap_append, List.flatMap_singleton, hbytes, ← List.append_assoc,
      List.getLast?_concat, List.getLast?_concat, Option.some_inj, Option.some_inj]
    constructor
    · rintro rfl
      apply slash_mem_utf8EncodeChar_iff.1
      rw [hbytes]
      exact List.mem_concat_self
    · rintro rfl
      have hslash : [] ++ [slash] = bytes ++ [byte] := hbytes
      exact (List.singleton_inj.1 (List.append_inj_right' hslash rfl)).symm

end Path

/-! ## Encoded paths -/

namespace Text.Encoded

/-- The parts of a path between its separators. -/
def parts (path : Encoded) : List Encoded := (Path.parts Path.slash path.toBytes).map ofBytes

/-- The path `below` seen from the directory `base`. -/
def join (base below : Encoded) : Encoded :=
  ofBytes (Path.joined Path.slash base.toBytes below.toBytes)

/-- Whether a path starts at the root. -/
def isAbsolute (path : Encoded) : Bool := decide (path.toBytes.head? = some Path.slash)

/-- Where paths are texts, they are joined as texts are. -/
theorem join_text (base below : String) : (text base).join (text below) = Path.join base below := by
  have hempty : (text base).toBytes.isEmpty = base.toList.isEmpty := by
    rw [toBytes_text]
    cases base.toList with
    | nil => rfl
    | cons c rest =>
      obtain ⟨byte, bytes, hbytes⟩ := List.exists_cons_of_ne_nil (Path.utf8EncodeChar_ne_nil c)
      rw [List.flatMap_cons, hbytes]
      rfl
  apply toBytes_injective
  rw [join, toBytes_ofBytes, Path.joined, Path.join, Path.joined, toBytes_text (String.ofList _),
    String.toList_ofList]
  simp only [Path.head?_toBytes_eq_slash_iff, Path.getLast?_toBytes_eq_slash_iff, hempty]
  split
  · exact toBytes_text below
  · split
    · rw [List.flatMap_append, toBytes_text, toBytes_text]
    · rw [List.flatMap_append, List.flatMap_cons, toBytes_text, toBytes_text]
      rfl

end Text.Encoded

end EventTracking
