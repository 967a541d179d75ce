/-!
# Qualified names

A qualified name is a list of segments, written with `::` between them. Segments are taken as they
are: nothing forbids an empty segment or one that itself holds `::`.

Main statements: a child's parent is the name it was made from (`parent_child`) unless that name is
empty, and a child's simple name is the segment that was added (`simple_child`).
-/

namespace EventTracking

/-- A path such as `crate::events::Lifecycle`. -/
structure QualifiedName where
  /-- The parts of the path, outermost first. -/
  segments : List String
deriving DecidableEq, Repr, Inhabited

namespace QualifiedName

/-! ## Reading and writing -/

/-- The pieces of a text between the leftmost non-overlapping occurrences of `::`. -/
def pieces : List Char → List (List Char)
  | [] => [[]]
  | ':' :: ':' :: rest => [] :: pieces rest
  | c :: rest =>
    match pieces rest with
    | [] => [[c]]
    | piece :: others => (c :: piece) :: others

/-- Reads a path, leaving out empty pieces. -/
def parse (path : String) : QualifiedName :=
  ⟨((pieces path.toList).filter (!·.isEmpty)).map String.ofList⟩

/-- The segments joined by `::`. -/
def display (name : QualifiedName) : String := "::".intercalate name.segments

instance : ToString QualifiedName := ⟨display⟩

/-! ## Moving along a name -/

/-- The crate root, `crate`. -/
def root : QualifiedName := ⟨["crate"]⟩

/-- The name with one more segment at its end. -/
def child (name : QualifiedName) (segment : String) : QualifiedName :=
  ⟨name.segments ++ [segment]⟩

/-- The name without its last segment, unless nothing would be left. -/
def parent? (name : QualifiedName) : Option QualifiedName :=
  match name.segments.dropLast with
  | [] => none
  | rest => some ⟨rest⟩

/-- The last segment, empty for the name without segments. -/
def simple (name : QualifiedName) : String := name.segments.getLast?.getD ""

/-- A child has its parent's segments and one more. -/
@[simp] theorem segments_child (name : QualifiedName) (segment : String) :
    (name.child segment).segments = name.segments ++ [segment] := rfl

/-- The simple name of a child is the segment that was added. -/
@[simp] theorem simple_child (name : QualifiedName) (segment : String) :
    (name.child segment).simple = segment := by
  simp [simple]

/-- The parent of a child is the name it was made from. -/
theorem parent_child {name : QualifiedName} (segment : String) (h : name.segments ≠ []) :
    (name.child segment).parent? = some name := by
  obtain ⟨segments⟩ := name
  cases segments with
  | nil => exact absurd rfl h
  | cons first rest =>
    have : (first :: (rest ++ [segment])).dropLast = first :: rest := by
      rw [← List.cons_append, List.dropLast_concat]
    simp [parent?, child, this]

/-- A name with a parent is a child of it. -/
theorem eq_child_of_parent? {name parent : QualifiedName}
    (h : name.parent? = some parent) : name = parent.child name.simple := by
  obtain ⟨segments⟩ := name
  rw [parent?] at h
  cases hlast : segments.getLast? with
  | none =>
    rw [List.getLast?_eq_none_iff.1 hlast] at h
    cases h
  | some last =>
    obtain ⟨before, rfl⟩ := List.getLast?_eq_some_iff.1 hlast
    rw [List.dropLast_concat] at h
    cases before with
    | nil => cases h
    | cons first rest =>
      obtain rfl := Option.some.inj h
      rw [simple, hlast]
      rfl

end QualifiedName

end EventTracking
