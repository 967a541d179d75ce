import EventTracking.Name

/-!
# Declarations

A declaration describes a marked item apart from how it is written: its name, what kind of item it
is, how it is parameterised and the members that it encloses. Discovery looks at nothing else.

Main statements: a member is direct exactly when it lists the declaration's name among its
supertypes (`isDirect_iff`).
-/

namespace EventTracking

/-- A place in a source file. -/
structure Location where
  /-- The path of the file. -/
  file : String
  /-- The line, counted from one. -/
  line : Nat
deriving DecidableEq, Repr, Inhabited

/-- How a variant is written. -/
inductive VariantForm where
  /-- A bare name. -/
  | unit
  /-- A name with named fields in braces. -/
  | braced
  /-- A name with one positional field. -/
  | newtype
  /-- A name with any other number of positional fields. -/
  | tuple
deriving DecidableEq, Repr

/-! ## Members -/

/-- A declaration that is enclosed by another one. -/
structure Member where
  /-- The name of the member. -/
  name : QualifiedName
  /-- Whether it is known what it holds: it wraps no type that is declared nowhere. -/
  isKnown : Bool
  /-- How it is written. -/
  form : VariantForm
  /-- The types that it belongs to directly. -/
  supertypes : List QualifiedName
  /-- The parameter names of its constructors, each in order. -/
  constructors : List (List String)
deriving DecidableEq, Repr

/-! ## Declarations -/

/-- What kind of item a declaration is; each kind keeps the word for the item. -/
inductive DeclarationKind where
  /-- A type with a fixed set of variants. -/
  | closed (item : String)
  /-- A type without one. -/
  | unbounded (item : String)
  /-- An item that is no type. -/
  | untyped (item : String)
deriving DecidableEq, Repr

/-- A marked item. -/
structure Declaration where
  /-- The name of the item. -/
  name : QualifiedName
  /-- What kind of item it is. -/
  kind : DeclarationKind
  /-- The number of its lifetime parameters. -/
  lifetimes : Nat
  /-- Whether it has parameters other than lifetimes. -/
  isGeneric : Bool
  /-- The declarations that it encloses, in order. -/
  members : List Member
  /-- Where it is marked. -/
  location : Location
deriving DecidableEq, Repr

/-- Whether a member belongs to a declaration directly. -/
def Declaration.isDirect (declaration : Declaration) (member : Member) : Bool :=
  member.supertypes.contains declaration.name

/-- A direct member lists the declaration's name among its supertypes. -/
theorem Declaration.isDirect_iff {declaration : Declaration} {member : Member} :
    declaration.isDirect member = true ↔ declaration.name ∈ member.supertypes := by
  simp [isDirect]

end EventTracking
