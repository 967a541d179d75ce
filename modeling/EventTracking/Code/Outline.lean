import EventTracking.Code.Identifier

/-!
# Outlines of source files

The outline of a source file keeps what event discovery needs to know: the items of the file and of
its inline modules with their attributes, the fields of structs and enum variants, the types that
variants wrap, and the names that `use` items bring into scope. Bodies of functions, values and
macro arguments are left out.

Main statements: further attributes come before an item's own (`attributes_withAttributes`).
-/

namespace EventTracking.Code

/-! ## Attributes and imports -/

/-- An attribute, by the path that names it. -/
structure Attribute where
  /-- The words of the path. -/
  path : List Identifier
  /-- The line of the last word. -/
  line : Nat
deriving DecidableEq

/-- What a `use` item names. -/
inductive UseTree where
  /-- A tree below a module: `module::tree`. -/
  | within (segment : Identifier) (tree : UseTree)
  /-- A name. -/
  | named (identifier : Identifier)
  /-- A name that is bound to another one. -/
  | renamed (identifier newName : Identifier)
  /-- Everything. -/
  | every
  /-- Several trees in braces. -/
  | several (trees : List UseTree)

/-! ## Types -/

/-- A type as it is written, as far as it may name a declared type. -/
inductive WrittenType where
  /-- A path: whether it begins with `::`, its words, whether it has generic arguments anywhere, and
  the first argument of the last word if that argument is a type. -/
  | path (rooted : Bool) (segments : List Identifier) (generic : Bool)
      (argument : Option WrittenType)
  /-- Bounds without the word `dyn`, and whether there is just one. -/
  | bounds (single : Bool)
  /-- Any other type. -/
  | other

/-- The number of generic parameters of an item. -/
structure Generics where
  /-- The number of lifetimes. -/
  lifetimes : Nat
  /-- The number of types and constants. -/
  others : Nat
deriving DecidableEq

/-! ## Fields -/

/-- The fields of a struct or of an enum variant. -/
inductive Fields where
  /-- Named fields in braces. -/
  | named (names : List Identifier)
  /-- Fields in parentheses, known by their types. -/
  | positional (types : List WrittenType)
  /-- No fields at all. -/
  | none

/-- A variant of an enum. -/
structure Variant where
  /-- The name of the variant. -/
  name : Identifier
  /-- The fields of the variant. -/
  fields : Fields

/-! ## Items -/

/-- The kinds of items that have a name and no structure of interest. -/
inductive NamedKind where
  | const
  | externCrate
  | function
  | macroCall
  | static
  | trait
  | traitAlias
  | typeAlias
  | union
deriving DecidableEq

/-- The kinds of items without a name. -/
inductive UnnamedKind where
  | externBlock
  | implementation
  | macroCall
deriving DecidableEq

/-- An item of a source file. -/
inductive Item where
  /-- An enum. -/
  | enum (attributes : List Attribute) (name : Identifier) (generics : Generics)
      (variants : List Variant)
  /-- A struct. -/
  | struct (attributes : List Attribute) (name : Identifier) (fields : Fields)
  /-- A module, with its items if they are inline. -/
  | module (attributes : List Attribute) (name : Identifier) (items : List Item)
  /-- A `use` item, and whether its path begins with `::`. -/
  | use (attributes : List Attribute) (rooted : Bool) (tree : UseTree)
  /-- Another item with a name. -/
  | named (attributes : List Attribute) (kind : NamedKind) (name : Identifier)
  /-- Another item without a name. -/
  | unnamed (attributes : List Attribute) (kind : UnnamedKind)
  /-- An item in a form that is passed over; its attributes are not kept. -/
  | unread

/-- The attributes of an item. -/
def Item.attributes : Item → List Attribute
  | enum attributes _ _ _ => attributes
  | struct attributes _ _ => attributes
  | module attributes _ _ => attributes
  | use attributes _ _ => attributes
  | named attributes _ _ => attributes
  | unnamed attributes _ => attributes
  | unread => []

/-- The item with further attributes before its own. -/
def Item.withAttributes (more : List Attribute) : Item → Item
  | enum attributes name generics variants => enum (more ++ attributes) name generics variants
  | struct attributes name fields => struct (more ++ attributes) name fields
  | module attributes name items => module (more ++ attributes) name items
  | use attributes rooted tree => use (more ++ attributes) rooted tree
  | named attributes kind name => named (more ++ attributes) kind name
  | unnamed attributes kind => unnamed (more ++ attributes) kind
  | unread => unread

/-- Further attributes come before an item's own, unless the item is passed over. -/
theorem Item.attributes_withAttributes {item : Item} (h : item ≠ .unread)
    (more : List Attribute) :
    (item.withAttributes more).attributes = more ++ item.attributes := by
  cases item <;> first | rfl | exact absurd rfl h

/-- The outline of a source file. -/
structure Outline where
  /-- The items of the file, in order. -/
  items : List Item

end EventTracking.Code
