import EventTracking.Declaration
import EventTracking.Code.Scope

/-!
# Marked items

An item is marked by an attribute. The marked items of a project are described as declarations, in
the order of the files and, within a file, of the items, a module before what it holds. An enum is
described with its variants; a variant that wraps a single type takes its constructors from that
type.

Main statements: an item is described exactly when one of its attributes is the marker
(`isSome_declaration?`), and every described item is named below the module that it stands in
(`parent_of_declaration?`).
-/

namespace EventTracking.Code

/-! ## Marked items -/

/-- The word that marks an event group. -/
def marker : String := "auto_analytics_event"

/-- Whether an attribute is the marker: its path ends in the marker's word. -/
def Attribute.isMarker (written : Attribute) : Bool :=
  written.path.getLast?.any (·.isPlain marker)

/-- The line on which an item is marked. -/
def Item.markerLine? (item : Item) : Option Nat :=
  (item.attributes.find? Attribute.isMarker).map Attribute.line

/-! ## Describing items -/

/-- The word for an item of that kind. -/
def NamedKind.word : NamedKind → String
  | const => "const"
  | externCrate => "extern crate"
  | function => "fn"
  | macroCall => "macro"
  | static => "static"
  | trait => "trait"
  | traitAlias => "trait alias"
  | typeAlias => "type"
  | union => "union"

/-- The word for an item of that kind. -/
def UnnamedKind.word : UnnamedKind → String
  | externBlock => "extern block"
  | implementation => "impl"
  | macroCall => "macro"

/-- The word for an item. -/
def Item.word : Item → String
  | enum _ _ _ _ => "enum"
  | struct _ _ _ => "struct"
  | module _ _ _ => "mod"
  | use _ _ _ => "use"
  | named _ kind _ => kind.word
  | unnamed _ kind => kind.word
  | unread => "item"

/-- The name that an item declares. -/
def Item.name? : Item → Option Identifier
  | enum _ name _ _ => some name
  | struct _ name _ => some name
  | module _ name _ => some name
  | use _ _ _ => none
  | named _ _ name => some name
  | unnamed _ _ => none
  | unread => none

/-- The last segment of an item's qualified name; the word for the item stands in for a missing
name. -/
def Item.simpleName (item : Item) : String :=
  match item.name? with
  | some name => name.text
  | none => "<" ++ item.word ++ ">"

/-- The kind of declaration that an item is. -/
def Item.kind (item : Item) : DeclarationKind :=
  match item with
  | .enum _ _ _ _ => .closed item.word
  | .struct _ _ _ => .unbounded item.word
  | .named _ .trait _ => .unbounded item.word
  | .named _ .traitAlias _ => .unbounded item.word
  | .named _ .typeAlias _ => .unbounded item.word
  | .named _ .union _ => .unbounded item.word
  | _ => .untyped item.word

/-! ## Describing variants -/

/-- The constructors of a variant that wraps a type of that shape. -/
def TypeShape.constructors : TypeShape → List (List String)
  | enum => [[]]
  | named fields => [fields]
  | positional => []
  | unit => [[]]

/-- What is known of a variant: whether it is known what it holds, how it is written, and the
parameter names of its constructors. -/
structure VariantDescription where
  /-- Whether it is known what the variant holds. -/
  isKnown : Bool
  /-- How the variant is written. -/
  form : VariantForm
  /-- The parameter names of its constructors. -/
  constructors : List (List String)
deriving DecidableEq

/-- The description of a variant that wraps a type, once the type has been looked up. -/
def VariantDescription.ofWrapped : Option DeclaredType → VariantDescription
  | some found => ⟨true, .newtype, found.shape.constructors⟩
  | none => ⟨false, .newtype, []⟩

/-- The description of a variant with these fields, written in a module. -/
def Fields.describe (scope : Scope) (place : QualifiedName) : Fields → VariantDescription
  | none => ⟨true, .unit, [[]]⟩
  | named names => ⟨true, .braced, [names.map Identifier.text]⟩
  | positional [] => ⟨true, .tuple, [[]]⟩
  | positional [wrapped] => .ofWrapped (scope.resolve? place wrapped)
  | positional (_ :: _ :: _) => ⟨true, .tuple, []⟩

/-- The member that a variant of the group `group` is, written in a module. -/
def Variant.member (scope : Scope) (place group : QualifiedName) (variant : Variant) : Member :=
  let description := variant.fields.describe scope place
  { name := group.child variant.name.text
    isKnown := description.isKnown
    form := description.form
    supertypes := [group]
    constructors := description.constructors }

/-! ## Describing marked items -/

/-- The declaration that an item in a file is, `line` being where it is marked. -/
def PlacedItem.describe (scope : Scope) (file : String) (line : Nat) (placed : PlacedItem) :
    Declaration :=
  let name := placed.place.child placed.item.simpleName
  let plain : Declaration :=
    { name := name
      kind := placed.item.kind
      lifetimes := 0
      isGeneric := false
      members := []
      location := ⟨file, line⟩ }
  match placed.item with
  | .enum _ _ generics variants =>
    { plain with
      lifetimes := generics.lifetimes
      isGeneric := generics.others != 0
      members := variants.map (·.member scope placed.place name) }
  | _ => plain

/-- The declaration that an item is, if it is marked. -/
def PlacedItem.declaration? (scope : Scope) (file : String) (placed : PlacedItem) :
    Option Declaration :=
  placed.item.markerLine?.map fun line => placed.describe scope file line

/-- The marked items of a file, in order. -/
def File.declarations (scope : Scope) (file : File) : List Declaration :=
  file.placed.filterMap (·.declaration? scope file.path)

/-- The marked items of a project, in order. -/
def Project.declarations (project : Project) : List Declaration :=
  project.files.flatMap (·.declarations project.scope)

/-- An item is described exactly when one of its attributes is the marker. -/
theorem PlacedItem.isSome_declaration? (scope : Scope) (file : String) (placed : PlacedItem) :
    (placed.declaration? scope file).isSome = placed.item.attributes.any Attribute.isMarker := by
  rw [declaration?, Item.markerLine?, Option.isSome_map, Option.isSome_map]
  induction placed.item.attributes with
  | nil => rfl
  | cons first rest ih =>
    by_cases h : first.isMarker = true <;> simp_all

/-- A described item is named below the module that it stands in. -/
theorem PlacedItem.parent_of_declaration? {scope : Scope} {file : String} {placed : PlacedItem}
    {declaration : Declaration} (h : placed.declaration? scope file = some declaration) :
    declaration.name = placed.place.child placed.item.simpleName := by
  obtain ⟨line, -, rfl⟩ := Option.map_eq_some_iff.1 h
  unfold describe
  split <;> rfl

end EventTracking.Code
