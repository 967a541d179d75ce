import EventTracking.Code.Project

/-!
# Scopes

The scope of a project knows every struct and enum that the project declares and every name that
its `use` items bring into a module. A type written in a module is looked up in it: first a leading
name that is bound in the module is replaced by the path it stands for; then a path that begins
with `crate`, `self` or `super` has to name a type exactly, and any other path names the types whose
qualified names end in it.

Main statements: an anchored path finds nothing but the type of that exact name
(`name_of_lookup_anchored`), and a path that begins with `::` finds nothing
(`resolve_of_rooted`).
-/

namespace EventTracking.Code

/-! ## Declared types -/

/-- What a variant needs to know about a type that it wraps. -/
inductive TypeShape where
  /-- An enum. -/
  | enum
  /-- A struct with these named fields. -/
  | named (fields : List String)
  /-- A struct with positional fields. -/
  | positional
  /-- A struct without a list of fields. -/
  | unit
deriving DecidableEq

/-- A struct or an enum of the project. -/
structure DeclaredType where
  /-- The qualified name. -/
  name : QualifiedName
  /-- The shape. -/
  shape : TypeShape
deriving DecidableEq

/-- The shape of a struct with these fields. -/
def Fields.typeShape : Fields → TypeShape
  | named names => .named (names.map Identifier.text)
  | positional _ => .positional
  | none => .unit

/-- The type that an item declares, if it declares one. -/
def PlacedItem.declaredType? (placed : PlacedItem) : Option DeclaredType :=
  match placed.item with
  | .struct _ name fields => some ⟨placed.place.child name.text, fields.typeShape⟩
  | .enum _ name _ _ => some ⟨placed.place.child name.text, .enum⟩
  | _ => none

/-! ## Bound names -/

/-- A name and the path that it stands for. -/
structure Binding where
  /-- The name. -/
  name : String
  /-- The path. -/
  path : List String
deriving DecidableEq

mutual

/-- The names that a tree of a `use` item binds, `before` being the path that leads to it. The word
`self` binds the last word of that path, the name `_` and a tree that names everything bind
nothing. -/
def UseTree.bindings (before : List String) : UseTree → List Binding
  | .within segment tree => tree.bindings (before ++ [segment.text])
  | .named identifier =>
    if identifier.isPlain "self" then
      match before.getLast? with
      | some last => [⟨last, before⟩]
      | none => []
    else [⟨identifier.text, before ++ [identifier.text]⟩]
  | .renamed identifier newName =>
    if newName.isPlain "_" then []
    else if identifier.isPlain "self" then [⟨newName.text, before⟩]
    else [⟨newName.text, before ++ [identifier.text]⟩]
  | .every => []
  | .several trees => UseTree.bindingsOfAll before trees

/-- The names that several trees bind, in order. -/
def UseTree.bindingsOfAll (before : List String) : List UseTree → List Binding
  | [] => []
  | tree :: rest => tree.bindings before ++ UseTree.bindingsOfAll before rest

end

/-- The names that an item binds. -/
def Item.bindings : Item → List Binding
  | .use _ _ tree => tree.bindings []
  | _ => []

/-! ## Scopes -/

/-- A name that is bound in a module. -/
structure PlacedBinding where
  /-- The module. -/
  place : QualifiedName
  /-- The name and its path. -/
  binding : Binding
deriving DecidableEq

/-- The types and the bound names of a project, in order. -/
structure Scope where
  /-- The types. -/
  types : List DeclaredType
  /-- The bound names. -/
  bindings : List PlacedBinding
deriving DecidableEq

/-- The names that an item binds in its module. -/
def PlacedItem.bindings (placed : PlacedItem) : List PlacedBinding :=
  placed.item.bindings.map (⟨placed.place, ·⟩)

/-- The scope of placed items. -/
def Scope.ofPlaced (items : List PlacedItem) : Scope where
  types := items.filterMap PlacedItem.declaredType?
  bindings := items.flatMap PlacedItem.bindings

/-- The scope of a project. -/
def Project.scope (project : Project) : Scope := .ofPlaced project.placed

/-- Scopes are made item by item. -/
theorem Scope.ofPlaced_append (items more : List PlacedItem) :
    Scope.ofPlaced (items ++ more) =
      ⟨(ofPlaced items).types ++ (ofPlaced more).types,
       (ofPlaced items).bindings ++ (ofPlaced more).bindings⟩ := by
  simp [ofPlaced]

/-! ## Written paths -/

/-- The path that a type is once every `Box` around it has been taken off: whether it begins with
`::`, and its words. A type that is no path has none. -/
def WrittenType.unboxed? : WrittenType → Option (Bool × List Identifier)
  | .path rooted segments _ argument =>
    match segments.getLast? with
    | none => none
    | some last =>
      if last.isPlain "Box" then
        match argument with
        | none => none
        | some inner => inner.unboxed?
      else some (rooted, segments)
  | .bounds _ => none
  | .other => none

/-- The path that a name bound in a module stands for; the last binding counts. -/
def Scope.bound? (scope : Scope) (place : QualifiedName) (name : String) :
    Option (List String) :=
  (scope.bindings.findRev? fun bound => bound.place == place && bound.binding.name == name).map
    (·.binding.path)

/-- A path with its leading name replaced by what it stands for in a module. -/
def Scope.expand (scope : Scope) (place : QualifiedName) : List String → List String
  | [] => []
  | first :: rest =>
    match scope.bound? place first with
    | some path => path ++ rest
    | none => first :: rest

/-- The segments that a path stands for in a module, each leading `super` being a step up. -/
def climb? (place : QualifiedName) : List String → Option (List String)
  | [] => some place.segments
  | first :: rest =>
    if first = "super" then
      match place.parent? with
      | none => none
      | some parent => climb? parent rest
    else some (place.segments ++ first :: rest)

/-- The segments that a path beginning with `crate`, `self` or `super` stands for in a module. -/
def anchored? (place : QualifiedName) : List String → Option (List String)
  | [] => none
  | first :: rest =>
    if first = "crate" then some (first :: rest)
    else if first = "self" then climb? place rest
    else if first = "super" then climb? place (first :: rest)
    else none

/-! ## Looking types up -/

/-- The only item of a list. -/
def only? {α : Type} : List α → Option α
  | [item] => some item
  | _ => none

/-- The type that a path names in a module: an anchored path the only type of exactly that name,
any other path the only type whose name ends in it, or else the only one of these in the module. -/
def Scope.lookup? (scope : Scope) (place : QualifiedName) (path : List String) :
    Option DeclaredType :=
  match path.getLast? with
  | none => none
  | some last =>
    let candidates := scope.types.filter fun declared => declared.name.simple == last
    match anchored? place path with
    | some segments => only? (candidates.filter fun declared => declared.name.segments == segments)
    | none =>
      let matching := candidates.filter fun declared => path.isSuffixOf declared.name.segments
      match only? matching with
      | some found => some found
      | none => only? (matching.filter fun declared => declared.name.parent? == some place)

/-- The declared type that a type written in a module stands for. -/
def Scope.resolve? (scope : Scope) (place : QualifiedName) (written : WrittenType) :
    Option DeclaredType :=
  match written.unboxed? with
  | none => none
  | some (rooted, segments) =>
    if rooted then none
    else scope.lookup? place (scope.expand place (segments.map Identifier.text))

/-- Only an item of the list is found. -/
theorem mem_of_only? {α : Type} {items : List α} {item : α} (h : only? items = some item) :
    item ∈ items := by
  unfold only? at h
  split at h
  · cases h
    exact List.mem_singleton_self item
  · cases h

/-- A type that is found is declared in the project. -/
theorem Scope.mem_of_lookup? {scope : Scope} {place : QualifiedName} {path : List String}
    {found : DeclaredType} (h : scope.lookup? place path = some found) : found ∈ scope.types := by
  unfold lookup? at h
  split at h
  · cases h
  · dsimp only at h
    split at h
    · exact (List.mem_filter.1 (List.mem_filter.1 (mem_of_only? h)).1).1
    · split at h
      · rename_i hm
        cases h
        exact (List.mem_filter.1 (List.mem_filter.1 (mem_of_only? hm)).1).1
      · exact (List.mem_filter.1 (List.mem_filter.1 (List.mem_filter.1 (mem_of_only? h)).1).1).1

/-- A type that a written type stands for is declared in the project. -/
theorem Scope.mem_of_resolve? {scope : Scope} {place : QualifiedName} {written : WrittenType}
    {found : DeclaredType} (h : scope.resolve? place written = some found) :
    found ∈ scope.types := by
  unfold resolve? at h
  split at h
  · cases h
  · split at h
    · cases h
    · exact mem_of_lookup? h

/-- An anchored path finds nothing but the type of that exact name. -/
theorem Scope.name_of_lookup_anchored {scope : Scope} {place : QualifiedName}
    {path segments : List String} {found : DeclaredType}
    (ha : anchored? place path = some segments) (h : scope.lookup? place path = some found) :
    found.name.segments = segments := by
  unfold lookup? at h
  split at h
  · cases h
  · simp only [ha] at h
    simpa using (List.mem_filter.1 (mem_of_only? h)).2

/-- A path that begins with `::` finds nothing. -/
theorem Scope.resolve_of_rooted {scope : Scope} {place : QualifiedName} {written : WrittenType}
    {segments : List Identifier} (h : written.unboxed? = some (true, segments)) :
    scope.resolve? place written = none := by
  simp [resolve?, h]

end EventTracking.Code
