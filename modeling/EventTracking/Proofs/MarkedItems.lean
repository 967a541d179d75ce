import EventTracking.Grammar.File
import EventTracking.Proofs.Discovery
import Mathlib.Data.List.Basic

/-!
# Places of marked items

An item of a project stands in a file, at some depth of inline modules. Its place is known from the
position of the file and, on each level, the number of items before it; in the order of these
numbers a module comes before what it holds and items come as they are written. The item is named by
the module of its file, the inline modules around it and its own name.

The declarations of a project are those of its marked items, one for each and in the order of their
places, and the declared types are those of its structs and enums, in the same way. Both go by the
same names. Only of an item in a form that is passed over nothing is kept, not even whether it was
marked.

Main statements: the items of a list are listed with their places (`mem_spotsFrom_zero`), in the
order of these (`pairwise_spotsFrom`), and what is placed is what stands there (`placedAll_eq`); a
mark in front of an item is kept unless the item is passed over (`isMarked_of_itemAfter`); and the
declarations and the types of a project are listed with their sites (`declarations_of_sites`).
-/

namespace EventTracking.Code

open Grammar

/-! ## Marks -/

/-- An attribute that is a mark: the last word of its path is written as the marker. -/
def Attribute.IsMark (given : Attribute) : Prop :=
  ∃ last, given.path.getLast? = some last ∧ last.written = marker

/-- An item that carries a mark. -/
def Item.IsMarked (item : Item) : Prop := ∃ given ∈ item.attributes, given.IsMark

/-- An identifier is written as the marker exactly if it is that plain word. -/
theorem Identifier.isPlain_marker_iff {identifier : Identifier} :
    identifier.isPlain marker = true ↔ identifier.written = marker := by
  rw [isPlain, written]
  cases hraw : identifier.raw with
  | false => simp
  | true =>
      refine iff_of_false (by simp) ?_
      intro h
      -- the raw marker holds a sign that is not in the word
      have hhash : '#' ∈ marker.toList := by
        rw [← h, if_pos rfl, String.toList_append]
        exact List.mem_append_left _ (by decide)
      revert hhash
      decide

/-- An attribute is recognised as the marker exactly if it is a mark. -/
theorem Attribute.isMarker_iff {given : Attribute} :
    given.isMarker = true ↔ given.IsMark := by
  rw [isMarker, IsMark]
  cases given.path.getLast? with
  | none => simp
  | some last => simp [Identifier.isPlain_marker_iff]

/-- An item is described exactly if it is marked. -/
theorem PlacedItem.isSome_declaration?_iff {scope : Scope} {file : String} {placed : PlacedItem} :
    (placed.declaration? scope file).isSome = true ↔ placed.item.IsMarked := by
  rw [isSome_declaration?, List.any_eq_true, Item.IsMarked]
  simp only [Attribute.isMarker_iff]

/-- Attributes with a mark among them mark the item they are in front of, unless it is passed
over. -/
theorem Item.isMarked_withAttributes_iff {item : Item} {more : List Attribute}
    (hmark : ∃ given ∈ more, given.IsMark) :
    (item.withAttributes more).IsMarked ↔ item.withAttributes more ≠ .unread := by
  constructor
  · rintro ⟨given, hmem, -⟩ hunread
    rw [hunread] at hmem
    cases hmem
  · intro hread
    have hitem : item ≠ .unread := by
      rintro rfl
      exact hread rfl
    obtain ⟨given, hmem, hgiven⟩ := hmark
    refine ⟨given, ?_, hgiven⟩
    rw [attributes_withAttributes hitem]
    exact List.mem_append_left _ hmem

/-- An item that is read after attributes with a mark among them is marked, unless it is passed
over. -/
theorem Item.isMarked_of_itemAfter {rules : Rules} {more : List Attribute}
    {before after : Position} {item : Item} (hmark : ∃ given ∈ more, given.IsMark)
    (h : itemAfter rules more before = .ok (item, after)) : item.IsMarked ↔ item ≠ .unread := by
  change Except.bind (plainItem rules before) (fun read => .ok (read.1.withAttributes more, read.2))
    = _ at h
  cases hread : plainItem rules before with
  | error fault =>
      rw [hread] at h
      cases h
  | ok read =>
      rw [hread] at h
      cases h
      exact isMarked_withAttributes_iff hmark

/-! ## Places of items -/

/-- The item that stands among some items at an address, which counts the items before it on each
level, inside the inline modules of these names, outermost first. -/
inductive Item.StandsAt : List Item → List Nat → List String → Item → Prop where
  /-- One of the items. -/
  | here {items : List Item} {index : Nat} {item : Item} (h : items[index]? = some item) :
      StandsAt items [index] [] item
  /-- What stands in one of the items, if it is an inline module. -/
  | inside {items inner : List Item} {index : Nat} {attributes : List Attribute}
      {name : Identifier} {address : List Nat} {modules : List String} {item : Item}
      (h : items[index]? = some (.module attributes name inner))
      (hinner : StandsAt inner address modules item) :
      StandsAt items (index :: address) (name.text :: modules) item

/-- An address, the names of the inline modules around it, and the item that stands there. -/
structure Spot where
  /-- The number of items before it on each level. -/
  address : List Nat
  /-- The names of the inline modules, outermost first. -/
  modules : List String
  /-- The item. -/
  item : Item

/-- A spot as it is seen from outside an inline module. -/
def Spot.within (index : Nat) (name : String) (spot : Spot) : Spot :=
  ⟨index :: spot.address, name :: spot.modules, spot.item⟩

/-- The item at a spot, placed in its module. -/
def Spot.placed (place : QualifiedName) (spot : Spot) : PlacedItem :=
  ⟨⟨place.segments ++ spot.modules⟩, spot.item⟩

mutual

/-- The spots at and in an item that has some items before it. -/
def Item.spots (index : Nat) : Item → List Spot
  | .module attributes name items =>
    ⟨[index], [], .module attributes name items⟩ ::
      (Item.spotsFrom 0 items).map (Spot.within index name.text)
  | item => [⟨[index], [], item⟩]

/-- The spots at and in the items of a list that has some items before it. -/
def Item.spotsFrom (index : Nat) : List Item → List Spot
  | [] => []
  | item :: rest => item.spots index ++ Item.spotsFrom (index + 1) rest

end

namespace Item

/-- The spot of an item comes before those of the items inside it. -/
theorem spots_eq_cons (index : Nat) (item : Item) :
    item.spots index =
      ⟨[index], [], item⟩ :: (spotsFrom 0 item.inner).map (Spot.within index item.simpleName) := by
  cases item <;> rfl

/-- Only an inline module has items inside it. -/
theorem exists_module_of_mem_inner {item one : Item} (h : one ∈ item.inner) :
    ∃ attributes name items, item = .module attributes name items := by
  cases item with
  | module attributes name items => exact ⟨attributes, name, items, rfl⟩
  | _ => cases h

/-- The spots at and in an item lie below its index. -/
theorem exists_address_of_mem_spots {spot : Spot} {index : Nat} {item : Item}
    (h : spot ∈ item.spots index) : ∃ rest, spot.address = index :: rest := by
  rw [spots_eq_cons, List.mem_cons] at h
  rcases h with rfl | h
  · exact ⟨[], rfl⟩
  · obtain ⟨inside, -, rfl⟩ := List.mem_map.1 h
    exact ⟨inside.address, rfl⟩

/-- The spots of a list are those at and in one of its items. -/
theorem mem_spotsFrom {spot : Spot} {index : Nat} {items : List Item} :
    spot ∈ spotsFrom index items ↔
      ∃ (offset : Nat) (item : Item),
        items[offset]? = some item ∧ spot ∈ item.spots (index + offset) := by
  induction items generalizing index with
  | nil => simp [spotsFrom]
  | cons first rest ih =>
      rw [spotsFrom, List.mem_append, ih]
      constructor
      · rintro (h | ⟨offset, item, hitem, h⟩)
        · exact ⟨0, first, rfl, h⟩
        · refine ⟨offset + 1, item, hitem, ?_⟩
          rwa [Nat.add_comm offset 1, ← Nat.add_assoc]
      · rintro ⟨offset, item, hitem, h⟩
        cases offset with
        | zero =>
            obtain rfl : first = item := Option.some.inj hitem
            exact .inl h
        | succ offset =>
            refine .inr ⟨offset, item, hitem, ?_⟩
            rwa [Nat.add_assoc, Nat.add_comm 1 offset]

/-- What a spot of an item says is so in any list with the item at that index. -/
theorem standsAt_of_mem_spots (item : Item) :
    ∀ {items : List Item} {index : Nat} {spot : Spot}, items[index]? = some item →
      spot ∈ item.spots index → StandsAt items spot.address spot.modules spot.item := by
  induction item using of_inner with
  | h item ih =>
      intro items index spot hitem hmem
      rw [spots_eq_cons, List.mem_cons] at hmem
      rcases hmem with rfl | hmem
      · exact .here hitem
      · obtain ⟨inside, hinside, rfl⟩ := List.mem_map.1 hmem
        obtain ⟨offset, one, hone, hspot⟩ := mem_spotsFrom.1 hinside
        have hinner := List.mem_of_getElem? hone
        rw [Nat.zero_add] at hspot
        have hstands := ih one hinner hone hspot
        obtain ⟨attributes, name, inner, rfl⟩ := exists_module_of_mem_inner hinner
        exact .inside hitem hstands

/-- What stands among the items of a list is at one of its spots. -/
theorem mem_spotsFrom_of_standsAt {items : List Item} {address : List Nat} {modules : List String}
    {item : Item} (h : StandsAt items address modules item) :
    ⟨address, modules, item⟩ ∈ spotsFrom 0 items := by
  induction h with
  | here h =>
      refine mem_spotsFrom.2 ⟨_, _, h, ?_⟩
      rw [spots_eq_cons, Nat.zero_add]
      exact List.mem_cons_self
  | inside h _ ih =>
      refine mem_spotsFrom.2 ⟨_, _, h, ?_⟩
      rw [spots_eq_cons, Nat.zero_add]
      exact List.mem_cons_of_mem _ (List.mem_map.2 ⟨_, ih, rfl⟩)

/-- The spots of a list are the items at any depth with their addresses. -/
theorem mem_spotsFrom_zero {spot : Spot} {items : List Item} :
    spot ∈ spotsFrom 0 items ↔ StandsAt items spot.address spot.modules spot.item := by
  constructor
  · intro h
    obtain ⟨offset, item, hitem, hspot⟩ := mem_spotsFrom.1 h
    rw [Nat.zero_add] at hspot
    exact standsAt_of_mem_spots item hitem hspot
  · exact mem_spotsFrom_of_standsAt

/-- If the spots at and in each item come in the order of their addresses, so do those of a list. -/
theorem pairwise_spotsFrom_of {items : List Item}
    (h : ∀ item ∈ items, ∀ index, (item.spots index).Pairwise (·.address < ·.address))
    (index : Nat) : (spotsFrom index items).Pairwise (·.address < ·.address) := by
  induction items generalizing index with
  | nil => exact .nil
  | cons first rest ih =>
      obtain ⟨hfirst, hrest⟩ := List.forall_mem_cons.1 h
      rw [spotsFrom, List.pairwise_append]
      refine ⟨hfirst index, ih hrest (index + 1), ?_⟩
      intro spot hspot later hlater
      obtain ⟨offset, item, -, hlater⟩ := mem_spotsFrom.1 hlater
      obtain ⟨address, heq⟩ := exists_address_of_mem_spots hspot
      obtain ⟨address', heq'⟩ := exists_address_of_mem_spots hlater
      rw [heq, heq', List.cons_lt_cons_iff]
      exact .inl (by omega)

/-- The spots at and in an item come in the order of their addresses. -/
theorem pairwise_spots (item : Item) :
    ∀ index, (item.spots index).Pairwise (·.address < ·.address) := by
  induction item using of_inner with
  | h item ih =>
      intro index
      rw [spots_eq_cons, List.pairwise_cons, List.pairwise_map]
      constructor
      · -- the spot of a module comes before those inside it
        intro spot hspot
        obtain ⟨inside, hinside, rfl⟩ := List.mem_map.1 hspot
        obtain ⟨offset, one, -, hone⟩ := mem_spotsFrom.1 hinside
        obtain ⟨rest, heq⟩ := exists_address_of_mem_spots hone
        change [index] < index :: inside.address
        rw [heq, List.cons_lt_cons_iff]
        exact .inr ⟨rfl, .nil⟩
      · refine (pairwise_spotsFrom_of ih 0).imp ?_
        intro spot later hlt
        exact List.cons_lt_cons_iff.2 (.inr ⟨rfl, hlt⟩)

/-- The spots of a list come in the order of their addresses. -/
theorem pairwise_spotsFrom (index : Nat) (items : List Item) :
    (spotsFrom index items).Pairwise (·.address < ·.address) :=
  pairwise_spotsFrom_of (fun item _ => item.pairwise_spots) index

/-- If what is placed for each item is what stands at its spots, so it is for a list. -/
theorem placedAll_eq_of {items : List Item}
    (h : ∀ item ∈ items, ∀ place index,
      item.placed place = (item.spots index).map (Spot.placed place))
    (place : QualifiedName) (index : Nat) :
    placedAll place items = (spotsFrom index items).map (Spot.placed place) := by
  induction items generalizing index with
  | nil => rfl
  | cons first rest ih =>
      obtain ⟨hfirst, hrest⟩ := List.forall_mem_cons.1 h
      rw [placedAll, spotsFrom, List.map_append, ← hfirst, ← ih hrest]

/-- What is placed for an item is what stands at its spots. -/
theorem placed_eq (item : Item) :
    ∀ place index, item.placed place = (item.spots index).map (Spot.placed place) := by
  induction item using of_inner with
  | h item ih =>
      intro place index
      rw [placed_eq_cons, spots_eq_cons, List.map_cons, List.map_map, placedAll_eq_of ih _ 0]
      congr 1
      · rw [Spot.placed, List.append_nil]
      · refine List.map_congr_left fun spot _ => ?_
        rw [Function.comp_apply, Spot.placed, Spot.placed, Spot.within,
          QualifiedName.segments_child, List.append_assoc, List.singleton_append]

/-- What is placed for a list is what stands at its spots. -/
theorem placedAll_eq (place : QualifiedName) (index : Nat) (items : List Item) :
    placedAll place items = (spotsFrom index items).map (Spot.placed place) :=
  placedAll_eq_of (fun item _ => item.placed_eq) place index

end Item

/-! ## Sites of a project -/

/-- A spot in the file at a position of a project. -/
structure Site where
  /-- The position of the file. -/
  position : Nat
  /-- The file. -/
  file : File
  /-- The spot. -/
  spot : Spot

namespace Site

/-- The numbers that the order of sites goes by, first of all the position of the file. -/
def key (site : Site) : List Nat := site.position :: site.spot.address

/-- The item at the site. -/
def item (site : Site) : Item := site.spot.item

/-- The item at the site, placed in its module. -/
def placed (site : Site) : PlacedItem := site.spot.placed site.file.place

/-- The module of the file, the inline modules around the item, and the item's own name. -/
def name (site : Site) : QualifiedName :=
  ⟨site.file.place.segments ++ site.spot.modules ++ [site.item.simpleName]⟩

/-- The declaration that the item at a site is described as, if it is marked. -/
def declaration? (scope : Scope) (site : Site) : Option Declaration :=
  site.placed.declaration? scope site.file.path

/-- The type that the item at a site declares, if it declares one. -/
def declaredType? (site : Site) : Option DeclaredType := site.placed.declaredType?

/-- The item at a site is described exactly if it is marked. -/
theorem isSome_declaration?_iff (scope : Scope) (site : Site) :
    (site.declaration? scope).isSome = true ↔ site.item.IsMarked :=
  PlacedItem.isSome_declaration?_iff

/-- A declaration has the name of its site. -/
theorem name_of_declaration? {scope : Scope} {site : Site} {declaration : Declaration}
    (h : site.declaration? scope = some declaration) : declaration.name = site.name :=
  PlacedItem.parent_of_declaration? h

end Site

/-- A struct or an enum. -/
inductive Item.IsType : Item → Prop where
  /-- A struct. -/
  | struct (attributes : List Attribute) (name : Identifier) (fields : Fields) :
      IsType (.struct attributes name fields)
  /-- An enum. -/
  | enum (attributes : List Attribute) (name : Identifier) (generics : Generics)
      (variants : List Variant) : IsType (.enum attributes name generics variants)

namespace Site

/-- A declared type has the name of its site. -/
theorem name_of_declaredType? {site : Site} {declared : DeclaredType}
    (h : site.declaredType? = some declared) : declared.name = site.name := by
  obtain ⟨position, file, address, modules, item⟩ := site
  cases item with
  | struct attributes name fields =>
      obtain rfl := Option.some.inj h
      rfl
  | enum attributes name generics variants =>
      obtain rfl := Option.some.inj h
      rfl
  | _ => cases h

/-- Structs and enums declare types, and nothing else does. -/
theorem isSome_declaredType?_iff (site : Site) :
    site.declaredType?.isSome = true ↔ site.item.IsType := by
  obtain ⟨position, file, address, modules, item⟩ := site
  constructor
  · intro h
    cases item with
    | struct attributes name fields => exact .struct attributes name fields
    | enum attributes name generics variants => exact .enum attributes name generics variants
    | _ => cases h
  · intro h
    change item.IsType at h
    cases h <;> rfl

end Site

namespace Project

variable {project : Project} {site : Site}

/-- A site of a project: the item stands there in the file at that position. -/
def Holds (project : Project) (site : Site) : Prop :=
  project.files[site.position]? = some site.file ∧
    Item.StandsAt site.file.outline.items site.spot.address site.spot.modules site.item

/-- All sites of a project. -/
def sites (project : Project) : List Site :=
  project.files.zipIdx.flatMap fun (file, position) =>
    (Item.spotsFrom 0 file.outline.items).map (Site.mk position file)

/-- All sites of a project are listed. -/
theorem mem_sites : site ∈ project.sites ↔ project.Holds site := by
  obtain ⟨position, file, spot⟩ := site
  rw [sites, List.mem_flatMap]
  constructor
  · rintro ⟨⟨read, index⟩, hread, hmem⟩
    obtain ⟨other, hspot, heq⟩ := List.mem_map.1 hmem
    cases heq
    exact ⟨List.mem_zipIdx_iff_getElem?.1 hread, Item.mem_spotsFrom_zero.1 hspot⟩
  · rintro ⟨hread, hstands⟩
    refine ⟨(file, position), List.mem_zipIdx_iff_getElem?.2 hread, ?_⟩
    exact List.mem_map_of_mem (Item.mem_spotsFrom_zero.2 hstands)

/-- The sites of a project come in the order of their keys. -/
theorem pairwise_sites (project : Project) : project.sites.Pairwise (·.key < ·.key) := by
  rw [sites, List.pairwise_flatMap]
  constructor
  · rintro ⟨file, position⟩ -
    rw [List.pairwise_map]
    refine (Item.pairwise_spotsFrom 0 _).imp ?_
    intro spot later hlt
    exact List.cons_lt_cons_iff.2 (.inr ⟨rfl, hlt⟩)
  · have hpositions : (project.files.zipIdx.map Prod.snd).Pairwise (· < ·) := by
      rw [List.zipIdx_map_snd]
      exact List.pairwise_lt_range'
    refine (List.pairwise_map.1 hpositions).imp ?_
    rintro ⟨file, position⟩ ⟨next, after⟩ hlt site hsite later hlater
    obtain ⟨spot, -, rfl⟩ := List.mem_map.1 hsite
    obtain ⟨other, -, rfl⟩ := List.mem_map.1 hlater
    exact List.cons_lt_cons_iff.2 (.inl hlt)

/-- What is made of the placed items of each file is made of the sites of the project. -/
theorem flatMap_filterMap_placed {α : Type} (project : Project)
    (make : File → PlacedItem → Option α) :
    (project.files.flatMap fun file => file.placed.filterMap (make file)) =
      project.sites.filterMap fun site => make site.file site.placed := by
  rw [sites, List.filterMap_flatMap]
  conv_lhs => rw [← List.zipIdx_map_fst 0 project.files, List.flatMap_map]
  refine List.flatMap_congr fun pair _ => ?_
  rw [File.placed, Item.placedAll_eq _ 0, List.filterMap_map, List.filterMap_map]
  rfl

/-- The declarations of a project are made of its sites. -/
theorem declarations_eq (project : Project) :
    project.declarations = project.sites.filterMap (·.declaration? project.scope) :=
  project.flatMap_filterMap_placed fun file => PlacedItem.declaration? project.scope file.path

/-- The declared types of a project are made of its sites. -/
theorem types_eq (project : Project) :
    project.scope.types = project.sites.filterMap Site.declaredType? := by
  rw [scope, Scope.ofPlaced, placed, List.filterMap_flatMap]
  exact project.flatMap_filterMap_placed fun _ => PlacedItem.declaredType?

/-! ## Lists of sites -/

/-- A list of the sites of a project whose items have some property, in their order and each with
the value that is made of it; these are all the values. -/
structure Lists {α : Type} (project : Project) (good : Item → Prop) (make : Site → Option α)
    (values : List α) (listed : List (Site × α)) : Prop where
  /-- The listed values are all the values, in order. -/
  values_eq : listed.map Prod.snd = values
  /-- The listed sites come in the order of their keys, so none of them twice. -/
  ordered : (listed.map Prod.fst).Pairwise (·.key < ·.key)
  /-- These are the sites whose items have the property. -/
  mem_iff : ∀ site, site ∈ listed.map Prod.fst ↔ project.Holds site ∧ good site.item
  /-- The value of a site is made of it. -/
  make_eq : ∀ site value, (site, value) ∈ listed → make site = some value

/-- What is made of some of the sites can be listed with them. -/
theorem exists_lists {α : Type} {good : Item → Prop} {make : Site → Option α} (project : Project)
    (h : ∀ site, (make site).isSome = true ↔ good site.item) :
    ∃ listed, project.Lists good make (project.sites.filterMap make) listed := by
  let pair (site : Site) : Option (Site × α) := (make site).map fun value => (site, value)
  have hsites : (project.sites.filterMap pair).map Prod.fst =
      project.sites.filter fun site => (make site).isSome := by
    rw [List.map_filterMap, ← List.filterMap_eq_filter]
    congr 1
    funext site
    cases hmake : make site <;> simp [pair, hmake, Option.guard]
  refine ⟨project.sites.filterMap pair, ?_, ?_, ?_, ?_⟩
  · rw [List.map_filterMap]
    congr 1
    funext site
    cases hmake : make site <;> simp [pair, hmake]
  · rw [hsites]
    exact project.pairwise_sites.filter _
  · intro site
    rw [hsites, List.mem_filter, mem_sites, h]
  · intro site value hlisted
    obtain ⟨other, -, hpair⟩ := List.mem_filterMap.1 hlisted
    obtain ⟨made, hmade, heq⟩ := Option.map_eq_some_iff.1 hpair
    cases heq
    exact hmade

/-- Every site that has the property is listed with a value. -/
theorem Lists.exists_mem {α : Type} {good : Item → Prop} {make : Site → Option α}
    {values : List α} {listed : List (Site × α)} (h : project.Lists good make values listed)
    (hsite : project.Holds site) (hgood : good site.item) : ∃ value, (site, value) ∈ listed := by
  obtain ⟨⟨_, value⟩, hmem, rfl⟩ := List.mem_map.1 ((h.mem_iff site).2 ⟨hsite, hgood⟩)
  exact ⟨value, hmem⟩

end Project

/-- The declarations of a project are those of its marked items, at any depth of inline modules, one
for each and in the order of their places, and its declared types are those of its structs and
enums. Both are named by the module of the file, the inline modules and the item's own name, so a
marked struct or enum is declared under the name of its type. A mark in front of an item that is
read is found unless the item is passed over. -/
theorem declarations_of_sites (project : Project) :
    ∃ marked typed,
      project.Lists Item.IsMarked (·.declaration? project.scope) project.declarations marked ∧
      project.Lists Item.IsType Site.declaredType? project.scope.types typed ∧
      (∀ site declaration, (site, declaration) ∈ marked → declaration.name = site.name) ∧
      (∀ site declared, (site, declared) ∈ typed → declared.name = site.name) ∧
      (∀ site declaration, (site, declaration) ∈ marked → site.item.IsType →
        ∃ declared, (site, declared) ∈ typed ∧ declared.name = declaration.name) ∧
      ∀ rules more before item after, (∃ given ∈ more, given.IsMark) →
        itemAfter rules more before = .ok (item, after) → (item.IsMarked ↔ item ≠ .unread) := by
  obtain ⟨marked, hmarked⟩ := project.exists_lists (Site.isSome_declaration?_iff project.scope)
  obtain ⟨typed, htyped⟩ := project.exists_lists Site.isSome_declaredType?_iff
  rw [← Project.declarations_eq] at hmarked
  rw [← Project.types_eq] at htyped
  have hdeclaration : ∀ site declaration, (site, declaration) ∈ marked →
      declaration.name = site.name :=
    fun site declaration hlisted =>
      Site.name_of_declaration? (hmarked.make_eq site declaration hlisted)
  have hdeclared : ∀ site declared, (site, declared) ∈ typed → declared.name = site.name :=
    fun site declared hlisted => Site.name_of_declaredType? (htyped.make_eq site declared hlisted)
  refine ⟨marked, typed, hmarked, htyped, hdeclaration, hdeclared, ?_, ?_⟩
  · intro site declaration hlisted htype
    obtain ⟨hholds, -⟩ := (hmarked.mem_iff site).1 (List.mem_map_of_mem hlisted)
    obtain ⟨declared, hlisted'⟩ := htyped.exists_mem hholds htype
    refine ⟨declared, hlisted', ?_⟩
    rw [hdeclared site declared hlisted', hdeclaration site declaration hlisted]
  · intro rules more before item after hmark hread
    exact Item.isMarked_of_itemAfter hmark hread

/-- A result with a known property is there. -/
theorem exists_ok_of_toOption_map {ε α β : Type} {result : Except ε α} {property : α → β}
    {value : β} (h : result.toOption.map property = some value) :
    ∃ found, result = .ok found ∧ property found = value := by
  cases result with
  | error fault => cases h
  | ok found => exact ⟨found, rfl, Option.some.inj h⟩

/-- An enum that is marked. -/
def markedEnum : Item := .enum [.mark 3] (.plain "Scored" (by decide)) ⟨0, 0⟩ []

/-- An inline module with that enum. -/
def innerModule : Item := .module [] (.plain "inner" (by decide)) [markedEnum]

/-- A file with that module, after a struct. -/
def nestedFile : File :=
  ⟨"src/lib.rs", .root, ⟨[.struct [] (.plain "Board" (by decide)) .none, innerModule]⟩⟩

/-- The enum is all that is declared, under the name of its type. A struct that is read after a mark
is marked, too. -/
theorem declarations_of_nestedFile :
    (∃ (site : Site) (declaration : Declaration) (declared : DeclaredType),
      site.key = [0, 1, 0] ∧ site.item = markedEnum ∧
      (Project.mk [nestedFile]).declarations = [declaration] ∧
      declared ∈ (Project.mk [nestedFile]).scope.types ∧
      declaration.name = ⟨["crate", "inner", "Scored"]⟩ ∧ declared.name = declaration.name) ∧
    ∃ rules before item after,
      itemAfter rules [.mark 1] before = .ok (item, after) ∧ item.word = "struct" ∧
        item.IsMarked := by
  obtain ⟨marked, typed, hmarked, htyped, hname, -, htype, hread⟩ :=
    declarations_of_sites ⟨[nestedFile]⟩
  constructor
  · let site : Site := ⟨0, nestedFile, ⟨[1, 0], ["inner"], markedEnum⟩⟩
    have henum : Item.StandsAt [markedEnum] [0] [] markedEnum := .here rfl
    have hmodule : nestedFile.outline.items[1]? = some innerModule := rfl
    have hholds : (Project.mk [nestedFile]).Holds site := ⟨rfl, .inside hmodule henum⟩
    have hmark : site.item.IsMarked := ⟨.mark 3, List.mem_singleton_self _, _, rfl, rfl⟩
    obtain ⟨declaration, hlisted⟩ := hmarked.exists_mem hholds hmark
    obtain ⟨declared, hlisted', heq⟩ := htype site declaration hlisted (.enum _ _ _ _)
    refine ⟨site, declaration, declared, rfl, rfl, ?_, ?_, hname site declaration hlisted, heq⟩
    · have hmem : declaration ∈ (Project.mk [nestedFile]).declarations :=
        hmarked.values_eq ▸ List.mem_map_of_mem hlisted
      obtain ⟨only, honly⟩ := List.length_eq_one_iff.1
        (show (Project.mk [nestedFile]).declarations.length = 1 from by decide +kernel)
      rw [honly, List.mem_singleton] at hmem
      rw [honly, hmem]
    · exact htyped.values_eq ▸ List.mem_map_of_mem hlisted'
  · let tokens := (Token.ofChars "struct Board;".toList).toOption.getD []
    obtain ⟨⟨item, after⟩, hafter, hword⟩ := exists_ok_of_toOption_map
      (show (itemAfter (parse 8) [.mark 1] ⟨tokens, 1, none⟩).toOption.map (·.1.word) =
        some "struct" from by decide +kernel)
    refine ⟨_, _, item, after, hafter, hword, (hread _ _ _ _ _ ?_ hafter).2 ?_⟩
    · exact ⟨.mark 1, List.mem_singleton_self _, _, rfl, rfl⟩
    · intro hunread
      change item.word = "struct" at hword
      rw [hunread] at hword
      revert hword
      decide

/-- A marked `use` item with a path in braces that begins with `::`. -/
def rootedGroup : String := "#[auto_analytics_event]\nuse \x7b::std::fmt\x7d;"

/-- The same item without the `::`. -/
def plainGroup : String := "#[auto_analytics_event]\nuse \x7bstd::fmt\x7d;"

/-- Both are read as one item, and only one of them is declared. -/
theorem undeclared_of_rootedGroup :
    ∃ outline other,
      Outline.ofSource rootedGroup = .ok outline ∧ Outline.ofSource plainGroup = .ok other ∧
      outline.items.length = 1 ∧ other.items.length = 1 ∧
      (Project.mk [⟨"src/lib.rs", .root, outline⟩]).declarations = [] ∧
      (Project.mk [⟨"src/lib.rs", .root, other⟩]).declarations.map Declaration.name =
        [⟨["crate", "<use>"]⟩] := by
  let listed (outline : Outline) : Nat × List QualifiedName :=
    (outline.items.length,
      (Project.mk [⟨"src/lib.rs", .root, outline⟩]).declarations.map Declaration.name)
  obtain ⟨outline, hread, hlisted⟩ := exists_ok_of_toOption_map
    (show (Outline.ofSource rootedGroup).toOption.map listed = some (1, []) from by decide +kernel)
  obtain ⟨other, hread', hlisted'⟩ := exists_ok_of_toOption_map
    (show (Outline.ofSource plainGroup).toOption.map listed = some (1, [⟨["crate", "<use>"]⟩]) from
      by decide +kernel)
  obtain ⟨hlength, hnames⟩ := Prod.mk.inj hlisted
  obtain ⟨hlength', hnames'⟩ := Prod.mk.inj hlisted'
  exact ⟨outline, other, hread, hread', hlength, hlength', List.map_eq_nil_iff.1 hnames, hnames'⟩

end EventTracking.Code
