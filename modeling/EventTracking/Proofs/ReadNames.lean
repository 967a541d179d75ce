import EventTracking.Proofs.ArtifactPieces

/-!
# Names that are read

`Yields` says what every answer of a parser has, wherever the parser stands. Names are read by one
parser, so whatever is built from its answers has names that can be written: variants, enums, inline
modules and what they hold, at any depth. The parsers of items that declare nothing of interest are
followed to their answers alone.

Main statements: the items that are read at any depth of nesting are spelled (`yields_item`), and so
are the items of every source text that makes sense (`isSpelled_of_ofSource`).
-/

namespace EventTracking

open Code Text

namespace Grammar

/-! ## What parsers answer -/

/-- Whatever a parser answers has a property. -/
def Yields {α : Type} (parser : Parser α) (property : α → Prop) : Prop :=
  ∀ ⦃before value after⦄, parser before = .ok (value, after) → property value

namespace Yields

section

variable {α β : Type} {parser other : Parser α} {next : α → Parser β} {property : α → Prop}
  {good : β → Prop} {value : α}

/-- What is answered first may be used for what is answered then. -/
theorem bind (h : Yields parser property)
    (hnext : ∀ value, property value → Yields (next value) good) :
    Yields (parser >>= next) good := by
  intro before result after heq
  change Except.bind (parser before) (fun read => next read.1 read.2) = _ at heq
  cases hread : parser before with
  | error fault =>
      rw [hread] at heq
      cases heq
  | ok read =>
      rw [hread] at heq
      exact hnext read.1 (h hread) heq

/-- What is answered first may not matter. -/
theorem after (hnext : ∀ value, Yields (next value) good) : Yields (parser >>= next) good :=
  bind (fun _ _ _ _ => trivial : Yields parser fun _ => True) fun value _ => hnext value

/-- A given answer has its properties. -/
theorem pure (h : property value) : Yields (Pure.pure value) property := by
  rintro before result after ⟨⟩
  exact h

/-- The answers of both branches have the property. -/
theorem ite {condition : Prop} [Decidable condition] (h : Yields parser property)
    (hother : Yields other property) :
    Yields (if condition then parser else other) property := by
  split
  · exact h
  · exact hother

/-- A parser that stops answers nothing. -/
theorem stop (cause : Cause) : Yields (stop cause) property := by
  rintro before result after ⟨⟩

/-- So does one that stops somewhere else. -/
theorem stopAt (cause : Cause) (line : Nat) : Yields (stopAt cause line) property := by
  rintro before result after ⟨⟩

/-- So does one that stops ahead. -/
theorem wrongAt (tokens : List Token) (forms : List Form) :
    Yields (wrongAt tokens forms) property := after fun _ => stop _

end

/-! ## Groups and lists -/

section

variable {α β : Type} {inner item : Parser α} {outer : α → Parser β} {property : α → Prop}
  {good : β → Prop}

/-- What is answered within a group may be used for what is answered after it. -/
theorem withinThen (delimiter : Delimiter) (h : Yields inner property)
    (houter : ∀ value, property value → Yields (outer value) good) :
    Yields (withinThen delimiter inner outer) good := by
  refine after fun position => ?_
  split
  · refine ite (after fun _ => bind h fun value hvalue => ?_) (stop _)
    refine after fun _ => after fun _ => bind (houter value hvalue) fun result hresult => ?_
    exact after fun _ => pure hresult
  · exact stop _

/-- What is answered within a group is the answer. -/
theorem within (delimiter : Delimiter) (h : Yields inner property) :
    Yields (within delimiter inner) property :=
  withinThen delimiter h fun _ => pure

/-- The items of a list have what each item has. -/
theorem itemsFrom (listing : Listing) (h : Yields item property) (fuel : Nat) :
    Yields (itemsFrom listing item fuel) fun values => ∀ value ∈ values, property value := by
  have hnil : ∀ value ∈ ([] : List α), property value := fun _ hmem => by cases hmem
  induction fuel with
  | zero => exact pure hnil
  | succ fuel ih =>
      refine after fun _ => ite (pure hnil) (bind h fun first hfirst => after fun _ => ?_)
      refine ite (pure (List.forall_mem_singleton.2 hfirst)) (after fun _ => ?_)
      exact bind ih fun others hothers => pure (List.forall_mem_cons.2 ⟨hfirst, hothers⟩)

/-- The items between commas have what each item has. -/
theorem commaSeparated (h : Yields item property) :
    Yields (commaSeparated item) fun values => ∀ value ∈ values, property value :=
  after fun _ => itemsFrom _ h _

/-- The items of a group have what each item has. -/
theorem toEnd (h : Yields item property) :
    Yields (toEnd item) fun values => ∀ value ∈ values, property value := by
  have hnil : ∀ value ∈ ([] : List α), property value := fun _ hmem => by cases hmem
  have hrepeat (fuel : Nat) : Yields (repeatFrom (fun tokens => !tokens.isEmpty) item fuel)
      fun values => ∀ value ∈ values, property value := by
    induction fuel with
    | zero => exact pure hnil
    | succ fuel ih =>
        refine after fun _ => ite (bind h fun first hfirst => ?_) (pure hnil)
        exact bind ih fun others hothers => pure (List.forall_mem_cons.2 ⟨hfirst, hothers⟩)
  exact after fun _ => hrepeat _

end

end Yields

/-! ## Names -/

/-- A name can be written. -/
theorem isWritable_text {identifier : Identifier} (h : identifier.isName = true) :
    IsWritable identifier.text := by
  rw [Identifier.isName, Bool.or_eq_true] at h
  rcases h with hraw | hplain
  · exact ⟨identifier.isWord_text, identifier.hasRawForm hraw⟩
  · apply isWritable_of_notMem_keywords identifier.isWord_text
    intro hmem
    rw [List.contains_iff_mem.2 hmem] at hplain
    cases hplain

/-- What is read as a name can be written. -/
theorem yields_name : Yields name fun identifier => IsWritable identifier.text := by
  refine .after fun tokens => ?_
  split
  · rename_i identifier _ _
    intro before result after heq
    split at heq
    · rename_i hname
      cases heq
      exact isWritable_text hname
    · cases heq
  · exact .stop _

/-- A word that lies ahead is read as such. -/
theorem text_of_anyWord {text : String} {before after : Position} {identifier : Identifier}
    (h : (Form.word text).startsAt before.tokens = true)
    (hread : anyWord before = .ok (identifier, after)) : identifier.text = text := by
  obtain ⟨tokens, closing, leftover⟩ := before
  cases tokens with
  | nil => cases h
  | cons token rest =>
      cases token with
      | word found line =>
          have hplain : found.isPlain text = true := h
          rw [Identifier.isPlain, Bool.and_eq_true, beq_iff_eq] at hplain
          cases hread
          exact hplain.2
      | _ => cases h

/-- A name can be written, and so can a word that is read in its place. -/
theorem yields_wordOrName {β : Type} {text : String} {next : Bool → Identifier → Parser β}
    {property : Identifier → Prop} {good : β → Prop}
    (hword : ∀ identifier : Identifier, identifier.text = text → property identifier)
    (hname : ∀ identifier : Identifier, IsWritable identifier.text → property identifier)
    (hnext : ∀ here identifier, property identifier → Yields (next here identifier) good) :
    Yields (do
      let here ← sees (.word text)
      if here then do
        let identifier ← anyWord
        next here identifier
      else do
        let identifier ← name
        next here identifier) good := by
  intro before value after heq
  change (if (Form.word text).startsAt before.tokens = true then
      anyWord >>= next ((Form.word text).startsAt before.tokens)
    else name >>= next ((Form.word text).startsAt before.tokens)) before = _ at heq
  split at heq
  · rename_i hhere
    change Except.bind (anyWord before) (fun read => next _ read.1 read.2) = _ at heq
    cases hread : anyWord before with
    | error fault =>
        rw [hread] at heq
        cases heq
    | ok read =>
        rw [hread] at heq
        exact hnext _ read.1 (hword read.1 (text_of_anyWord hhere hread)) heq
  · have hread := yields_name.bind fun identifier hidentifier =>
      hnext ((Form.word text).startsAt before.tokens) identifier (hname identifier hidentifier)
    exact hread heq

end Grammar

/-! ## Spelled items -/

/-- Fields whose names can be written, blanks apart. -/
def Code.Fields.IsSpelled (fields : Fields) : Prop :=
  ∀ names, fields = .named names →
    ∀ name : Identifier, name ∈ names → name.text = "_" ∨ IsWritable name.text

/-- What is declared by an item can be written. -/
def Code.Item.Spells : Item → Prop
  | .enum _ name _ variants =>
    IsWritable name.text ∧ ∀ variant ∈ variants, IsWritable variant.name.text ∧
      variant.fields.IsSpelled
  | .struct _ _ fields => fields.IsSpelled
  | .module _ name _ => IsWritable name.text
  | _ => True

/-- What stands in a module, be it inside inline modules, declares what can be written, and so are
the names of these modules. -/
structure Code.PlacedItem.IsSpelled (place : QualifiedName) (placed : PlacedItem) : Prop where
  /-- What the item declares can be written. -/
  item : placed.item.Spells
  /-- The item stands in the module or in one inside it whose names can be written. -/
  inside : ∃ names : List String, placed.place.segments = place.segments ++ names ∧
    ∀ name ∈ names, IsWritable name

/-- What stands in a module itself stands in no inline module. -/
theorem Code.PlacedItem.IsSpelled.here {place : QualifiedName} {item : Item} (h : item.Spells) :
    (⟨place, item⟩ : PlacedItem).IsSpelled place :=
  ⟨h, [], (List.append_nil _).symm, List.forall_mem_nil _⟩

/-- An item in which everything is spelled that stands in it, wherever it stands. -/
def Code.Item.IsSpelled (item : Item) : Prop :=
  ∀ place : QualifiedName, ∀ placed ∈ item.placed place, placed.IsSpelled place

namespace Code.Item

/-- An item that holds no items is spelled if what it declares can be written. -/
theorem IsSpelled.of_placed {item : Item} (hplaced : ∀ place, item.placed place = [⟨place, item⟩])
    (h : item.Spells) : item.IsSpelled := by
  intro place placed hmem
  rw [hplaced, List.mem_singleton] at hmem
  rw [hmem]
  exact .here h

/-- The items of a list are spelled wherever they stand if each of them is. -/
theorem isSpelled_of_mem_placedAll {items : List Item} (h : ∀ item ∈ items, item.IsSpelled)
    {place : QualifiedName} {placed : PlacedItem} (hmem : placed ∈ Item.placedAll place items) :
    placed.IsSpelled place := by
  obtain ⟨item, hitem, hplaced⟩ := mem_placedAll.1 hmem
  exact h item hitem place placed hplaced

/-- A module is spelled if its name can be written and its items are spelled. -/
theorem IsSpelled.module {attributes : List Attribute} {name : Identifier} {items : List Item}
    (hname : IsWritable name.text) (h : ∀ item ∈ items, item.IsSpelled) :
    (Item.module attributes name items).IsSpelled := by
  intro place placed hmem
  rw [Item.placed, List.mem_cons] at hmem
  rcases hmem with rfl | hmem
  · exact .here hname
  · obtain ⟨hitem, names, hplace, hnames⟩ := isSpelled_of_mem_placedAll h hmem
    refine ⟨hitem, name.text :: names, ?_, List.forall_mem_cons.2 ⟨hname, hnames⟩⟩
    rw [hplace, QualifiedName.segments_child, List.append_assoc, List.singleton_append]

/-- An import declares nothing. -/
theorem isSpelled_use (attributes : List Attribute) (rooted : Bool) (tree : UseTree) :
    (Item.use attributes rooted tree).IsSpelled := .of_placed (fun _ => rfl) trivial

/-- Other items declare nothing. -/
theorem isSpelled_named (attributes : List Attribute) (kind : NamedKind) (name : Identifier) :
    (Item.named attributes kind name).IsSpelled := .of_placed (fun _ => rfl) trivial

/-- Items without a name declare nothing. -/
theorem isSpelled_unnamed (attributes : List Attribute) (kind : UnnamedKind) :
    (Item.unnamed attributes kind).IsSpelled := .of_placed (fun _ => rfl) trivial

/-- Items that are passed over declare nothing. -/
theorem isSpelled_unread : Item.unread.IsSpelled := .of_placed (fun _ => rfl) trivial

/-- An item is spelled whatever its attributes are. -/
theorem IsSpelled.withAttributes {item : Item} (h : item.IsSpelled) (more : List Attribute) :
    (item.withAttributes more).IsSpelled := by
  cases item with
  | module attributes name items =>
      intro place placed hmem
      rw [Item.withAttributes, Item.placed, List.mem_cons] at hmem
      rcases hmem with rfl | hmem
      · exact .here (h place _ List.mem_cons_self).item
      · exact h place placed (List.mem_cons_of_mem _ hmem)
  | enum => exact .of_placed (fun _ => rfl) (h .root _ (List.mem_singleton_self _)).item
  | struct => exact .of_placed (fun _ => rfl) (h .root _ (List.mem_singleton_self _)).item
  | use => exact isSpelled_use _ _ _
  | named => exact isSpelled_named _ _ _
  | unnamed => exact isSpelled_unnamed _ _
  | unread => exact isSpelled_unread

end Code.Item

namespace Grammar

open Item

variable {rules : Rules}

/-! ## Items that declare nothing -/

/-- An import is spelled. -/
theorem yields_useItem : Yields (useItem rules) IsSpelled := by
  refine .after fun _ => .after fun _ => .after fun _ => .after fun _ => .after fun _ => ?_
  split
  · exact .pure (isSpelled_use _ _ _)
  · exact .pure isSpelled_unread

/-- A function is spelled. -/
theorem yields_functionItem : Yields (functionItem rules) IsSpelled :=
  .after fun _ => .after fun _ => .after fun _ => .ite (.pure isSpelled_unread)
    (.after fun _ => .pure (isSpelled_named _ _ _))

/-- A macro call is spelled. -/
theorem yields_macroCallItem : Yields macroCallItem IsSpelled := by
  refine .after fun _ => .after fun _ => .after fun _ => ?_
  extract_lets ending
  have hending : ∀ identifier, Yields (ending identifier) IsSpelled := by
    intro identifier
    refine .after fun _ => ?_
    cases identifier with
    | none => exact .pure (isSpelled_unnamed _ _)
    | some identifier => exact .pure (isSpelled_named _ _ _)
  exact .ite (.after fun _ => .after fun _ => hending _) (.after fun _ => hending _)

/-- The definition of a macro is spelled. -/
theorem yields_macroDefinition : Yields macroDefinition IsSpelled := by
  refine .after fun _ => .after fun _ => .after fun _ => .after fun _ => ?_
  extract_lets ending
  have hending : Yields (ending ()) IsSpelled :=
    .after fun _ => .ite (.after fun _ => .pure isSpelled_unread) (.stop _)
  exact .ite (.after fun _ => hending) hending

/-- A constant is spelled. -/
theorem yields_constantItem : Yields (constantItem rules) IsSpelled :=
  .after fun _ => .after fun _ => .after fun _ => .after fun _ =>
    .ite (.pure (isSpelled_named _ _ _)) (.pure isSpelled_unread)

/-- A static variable is spelled. -/
theorem yields_staticItem : Yields (staticItem rules) IsSpelled := by
  refine .after fun _ => .after fun _ => .after fun _ => .after fun _ => .after fun _ => ?_
  refine .ite (.after fun _ => .after fun _ => .pure isSpelled_unread) ?_
  refine .after fun _ => .after fun _ => .after fun _ => .ite (.pure isSpelled_unread) ?_
  exact .after fun _ => .after fun _ => .after fun _ => .pure (isSpelled_named _ _ _)

/-- A type alias is spelled. -/
theorem yields_aliasItem : Yields (aliasItem rules) IsSpelled := by
  refine .after fun read => .pure ?_
  split
  · exact isSpelled_named _ _ _
  · exact isSpelled_unread

/-- A union is spelled. -/
theorem yields_unionItem : Yields (unionItem rules) IsSpelled :=
  .after fun _ => .after fun _ => .after fun _ => .after fun _ => .after fun _ => .after fun _ =>
    .pure (isSpelled_named _ _ _)

/-- What follows the parameters of a trait makes it a spelled item. -/
theorem yields_traitRest (identifier : Identifier) :
    Yields (traitRest rules identifier) IsSpelled := by
  refine .after fun _ => ?_
  extract_lets ending
  have hending : Yields (ending ()) IsSpelled :=
    .after fun _ => .after fun _ => .pure (isSpelled_named _ _ _)
  exact .ite (.after fun _ => .after fun _ => hending) hending

/-- A trait that may be unsafe or automatic is spelled. -/
theorem yields_traitItem : Yields (traitItem rules) IsSpelled :=
  .after fun _ => .after fun _ => .after fun _ => .after fun _ => .after fun _ => .after fun _ =>
    yields_traitRest _

/-- A trait or a trait alias is spelled. -/
theorem yields_traitOrAliasItem : Yields (traitOrAliasItem rules) IsSpelled := by
  have halias (identifier : Identifier) : Yields (traitAliasRest rules identifier) IsSpelled :=
    .after fun _ => .after fun _ => .after fun _ => .after fun _ => .after fun _ =>
      .pure (isSpelled_named _ _ _)
  refine .after fun _ => .after fun _ => .after fun _ => .after fun _ => .after fun _ => ?_
  exact .ite (yields_traitRest _) (.ite (halias _) (.stop _))

/-- An external crate is spelled. -/
theorem yields_externCrateItem : Yields externCrateItem IsSpelled := by
  refine .after fun _ => .after fun _ => .after fun _ => .after fun _ => ?_
  extract_lets ending
  have hending : ∀ identifier, Yields (ending identifier) IsSpelled := by
    intro identifier
    refine .after fun _ => ?_
    extract_lets final
    have hfinal : Yields (final ()) IsSpelled := .after fun _ => .pure (isSpelled_named _ _ _)
    exact .ite (.after fun _ => .ite (.after fun _ => hfinal) (.after fun _ => hfinal)) hfinal
  exact .ite (.after fun _ => hending _) (.after fun _ => hending _)

/-- An external block is spelled. -/
theorem yields_externBlockItem : Yields (externBlockItem rules) IsSpelled :=
  .after fun _ => .after fun _ => .after fun _ => .after fun _ => .pure (isSpelled_unnamed _ _)

/-- What begins with the word `extern` is spelled. -/
theorem yields_externItem (tokens : List Token) : Yields (externItem rules tokens) IsSpelled :=
  .ite yields_externCrateItem (.ite yields_externBlockItem
    (.ite (.ite yields_externBlockItem (.wrongAt _ _)) (.wrongAt _ _)))

/-- An implementation is spelled. -/
theorem yields_implementationItem : Yields (implementationItem rules) IsSpelled := by
  refine .after fun _ => .after fun _ => .after fun _ => .after fun _ => .after fun _ => ?_
  extract_lets parameters
  have hparameters : Yields (parameters ()) IsSpelled := by
    refine .after fun tokens => ?_
    extract_lets constant negation
    have hnegation : Yields (negation ()) IsSpelled := by
      refine .after fun tokens => ?_
      extract_lets negative
      refine .after fun position => ?_
      extract_lets line types
      have htypes : Yields (types ()) IsSpelled := by
        refine .after fun _ => .after fun _ => ?_
        extract_lets isPath ending
        have hending : Yields (ending ()) IsSpelled :=
          .after fun _ => .after fun _ =>
            .ite (.pure isSpelled_unread) (.pure (isSpelled_unnamed _ _))
        exact .ite (.after fun _ => hending) (.ite (.after fun _ => hending) hending)
      exact .ite (.after fun _ => htypes) htypes
    exact .ite (.after fun _ => .after fun _ => hnegation) hnegation
  exact .ite (.after fun _ => hparameters) hparameters

/-! ## Items that declare something -/

/-- The name of a field is a blank or can be written. -/
theorem yields_namedFieldFrom (fuel : Nat) :
    Yields (namedFieldFrom rules fuel) fun name => name.text = "_" ∨ IsWritable name.text := by
  cases fuel with
  | zero => exact .stop _
  | succ fuel =>
      refine .after fun _ => .after fun _ => ?_
      refine yields_wordOrName (fun _ => Or.inl) (fun _ => Or.inr) fun blank identifier hname => ?_
      refine .after fun _ => .after fun tokens => ?_
      extract_lets ending
      have hending : Yields (ending ()) fun name => name.text = "_" ∨ IsWritable name.text :=
        .pure hname
      exact .ite (.after fun _ => .after fun _ => hending) (.after fun _ => hending)

/-- Fields in braces can be written. -/
theorem yields_namedFields :
    Yields (namedFields rules) fun names => (Fields.named names).IsSpelled := by
  have hnames : Yields (namedFields rules) fun names =>
      ∀ name ∈ names, name.text = "_" ∨ IsWritable name.text :=
    .within _ (.commaSeparated (yields_namedFieldFrom _))
  intro before names after heq listed hlisted
  cases hlisted
  exact hnames heq

/-- No fields can be written. -/
theorem isSpelled_none : Fields.none.IsSpelled := by rintro names ⟨⟩

/-- Fields in parentheses have no names. -/
theorem isSpelled_positional (types : List WrittenType) : (Fields.positional types).IsSpelled := by
  rintro names ⟨⟩

/-- The fields of a struct can be written. -/
theorem yields_structRest : Yields (structRest rules) Fields.IsSpelled := by
  refine .after fun _ => .after fun _ => .ite ?_ (.ite ?_ (.after fun _ => ?_))
  · refine .after fun _ => .after fun _ => .after fun _ => .ite ?_ (.stop _)
    exact .pure (isSpelled_positional _)
  · exact .bind yields_namedFields fun _ => .pure
  · exact .ite (.pure isSpelled_none) (.ite (.stop _) (.stop _))

/-- A struct is spelled. -/
theorem yields_structItem : Yields (structItem rules) IsSpelled := by
  refine .after fun _ => .after fun _ => .after fun _ => .after fun _ => ?_
  exact .bind yields_structRest fun _ hfields => .pure (.of_placed (fun _ => rfl) hfields)

/-- The name of a variant and its fields can be written. -/
theorem yields_variant : Yields (variant rules) fun variant =>
    IsWritable variant.name.text ∧ variant.fields.IsSpelled := by
  refine .after fun _ => .after fun _ => .bind yields_name fun identifier hname => ?_
  refine .after fun tokens => ?_
  extract_lets ending
  have hending (fields : Fields) (h : fields.IsSpelled) : Yields (ending fields) fun variant =>
      IsWritable variant.name.text ∧ variant.fields.IsSpelled :=
    .after fun _ => .pure ⟨hname, h⟩
  refine .ite (.bind yields_namedFields fun names hnames => hending _ hnames) ?_
  exact .ite (.after fun types => hending _ (isSpelled_positional types)) (hending _ isSpelled_none)

/-- An enum is spelled. -/
theorem yields_enumItem : Yields (enumItem rules) IsSpelled := by
  refine .after fun _ => .after fun _ => .bind yields_name fun identifier hname => ?_
  refine .after fun _ => .after fun _ => ?_
  refine .bind (.within _ (.commaSeparated yields_variant)) fun variants hvariants => ?_
  exact .pure (.of_placed (fun _ => rfl) ⟨hname, hvariants⟩)

/-! ## Items that hold items -/

/-- A module is spelled if its items are. -/
theorem yields_moduleItem (h : Yields (rules .item) IsSpelled) :
    Yields (moduleItem rules) IsSpelled := by
  have htry (identifier : Identifier) (htext : identifier.text = "try") :
      IsWritable identifier.text := by
    rw [htext]
    decide
  refine .after fun _ => .after fun _ => .after fun _ => ?_
  refine yields_wordOrName htry (fun _ => id) fun _ identifier hname => .after fun _ => ?_
  refine .ite (.pure (.module hname fun _ hmem => by cases hmem)) ?_
  refine .after fun _ => .ite ?_ (.stop _)
  refine .within _ (.after fun _ => .bind (.toEnd h) fun items hitems => ?_)
  exact .pure (.module hname hitems)

/-- An item without its attributes is spelled if the items in it are. -/
theorem yields_plainItem (h : Yields (rules .item) IsSpelled) :
    Yields (plainItem rules) IsSpelled := by
  have hrisky (tokens : List Token) : Yields (unsafeItem rules tokens) IsSpelled :=
    .ite yields_traitItem (.ite yields_implementationItem (.ite yields_externBlockItem
      (.ite (yields_moduleItem h) (.wrongAt _ _))))
  refine .after fun given => .ite yields_functionItem (.ite (yields_externItem _) ?_)
  refine .ite yields_useItem (.ite yields_staticItem (.ite yields_constantItem ?_))
  refine .ite (hrisky _) (.ite (yields_moduleItem h) (.ite yields_aliasItem ?_))
  refine .ite yields_structItem (.ite yields_enumItem (.ite yields_unionItem ?_))
  refine .ite yields_traitOrAliasItem (.ite yields_traitItem (.ite yields_implementationItem ?_))
  refine .ite yields_macroDefinition (.ite (.wrongAt _ _) ?_)
  exact .ite yields_macroCallItem (.stop _)

/-- At every depth the items that are read are spelled. -/
theorem yields_item (depth : Nat) : Yields (parse depth .item) IsSpelled := by
  induction depth with
  | zero => exact .stop _
  | succ depth ih =>
      exact .after fun _ => .bind (yields_plainItem ih) fun item hitem =>
        .pure (hitem.withAttributes _)

/-- The items of a file are spelled. -/
theorem yields_file (depth : Nat) :
    Yields (file (parse depth)) fun items => ∀ item ∈ items, item.IsSpelled :=
  .after fun _ => .toEnd (yields_item depth)

end Grammar

/-- The items of a source text are spelled. -/
theorem Code.Outline.isSpelled_of_ofSource {source : String} {outline : Outline}
    (h : Outline.ofSource source = .ok outline) : ∀ item ∈ outline.items, item.IsSpelled := by
  rw [ofSource] at h
  split at h
  · cases h
  · rw [ofTokens] at h
    split at h
    · cases h
    · rename_i items position hread
      split at h
      · cases h
      · cases h
        exact Grammar.yields_file _ hread

end EventTracking
