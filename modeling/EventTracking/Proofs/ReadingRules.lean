import EventTracking.Grammar.File
import EventTracking.Proofs.Spelling

/-!
# What parsers read

`Reads` says what a parser reads and answers at the head of some tokens, whatever the line on which
the group ends and whatever was left over before. A parser that is made of others reads what these
read one after the other, and a list is read item by item.

Main statements: a parser reads what its steps read in turn (`bind`), a group is read from inside
(`withinThen`), and a list with commas is read item by item (`itemsFrom_cons`).
-/

namespace EventTracking

open Code

/-! ## Names among words -/

/-- A name is none of the keywords. -/
theorem Code.Identifier.isPlain_eq_false {name : Identifier} (h : name.isName = true)
    {word : String} (hword : word ∈ keywords) : name.isPlain word = false := by
  rw [isName, Bool.or_eq_true] at h
  rw [isPlain, Bool.and_eq_false_iff]
  rcases h with hraw | hplain
  · left
    rw [hraw]
    rfl
  · right
    rw [beq_eq_false_iff_ne]
    rintro rfl
    rw [List.contains_iff_mem.2 hword] at hplain
    cases hplain

namespace Grammar

/-! ## Reading -/

/-- A parser reads some tokens, so that others lie ahead after them, and answers a value. -/
def Reads {α : Type} (parser : Parser α) (before after : List Token) (value : α) : Prop :=
  ∀ closing leftover,
    parser ⟨before, closing, leftover⟩ = .ok (value, ⟨after, closing, leftover⟩)

namespace Reads

section

variable {α β : Type} {parser : Parser α} {next : α → Parser β} {before mid after : List Token}
  {value : α} {result : β} {form : Form}

/-- What is read first is read before what is read then. -/
theorem bind (h : Reads parser before mid value) (hnext : Reads (next value) mid after result) :
    Reads (parser >>= next) before after result := by
  intro closing leftover
  change Except.bind (parser _) _ = _
  rw [h]
  exact hnext closing leftover

/-- An answer is given without reading. -/
theorem pure (value : α) (tokens : List Token) : Reads (Pure.pure value) tokens tokens value :=
  fun _ _ => rfl

/-- Looking ahead reads nothing. -/
theorem ahead (tokens : List Token) : Reads ahead tokens tokens tokens := fun _ _ => rfl

/-- Looking for a form reads nothing. -/
theorem sees (form : Form) (tokens : List Token) :
    Reads (sees form) tokens tokens (form.startsAt tokens) := fun _ _ => rfl

/-- Looking for the end of the group reads nothing. -/
theorem atEnd (tokens : List Token) : Reads atEnd tokens tokens tokens.isEmpty := fun _ _ => rfl

/-- A form that lies ahead is read. -/
theorem expect (h : form.startsAt before = true) :
    Reads (expect form) before (before.drop form.width) () := fun _ _ => expect_eq h

/-- A form that lies ahead is read where it may stand. -/
theorem optional_true (h : form.startsAt before = true) :
    Reads (optional form) before (before.drop form.width) true := by
  refine bind (sees form before) ?_
  rw [h]
  exact fun _ _ => rfl

/-- A form that does not lie ahead is not read. -/
theorem optional_false (h : form.startsAt before = false) :
    Reads (optional form) before before false := by
  refine bind (sees form before) ?_
  rw [h]
  exact fun _ _ => rfl

/-- A condition that holds leads to the first branch. -/
theorem ite_true {condition : Bool} {other : Parser α} (hcondition : condition = true)
    (h : Reads parser before after value) :
    Reads (if condition = true then parser else other) before after value := by
  rwa [if_pos hcondition]

/-- A condition that does not hold leads to the second branch. -/
theorem ite_false {condition : Bool} {other : Parser α} (hcondition : condition = false)
    (h : Reads parser before after value) :
    Reads (if condition = true then other else parser) before after value := by
  rwa [if_neg (by rw [hcondition]; decide)]

/-- The line of the next token is found without reading. -/
theorem get_bind {next : Position → Parser β}
    (h : ∀ position, Reads (next position) before after result) :
    Reads (get >>= next) before after result :=
  fun closing leftover => h ⟨before, closing, leftover⟩ closing leftover

end

/-- A parser that begins like another one and goes on reads what both read. -/
theorem of_bind {start : List Token} {parser : Parser β} {inner : Parser α} (next : α → Parser β)
    (h : Reads inner start mid value)
    (hunfold : ∀ closing leftover,
      parser ⟨before, closing, leftover⟩ = (inner >>= next) ⟨start, closing, leftover⟩)
    (hnext : Reads (next value) mid after result) : Reads parser before after result := by
  intro closing leftover
  rw [hunfold]
  exact bind h hnext closing leftover

/-- A word that names something is read where a name is expected. -/
theorem word_name {identifier : Identifier} (h : identifier.isName = true) (line : Nat)
    (rest : List Token) : Reads name (.word identifier line :: rest) rest identifier := by
  refine bind (ahead _) ?_
  exact ite_true h fun _ _ => rfl

/-! ## Groups -/

section

variable {α β : Type} {delimiter : Delimiter} {inner : Parser α} {outer : α → Parser β}
  {tokens rest after : List Token} {value : α} {result : β}

/-- A group is read by what reads all it holds, and then what follows it. -/
theorem withinThen (h : Reads inner tokens [] value)
    (houter : Reads (outer value) rest after result) (line closing : Nat) :
    Reads (withinThen delimiter inner outer) (.group delimiter tokens line closing :: rest) after
      result := by
  intro last leftover
  change (if delimiter = delimiter then _ else _ : Parser β) _ = _
  rw [if_pos rfl]
  change Except.bind (inner ⟨tokens, closing, leftover⟩) _ = _
  rw [h]
  change Except.bind (outer value ⟨rest, last, leftover⟩) _ = _
  rw [houter]
  rfl

/-- A group is read by what reads all it holds. -/
theorem within (h : Reads inner tokens [] value) (line closing : Nat) (rest : List Token) :
    Reads (within delimiter inner) (.group delimiter tokens line closing :: rest) rest value :=
  withinThen h (pure value rest) line closing

end

/-! ## Lists -/

section

variable {α ι : Type} {more : List Token → Bool} {item : Parser α} {phrase : ι → List Piece}
  {value : ι → α} {follows : List Token → Prop}

/-- Items are read one after the other as long as more of them lie ahead. -/
theorem repeatFrom {items : List ι}
    (hmore : ∀ i ∈ items, ∀ line rest, more (Piece.tokensOf line (phrase i) ++ rest) = true)
    (hitem : ∀ i ∈ items, ∀ line rest, follows rest →
      Reads item (Piece.tokensOf line (phrase i) ++ rest) rest (value i))
    (hfollows : ∀ i ∈ items, ∀ line rest, follows (Piece.tokensOf line (phrase i) ++ rest))
    {after : List Token} (hafter : follows after) (hend : more after = false) {fuel : Nat}
    (hfuel : items.length < fuel) (line : Nat) :
    Reads (repeatFrom more item fuel) (Piece.tokensOf line (items.flatMap phrase) ++ after) after
      (items.map value) := by
  induction items generalizing fuel line with
  | nil =>
      obtain ⟨fuel, rfl⟩ := Nat.exists_eq_succ_of_ne_zero (Nat.ne_zero_of_lt hfuel)
      exact bind (ahead _) (ite_false hend (pure _ _))
  | cons first rest ih =>
      obtain ⟨fuel, rfl⟩ := Nat.exists_eq_succ_of_ne_zero (Nat.ne_zero_of_lt hfuel)
      rw [List.forall_mem_cons] at hmore hitem hfollows
      rw [List.flatMap_cons, Piece.tokensOf_append, List.append_assoc]
      refine bind (ahead _) (ite_true (hmore.1 _ _) ?_)
      refine bind (hitem.1 _ _ ?_) (bind (ih hmore.2 hitem.2 hfollows.2 ?_ _) (pure _ _))
      · cases rest with
        | nil => exact hafter
        | cons second others =>
            rw [List.flatMap_cons, Piece.tokensOf_append, List.append_assoc]
            exact (List.forall_mem_cons.1 hfollows.2).1 _ _
      · exact Nat.lt_of_succ_lt_succ hfuel

/-- Nothing is read where no item of a list lies ahead. -/
theorem repeatWhile_none {tokens : List Token} (h : more tokens = false) :
    Reads (repeatWhile more item) tokens tokens [] :=
  bind (ahead _) (bind (ahead _) (ite_false h (pure _ _)))

/-- There are at least as many tokens as items if each item has some. -/
theorem length_le_length_tokensOf {items : List ι}
    (h : ∀ i ∈ items, ∀ line, Piece.tokensOf line (phrase i) ≠ []) (line : Nat) :
    items.length ≤ (Piece.tokensOf line (items.flatMap phrase)).length := by
  induction items generalizing line with
  | nil => exact Nat.zero_le _
  | cons first rest ih =>
      obtain ⟨hfirst, hrest⟩ := List.forall_mem_cons.1 h
      have hpos := List.length_pos_iff.2 (hfirst line)
      rw [List.flatMap_cons, Piece.tokensOf_append, List.length_append, List.length_cons]
      have hle := ih hrest (line + Piece.breaksIn (phrase first))
      omega

/-- A list is read up to where no more of it lies ahead. -/
theorem repeatWhile {items : List ι} (hnil : more [] = false)
    (hmore : ∀ i ∈ items, ∀ line rest, more (Piece.tokensOf line (phrase i) ++ rest) = true)
    (hitem : ∀ i ∈ items, ∀ line rest, follows rest →
      Reads item (Piece.tokensOf line (phrase i) ++ rest) rest (value i))
    (hfollows : ∀ i ∈ items, ∀ line rest, follows (Piece.tokensOf line (phrase i) ++ rest))
    {after : List Token} (hafter : follows after) (hend : more after = false) (line : Nat) :
    Reads (repeatWhile more item) (Piece.tokensOf line (items.flatMap phrase) ++ after) after
      (items.map value) := by
  have hne : ∀ i ∈ items, ∀ line, Piece.tokensOf line (phrase i) ≠ [] := by
    intro i hi line htokens
    have htrue := hmore i hi line []
    rw [htokens, List.append_nil, hnil] at htrue
    cases htrue
  refine bind (ahead _) (repeatFrom hmore hitem hfollows hafter hend ?_ line)
  have hle := length_le_length_tokensOf hne line
  rw [List.length_append]
  omega

end

section

variable {α : Type} {listing : Listing} {item : Parser α} {before mid after : List Token}
  {value : α} {values : List α} {fuel : Nat}

/-- A list ends where no item may begin. -/
theorem itemsFrom_nil (h : listing.ends after = true) :
    Reads (itemsFrom listing item (fuel + 1)) after after [] :=
  bind (ahead _) (ite_true h (pure _ _))

/-- A list may end after an item. -/
theorem itemsFrom_last (hends : listing.ends before = false) (hitem : Reads item before after value)
    (hafter : listing.endsAfter after = true) :
    Reads (itemsFrom listing item (fuel + 1)) before after [value] :=
  bind (ahead _) (ite_false hends (bind hitem (bind (ahead _) (ite_true hafter (pure _ _)))))

/-- A list goes on after a separator. -/
theorem itemsFrom_cons (hends : listing.ends before = false) (hitem : Reads item before mid value)
    (hmid : listing.endsAfter mid = false) (hseparator : listing.separator.startsAt mid = true)
    (hrest : Reads (itemsFrom listing item fuel) (mid.drop listing.separator.width) after values) :
    Reads (itemsFrom listing item (fuel + 1)) before after (value :: values) :=
  bind (ahead _) (ite_false hends (bind hitem (bind (ahead _) (ite_false hmid
    (bind (expect hseparator) (bind hrest (pure _ _)))))))

end

end Reads

end Grammar

end EventTracking
