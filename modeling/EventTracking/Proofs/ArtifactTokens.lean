import EventTracking.Proofs.ArtifactPieces

/-!
# Tokens of artifacts

The pieces of an artifact fit together, whatever its names are: every word is followed by a blank, a
mark or a delimiter, and no mark is followed by another one unless it says so. Each phrase fits to
what stands behind it, and a phrase on a line of its own fits everywhere, so that arms and entries
may follow each other in any number.

Main statements: the pieces of an artifact fit together (`fitAll_phrase`), so that the artifact has
their tokens (`ofChars_contents`).
-/

namespace EventTracking

open Code Text Line

/-! ## Phrases that fit -/

/-- A character that is neither in the texts nor in the separator is not in the joined text. -/
theorem notMem_intercalate {c : Char} {separator : String} {texts : List String}
    (hs : c ∉ separator.toList) (ht : ∀ text ∈ texts, c ∉ text.toList) :
    c ∉ (separator.intercalate texts).toList := by
  induction texts with
  | nil => exact List.not_mem_nil
  | cons first rest ih =>
      obtain ⟨hfirst, hrest⟩ := List.forall_mem_cons.1 ht
      cases rest with
      | nil =>
          rw [String.intercalate_singleton]
          exact hfirst
      | cons second others =>
          rw [String.intercalate_cons_cons, String.toList_append, String.toList_append,
            List.mem_append, List.mem_append, not_or, not_or]
          exact ⟨⟨hfirst, hs⟩, ih hrest⟩

namespace Code.Piece

/-- A piece that fits comes before pieces that do. -/
theorem fitAll_cons {piece : Piece} {rest : List Piece} {after : List Char}
    (hpiece : piece.fits (textOf rest ++ after) = true) (hrest : fitAll rest after = true) :
    fitAll (piece :: rest) after = true := by
  rw [fitAll, hpiece, hrest]
  rfl

/-- Pieces fit one after the other. -/
theorem fitAll_both {pieces more : List Piece} {after : List Char}
    (hpieces : fitAll pieces (textOf more ++ after) = true) (hmore : fitAll more after = true) :
    fitAll (pieces ++ more) after = true := by
  rw [fitAll_append, hpieces, hmore]
  rfl

/-- Listed phrases fit if each of them fits to what may follow a word. -/
theorem fitAll_listed {phrases : List (List Piece)}
    (h : ∀ phrase ∈ phrases, ∀ after, endsWord after = true → fitAll phrase after = true)
    {after : List Char} (hafter : endsWord after = true) :
    fitAll (listed phrases) after = true := by
  induction phrases with
  | nil => rfl
  | cons first rest ih =>
      obtain ⟨hfirst, hrest⟩ := List.forall_mem_cons.1 h
      cases rest with
      | nil =>
          rw [listed, List.intercalate_singleton]
          exact hfirst after hafter
      | cons second others =>
          rw [listed, List.intercalate_cons_cons, ← listed, fitAll_append, fitAll_append,
            ih hrest, hfirst _ rfl]
          rfl

/-- Indentation fits everywhere. -/
theorem fits_indent (depth : Nat) (after : List Char) : (indent depth).fits after = true := by
  rw [indent, fits, List.all_eq_true]
  intro c hc
  rw [eq_space_of_mem_indentation hc]
  rfl

/-- A phrase fits on a line if it fits to a line break. -/
theorem fitAll_line (depth : Nat) (phrase : List Piece) (after : List Char) :
    fitAll (line depth phrase) after = fitAll phrase ('\n' :: after) := by
  rw [line, fitAll, fits_indent, Bool.true_and, fitAll_append]
  exact Bool.and_true _

/-- The arguments of a type fit to a closing parenthesis, and the path of the type to them. -/
theorem fitAll_lifetimeArguments (count : Nat) (after : List Char) :
    fitAll (lifetimeArguments count) (')' :: after) = true ∧
      endsWord (textOf (lifetimeArguments count) ++ ')' :: after) = true := by
  cases count with
  | zero => exact ⟨rfl, rfl⟩
  | succ count =>
      refine ⟨fitAll_cons ?_ (fitAll_both (fitAll_listed ?_ rfl) rfl), rfl⟩
      · cases count <;> rfl
      · intro phrase hphrase after hafter
        rw [(List.mem_replicate.1 hphrase).2]
        exact fitAll_cons hafter rfl

/-- The path of a group fits to what may follow a word. -/
theorem fitAll_path (names : List Identifier) {after : List Char} (h : endsWord after = true) :
    fitAll (path names) after = true := by
  have hends : endsWord (textOf (rooted names) ++ after) = true := by
    cases names with
    | nil => exact h
    | cons => rfl
  rw [path, fitAll, fitAll_rooted names h, Bool.and_true]
  exact hends

/-- A group fits everywhere if what it holds fits to its end and begins with no slash. -/
theorem fits_group {delimiter : Delimiter} {inner : List Piece} {after : List Char}
    (hhead : (textOf inner).head? ≠ some '/')
    (hinner : ∀ after, fitAll inner (delimiter.closingSign :: after) = true) :
    (group delimiter inner).fits after = true := by
  rw [fits, hinner, Bool.and_true, bne_iff_ne]
  cases htext : textOf inner with
  | nil => cases delimiter <;> decide
  | cons c rest =>
      rw [htext] at hhead
      exact hhead

/-- A mark that stands alone fits before a word. -/
theorem fits_mark {c : Char} (h : plainMarks.contains c = true) (identifier : Identifier)
    (rest : List Piece) (after : List Char) :
    (mark c false).fits (textOf (.word identifier :: rest) ++ after) = true := by
  rw [fits, h, textOf, text, List.append_assoc, beginsMark_written]
  rfl

/-- No word begins with a slash. -/
theorem head?_word_ne (identifier : Identifier) (rest : List Piece) :
    (textOf (.word identifier :: rest)).head? ≠ some '/' := by
  obtain ⟨c, more, htext, hc⟩ := identifier.exists_cons_written
  rw [textOf, text, htext]
  rintro hhead
  obtain rfl := Option.some.inj hhead
  cases hc

/-- Phrases that end in line breaks fit one after the other. -/
theorem fitAll_flatMap {α : Type} {items : List α} {phrase : α → List Piece}
    (h : ∀ item ∈ items, ∀ after, fitAll (phrase item) after = true) (after : List Char) :
    fitAll (items.flatMap phrase) after = true := by
  induction items with
  | nil => rfl
  | cons first rest ih =>
      obtain ⟨hfirst, hrest⟩ := List.forall_mem_cons.1 h
      rw [List.flatMap_cons]
      exact fitAll_both (hfirst _) (ih hrest)

/-- A comment fits to the end of its line. -/
theorem fits_comment {content : String} (hbreak : '\n' ∉ content.toList)
    (hhead : content.toList.head? = some ' ') (after : List Char) :
    (comment content).fits ('\n' :: after) = true := by
  rw [fits, hhead, Bool.eq_false_iff.2 fun h => hbreak (List.contains_iff_mem.1 h)]
  rfl

/-- Documentation fits to the end of its line. -/
theorem fits_documentation {content : String} (hbreak : '\n' ∉ content.toList)
    (hreturn : '\r' ∉ content.toList) (hhead : content.toList.head? = some ' ')
    (after : List Char) : (documentation content).fits ('\n' :: after) = true := by
  rw [fits, hhead, Bool.eq_false_iff.2 fun h => hbreak (List.contains_iff_mem.1 h),
    Bool.eq_false_iff.2 fun h => hreturn (List.contains_iff_mem.1 h)]
  rfl

/-- The tokens of listed phrases are those of the first one, a comma and those of the others. -/
theorem tokensOf_listed_cons_cons (line : Nat) (first second : List Piece)
    (others : List (List Piece)) :
    tokensOf line (listed (first :: second :: others)) =
      tokensOf line first ++ .mark ',' false (line + breaksIn first) ::
        tokensOf (line + breaksIn first) (listed (second :: others)) := by
  rw [listed, List.intercalate_cons_cons, ← listed, tokensOf_append, tokensOf_append,
    List.append_assoc, breaksIn_append]
  rfl

/-- Listed phrases have at least as many tokens as there are phrases if none of them is empty. -/
theorem length_le_length_listed {phrases : List (List Piece)}
    (h : ∀ phrase ∈ phrases, ∀ line, tokensOf line phrase ≠ []) (line : Nat) :
    phrases.length ≤ (tokensOf line (listed phrases)).length := by
  induction phrases generalizing line with
  | nil => exact Nat.zero_le _
  | cons first rest ih =>
      obtain ⟨hfirst, hrest⟩ := List.forall_mem_cons.1 h
      have hpos := List.length_pos_iff.2 (hfirst line)
      cases rest with
      | nil =>
          rw [listed, List.intercalate_singleton]
          exact hpos
      | cons second others =>
          have hle := ih hrest (line + breaksIn first)
          rw [tokensOf_listed_cons_cons, List.length_append]
          rw [List.length_cons] at hle ⊢
          rw [List.length_cons, List.length_cons]
          omega

end Code.Piece

/-! ## Arms -/

namespace Event

open Piece

variable (event : Event)

/-- A field in a pattern fits to what may follow a word. -/
theorem fitAll_fieldPhrase (field : String) {after : List Char} (h : endsWord after = true) :
    fitAll (event.fieldPhrase field) after = true := by
  unfold fieldPhrase
  split
  · exact fitAll_cons rfl (fitAll_cons rfl (fitAll_cons rfl (fitAll_cons h rfl)))
  · exact fitAll_cons h rfl

/-- What stands behind the path of the variant fits to a blank, and the path fits to it. -/
theorem fitAll_patternPhrase (after : List Char) :
    fitAll event.patternPhrase (' ' :: after) = true ∧
      endsWord (textOf event.patternPhrase ++ ' ' :: after) = true := by
  unfold patternPhrase
  split
  · exact ⟨rfl, rfl⟩
  · exact ⟨rfl, rfl⟩
  · refine ⟨fitAll_cons rfl (fitAll_cons (fits_group (fun h => by cases h) ?_) rfl), rfl⟩
    intro after
    refine fitAll_cons rfl (fitAll_both (fitAll_listed ?_ rfl) rfl)
    intro phrase hphrase after hafter
    obtain ⟨field, -, rfl⟩ := List.mem_map.1 hphrase
    exact event.fitAll_fieldPhrase field hafter
  · exact ⟨rfl, rfl⟩
  · exact ⟨rfl, rfl⟩
  · exact ⟨rfl, rfl⟩

/-- The value of a field fits to what may follow a word. -/
theorem fitAll_valuePhrase (field : String) {after : List Char} (h : endsWord after = true) :
    fitAll (event.valuePhrase field) after = true := by
  have hword (name : Identifier) : fitAll [.word name] after = true := fitAll_cons h rfl
  unfold valuePhrase
  split
  · exact fitAll_cons rfl (fitAll_cons rfl (fitAll_cons (fits_mark rfl _ _ _) (hword _)))
  · exact hword _

/-- The value of a field begins with no slash. -/
theorem head?_valuePhrase_ne (field : String) :
    (textOf (event.valuePhrase field)).head? ≠ some '/' := by
  unfold valuePhrase
  split
  · exact fun h => by cases h
  · exact head?_word_ne _ _

/-- The entry of a field fits on a line. -/
theorem fitAll_entryPhrase (field : String) (after : List Char) :
    fitAll (event.entryPhrase field) ('\n' :: after) = true := by
  refine fitAll_cons (fits_group ?_ ?_) rfl
  · simp [pairPhrase, textOf, Piece.text, quote]
  · intro after
    refine fitAll_both rfl (fitAll_both (fitAll_rooted _ rfl) (fitAll_cons ?_ rfl))
    exact fits_group (event.head?_valuePhrase_ne field) fun _ => event.fitAll_valuePhrase field rfl

/-- The value of the payload fits to the semicolon behind it. -/
theorem fitAll_payloadPhrase (after : List Char) :
    fitAll event.payloadPhrase (';' :: after) = true := by
  unfold payloadPhrase
  split
  · exact fitAll_both (fitAll_rooted _ rfl) rfl
  · refine fitAll_both (fitAll_rooted _ rfl) (fitAll_cons (fits_group ?_ ?_) rfl)
    · exact fun h => by cases h
    · intro after
      refine fitAll_cons (fits_group (fun h => by cases h) ?_) rfl
      intro after
      refine fitAll_cons rfl (fitAll_both (fitAll_flatMap ?_ _) (fitAll_cons (fits_indent _ _) rfl))
      intro field _ after
      rw [fitAll_line]
      exact event.fitAll_entryPhrase field after

/-- The assignments of an arm fit everywhere. -/
theorem fitAll_assignments (after : List Char) : fitAll event.assignments after = true := by
  refine fitAll_both ?_ ?_
  · rw [fitAll_line]
    rfl
  · rw [fitAll_line]
    exact fitAll_both (fitAll_both rfl (event.fitAll_payloadPhrase _)) rfl

/-- The arm of an event fits everywhere. -/
theorem fitAll_armPhrase (groupPath : List Identifier) (after : List Char) :
    fitAll (event.armPhrase groupPath) after = true := by
  obtain ⟨hpattern, hends⟩ := event.fitAll_patternPhrase (textOf [.mark '=' true, .mark '>' false,
    space, .group .brace (.gap "\n" :: event.assignments ++ [indent 2]), .gap "\n"] ++ after)
  refine fitAll_cons (fits_indent _ _) (fitAll_both (fitAll_both (fitAll_path _ hends) hpattern) ?_)
  refine fitAll_cons rfl (fitAll_cons rfl (fitAll_cons rfl (fitAll_cons rfl
    (fitAll_cons (fits_group (fun h => by cases h) ?_) rfl))))
  intro after
  exact fitAll_cons rfl
    (fitAll_both (event.fitAll_assignments _) (fitAll_cons (fits_indent _ _) rfl))

end Event

/-! ## Artifacts -/

namespace EventGroup

open Piece

variable {group : EventGroup}

/-- The body of the function fits everywhere. -/
theorem fitAll_bodyPhrase (group : EventGroup) (after : List Char) :
    fitAll group.bodyPhrase after = true := by
  refine fitAll_both ?_ (fitAll_both ?_ (fitAll_both ?_ (fitAll_both ?_ rfl)))
  · rw [fitAll_line]
    rfl
  · rw [fitAll_line]
    exact fitAll_both (fitAll_both rfl (fitAll_rooted _ rfl)) rfl
  · rw [fitAll_line]
    refine fitAll_cons rfl (fitAll_cons rfl (fitAll_cons rfl (fitAll_cons rfl
      (fitAll_cons (fits_group (fun h => by cases h) ?_) rfl))))
    intro after
    refine fitAll_cons rfl (fitAll_both (fitAll_flatMap ?_ _) (fitAll_cons (fits_indent _ _) rfl))
    exact fun event _ => event.fitAll_armPhrase _
  · rw [fitAll_line]
    rfl

/-- A character that no name of the group holds is not in the names of the group as they are
shown. -/
theorem notMem_display (h : group.IsSpelled) {c : Char} (hstart : isWordStart c = false)
    (hpart : isWordPart c = false) (hcolon : c ≠ ':') : c ∉ group.name.display.toList := by
  apply notMem_intercalate
  · simpa using hcolon
  · intro segment hsegment
    rw [h.segments] at hsegment
    rcases List.mem_cons.1 hsegment with rfl | hmem
    · exact notMem_of_isWord (by decide) hstart hpart
    · exact notMem_of_isWord (h.names segment hmem).1 hstart hpart

/-- The comments of an artifact fit everywhere. -/
theorem fitAll_commentPhrase (h : group.IsSpelled) (after : List Char) :
    fitAll group.commentPhrase after = true := by
  have hdisplay := notMem_display h (c := '\n') (by decide) (by decide) (by decide)
  refine fitAll_both ?_ ?_
  · rw [fitAll_line]
    refine fitAll_cons (fits_comment ?_ ?_ _) rfl
    · simpa using hdisplay
    · simp
  · split
    · rfl
    · rename_i first rest hexcluded
      have hlisted : '\n' ∉ (", ".intercalate
          ((first :: rest).map fun name => "`" ++ name.simple ++ "`")).toList := by
        apply notMem_intercalate (by decide)
        intro text htext
        obtain ⟨name, hname, rfl⟩ := List.mem_map.1 htext
        have hword := notMem_of_isWord (h.excluded name (hexcluded ▸ hname))
          (c := '\n') (by decide) (by decide)
        simpa using hword
      rw [fitAll_line]
      refine fitAll_cons (fits_comment ?_ ?_ _) rfl
      · simpa using hlisted
      · simp

/-- The description of the function fits everywhere. -/
theorem fitAll_attributePhrase (h : group.IsSpelled) (after : List Char) :
    fitAll group.attributePhrase after = true := by
  have hbreak := notMem_display h (c := '\n') (by decide) (by decide) (by decide)
  have hreturn := notMem_display h (c := '\r') (by decide) (by decide) (by decide)
  refine fitAll_both (fitAll_both (fitAll_both ?_ ?_) ?_) ?_
  · rw [fitAll_line]
    refine fitAll_cons (fits_documentation ?_ ?_ ?_ _) rfl
    · simpa using hbreak
    · simpa using hreturn
    · simp
  · rw [fitAll_line]
    rfl
  · rw [fitAll_line]
    rfl
  · rw [fitAll_line]
    rfl

/-- The signature fits everywhere. -/
theorem fitAll_signaturePhrase (group : EventGroup) (after : List Char) :
    fitAll group.signaturePhrase after = true := by
  refine fitAll_both ?_ (fitAll_both ?_ ?_)
  · rw [fitAll_line]
    refine fitAll_cons rfl (fitAll_cons rfl (fitAll_cons rfl (fitAll_cons rfl (fitAll_cons rfl
      (fitAll_cons rfl (fitAll_cons rfl (fitAll_cons rfl (fitAll_cons (fits_group ?_ ?_) rfl))))))))
    · exact fun h => by cases h
    · intro after
      obtain ⟨harguments, hends⟩ := fitAll_lifetimeArguments group.lifetimes after
      exact fitAll_both (fitAll_both rfl (fitAll_path _ hends)) harguments
  · rw [fitAll_line]
    rfl
  · rw [fitAll_line]
    exact fitAll_both (fitAll_both rfl (fitAll_rooted _ rfl)) rfl

/-- The pieces of an artifact fit together. -/
theorem fitAll_phrase (h : group.IsSpelled) : fitAll group.phrase [] = true := by
  refine fitAll_both (fitAll_both (fitAll_commentPhrase h _) rfl) (fitAll_both
    (fitAll_both (fitAll_attributePhrase h _) (fitAll_signaturePhrase group _)) ?_)
  rw [fitAll_line]
  refine fitAll_cons (fits_group ?_ ?_) rfl
  · exact fun h => by cases h
  · intro after
    exact fitAll_cons rfl
      (fitAll_both (fitAll_bodyPhrase group _) (fitAll_cons (fits_indent _ _) rfl))

/-- The text of an artifact has the tokens of its pieces. -/
theorem ofChars_contents (h : group.IsSpelled) :
    Token.ofChars (group.artifact defaultRuntime).contents.toList =
      .ok (tokensOf 1 group.phrase) := by
  rw [textOf_phrase h]
  apply ofChars_textOf (fitAll_phrase h)
  intro hhead
  cases hhead

end EventGroup

end EventTracking
