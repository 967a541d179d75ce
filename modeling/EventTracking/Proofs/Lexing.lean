import EventTracking.Code.Token
import EventTracking.Proofs.QuotedText
import EventTracking.Proofs.WordCharacters

/-!
# Cutting generated code

Generated code is made of words, marks, quoted texts, lifetimes, delimiters and comments. Each of
them is read as one lexeme, provided that what follows does not change it: a word must not go on,
and no quote or hash may follow it, since these make a literal of some words.

`Lexes` says which lexemes a text is cut into, however much fuel there is. A lexeme, a blank or a
comment at the head of a text goes in front of what the text after it is cut into.

Main statements: what is written for an identifier is read as that identifier
(`lexeme?_written`), and so it is with marks (`lexeme?_mark`), quoted texts (`lexeme?_quote`) and
documentation (`lexeme?_documentation`); a text is cut into its first lexeme and those of its rest
(`Lexes.cons`), and what may stand between lexemes is skipped (`Lexes.gap`, `Lexes.comment`).
-/

namespace EventTracking

open Text

namespace Code

/-! ## Words -/

/-- The characters that turn a word before them into the beginning of a literal. -/
def literalSigns : List Char := ['"', '\'', '#']

/-- No word goes on with one of these characters. -/
theorem isWordPart_literalSigns : ∀ sign ∈ literalSigns, isWordPart sign = false := by
  simp only [literalSigns, List.forall_mem_cons]
  exact ⟨rfl, rfl, rfl, List.forall_mem_nil _⟩

/-- No word starts with one of these characters. -/
theorem ne_of_isWordStart {c : Char} (h : isWordStart c = true) :
    ∀ sign ∈ literalSigns, c ≠ sign := by
  have hsigns : ∀ sign ∈ literalSigns, isWordStart sign = false := by
    simp only [literalSigns, List.forall_mem_cons]
    exact ⟨rfl, rfl, rfl, List.forall_mem_nil _⟩
  rintro sign hmem rfl
  rw [hsigns c hmem] at h
  cases h

/-- Whether a text may follow a word or a quoted text. -/
def endsWord : List Char → Bool
  | [] => true
  | c :: _ => !isWordStart c && !isWordPart c && !literalSigns.contains c

section

variable {marker after : List Char} {sign : Char}

/-- The rest of a word and what ends the word begin with no marker of a literal. -/
theorem not_isPrefix_part (hmarker : marker.all isWordPart = true) (hsign : sign ∈ literalSigns)
    {part : List Char} (hpart : part.all isWordPart = true) (hafter : endsWord after = true) :
    ¬ marker ++ [sign] <+: part ++ after := by
  induction marker generalizing part with
  | nil =>
      intro h
      cases part with
      | cons c rest =>
          obtain ⟨rfl, -⟩ := List.cons_prefix_cons.1 h
          rw [List.all_cons, isWordPart_literalSigns sign hsign] at hpart
          cases hpart
      | nil =>
          cases after with
          | nil => cases List.prefix_nil.1 h
          | cons c rest =>
              obtain ⟨rfl, -⟩ := List.cons_prefix_cons.1 h
              rw [endsWord, List.contains_iff_mem.2 hsign, Bool.not_true, Bool.and_false] at hafter
              cases hafter
  | cons m more ih =>
      intro h
      rw [List.all_cons, Bool.and_eq_true] at hmarker
      cases part with
      | cons c rest =>
          rw [List.all_cons, Bool.and_eq_true] at hpart
          obtain ⟨rfl, hrest⟩ := List.cons_prefix_cons.1 h
          exact ih hmarker.2 hpart.2 hrest
      | nil =>
          cases after with
          | nil => cases List.prefix_nil.1 h
          | cons c rest =>
              obtain ⟨rfl, -⟩ := List.cons_prefix_cons.1 h
              rw [endsWord, hmarker.1, Bool.not_true, Bool.and_false, Bool.false_and] at hafter
              cases hafter

/-- A word and what ends it begin with no marker of a literal. -/
theorem not_isPrefix_word (hmarker : marker.all isWordPart = true) (hsign : sign ∈ literalSigns)
    {word : List Char} (hword : isWord word = true) (hafter : endsWord after = true) :
    ¬ marker ++ [sign] <+: word ++ after := by
  cases word with
  | nil => cases hword
  | cons c rest =>
      rw [isWord, Bool.and_eq_true] at hword
      intro h
      cases marker with
      | nil =>
          obtain ⟨heq, -⟩ := List.cons_prefix_cons.1 h
          exact ne_of_isWordStart hword.1 sign hsign heq.symm
      | cons m more =>
          rw [List.all_cons, Bool.and_eq_true] at hmarker
          obtain ⟨-, hrest⟩ := List.cons_prefix_cons.1 h
          exact not_isPrefix_part hmarker.2 hsign hword.2 hafter hrest

end

/-! ## Words are no literals -/

/-- A digit of a number is a decimal digit. -/
theorem hexDigit?_of_not_isDigit {c : Char} (h : c.isDigit = false) :
    (hexDigit? c).any (· < 10) = false := by
  unfold hexDigit?
  rw [if_neg (by rw [h]; decide)]
  split
  · simp
  · split
    · simp
    · rfl

/-- No number begins with anything but a digit. -/
theorem numericLength?_eq_none {c : Char} (h : c.isDigit = false) (rest : List Char) :
    numericLength? (c :: rest) = none := by
  have hfraction : fractionDigits? (c :: rest) = none := by
    simp [fractionDigits?, h]
  have hbase : baseOf (c :: rest) = (10, 0) := by
    unfold baseOf
    split
    all_goals first | rfl | simp_all
  have hdigits : digitsLength? 10 true 0 (c :: rest) = none := by
    rw [digitsLength?, if_neg (by rw [h]; decide)]
    split
    · rfl
    · rw [if_neg (by rw [hexDigit?_of_not_isDigit h]; decide)]
      rfl
  rw [numericLength?, hfraction]
  dsimp only [Option.bind_none]
  rw [hbase]
  dsimp only
  rw [List.drop_zero, hdigits]
  rfl

/-- A quoted text begins with its marker and a quote, or with its marker, `r`, and hashes before
a quote. -/
theorem length?_eq_none {quoting : Quoting} {marker text : List Char}
    (hquote : ¬ marker ++ ['"'] <+: text)
    (hraw : ∀ opening, text = marker ++ 'r' :: opening →
      (opening.dropWhile (· == '#')).head? ≠ some '"') :
    quoting.length? marker text = none := by
  rw [Quoting.length?, if_neg (by rwa [List.isPrefixOf_iff_prefix])]
  split
  · rename_i hr
    obtain ⟨opening, rfl⟩ := List.isPrefixOf_iff_prefix.1 hr
    have hopening := hraw opening (by simp)
    have hdrop : (marker ++ ['r'] ++ opening).drop (marker.length + 1) = opening :=
      List.drop_left' (by simp)
    have hhashes : opening.drop (opening.takeWhile (· == '#')).length =
        opening.dropWhile (· == '#') := by
      conv_lhs => arg 2; rw [← List.takeWhile_append_dropWhile (p := (· == '#')) (l := opening)]
      exact List.drop_left
    rw [hdrop]
    dsimp only
    rw [hhashes]
    split
    · rename_i body hbody
      rw [hbody] at hopening
      exact absurd rfl hopening
    · rfl
  · rfl

/-- A text that begins with no marker of a literal and with no digit begins with no literal. -/
theorem literal?_eq_none {text : List Char}
    (hmarkers : ∀ marker sign, marker.all isWordPart = true → sign ∈ literalSigns →
      ¬ marker ++ [sign] <+: text)
    (hdigit : text.head?.any Char.isDigit = false) : literal? text = none := by
  have hquoted (quoting : Quoting) {marker : List Char} (hmarker : marker.all isWordPart = true) :
      quoting.length? marker text = none := by
    have hopening : (marker ++ ['r']).all isWordPart = true := by
      rw [List.all_append, hmarker]
      rfl
    apply length?_eq_none (hmarkers marker '"' hmarker (by decide))
    rintro (- | ⟨c, rest⟩) rfl
    · exact fun h => nomatch h
    · have hhash := hmarkers _ '#' hopening (by decide)
      have hquote := hmarkers _ '"' hopening (by decide)
      simp only [List.append_assoc, List.cons_append, List.nil_append, List.prefix_append_right_inj,
        List.cons_prefix_cons, List.nil_prefix, and_true, true_and] at hhash hquote
      rw [List.dropWhile_cons_of_neg (by simpa using Ne.symm hhash)]
      exact fun h => hquote (Option.some.inj h).symm
  have hbyte : byteLength? text = none := by
    unfold byteLength?
    split
    · rename_i rest
      exact absurd ⟨rest, rfl⟩ (hmarkers ['b'] '\'' rfl (by decide))
    · rfl
  have hcharacter : characterLength? text = none := by
    unfold characterLength?
    split
    · rename_i rest
      exact absurd ⟨rest, rfl⟩ (hmarkers [] '\'' rfl (by decide))
    · rfl
  have hnumeric : numericLength? text = none := by
    cases text with
    | nil => rfl
    | cons c rest => exact numericLength?_eq_none hdigit rest
  rw [literal?, hquoted .text rfl, hquoted .bytes rfl, hquoted .nullEnded rfl, hbyte, hcharacter,
    hnumeric]

/-! ## Reading a word -/

/-- The word at the head of a text is as long as it is read. -/
theorem wordLength_append {word after : List Char} (hword : isWord word = true)
    (hafter : endsWord after = true) : wordLength (word ++ after) = word.length := by
  cases word with
  | nil => cases hword
  | cons c rest =>
      rw [isWord, Bool.and_eq_true] at hword
      have htake : (rest ++ after).takeWhile isWordPart = rest := by
        rw [List.takeWhile_append_of_pos (List.all_eq_true.1 hword.2)]
        cases after with
        | nil => rw [List.takeWhile_nil, List.append_nil]
        | cons d more =>
            have hd : isWordPart d = false := by
              simp only [endsWord, Bool.and_eq_true, Bool.not_eq_true'] at hafter
              exact hafter.1.2
            rw [List.takeWhile_cons_of_neg (by rw [hd]; decide), List.append_nil]
      rw [List.cons_append, wordLength, if_pos hword.1, htake, List.length_cons]

namespace Identifier

/-- An identifier is read from its text. -/
theorem ofChars?_text (identifier : Identifier) :
    ofChars? identifier.raw identifier.text.toList = some identifier := by
  obtain ⟨raw, text, hword, hraw⟩ := identifier
  rw [ofChars?, dif_pos ⟨hword, by rw [String.ofList_toList]; exact hraw⟩]
  simp only [String.ofList_toList]

/-- A raw identifier is written with its marker. -/
theorem toList_written_of_raw {identifier : Identifier} (h : identifier.raw = true) :
    identifier.written.toList = 'r' :: '#' :: identifier.text.toList := by
  rw [written, if_pos h, String.toList_append]
  rfl

/-- A word begins with a character that starts words. -/
theorem exists_cons_text (identifier : Identifier) :
    ∃ c rest, identifier.text.toList = c :: rest ∧ isWordStart c = true := by
  have hword := identifier.isWord_text
  cases htext : identifier.text.toList with
  | nil =>
      rw [htext] at hword
      cases hword
  | cons c rest =>
      rw [htext, isWord, Bool.and_eq_true] at hword
      exact ⟨c, rest, rfl, hword.1⟩

/-- So does what is written for it. -/
theorem exists_cons_written (identifier : Identifier) :
    ∃ c rest, identifier.written.toList = c :: rest ∧ isWordStart c = true := by
  cases hraw : identifier.raw with
  | false =>
      rw [written_of_not_raw hraw]
      exact identifier.exists_cons_text
  | true => exact ⟨'r', _, toList_written_of_raw hraw, rfl⟩

end Identifier

section

variable {after : List Char}

/-- An identifier is read from what is written for it. -/
theorem anyWord?_written (identifier : Identifier) (hafter : endsWord after = true) :
    anyWord? (identifier.written.toList ++ after) =
      some (identifier, identifier.written.toList.length) := by
  have hlength := wordLength_append identifier.isWord_text hafter
  have hread := identifier.ofChars?_text
  cases hraw : identifier.raw with
  | false =>
      have hbegins : begins "r#" (identifier.text.toList ++ after) = false := by
        have hmarker : ¬ ['r'] ++ ['#'] <+: identifier.text.toList ++ after :=
          not_isPrefix_word rfl (by decide) identifier.isWord_text hafter
        rw [begins, Bool.eq_false_iff, Ne, List.isPrefixOf_iff_prefix]
        exact hmarker
      rw [hraw] at hread
      rw [Identifier.written_of_not_raw hraw, anyWord?, hbegins]
      simp only [Bool.false_eq_true, if_false]
      rw [hlength, List.take_left, hread, Option.map_some]
  | true =>
      rw [hraw] at hread
      rw [Identifier.toList_written_of_raw hraw, List.cons_append, List.cons_append, anyWord?,
        show begins "r#" ('r' :: '#' :: (identifier.text.toList ++ after)) = true from rfl]
      simp only [if_true, List.drop_succ_cons, List.drop_zero]
      rw [hlength, List.take_left, hread, Option.map_some]
      rfl

/-- What is written for an identifier is no literal. -/
theorem literal?_written (identifier : Identifier) (hafter : endsWord after = true) :
    literal? (identifier.written.toList ++ after) = none := by
  obtain ⟨c, rest, htext, hc⟩ := identifier.exists_cons_text
  cases hraw : identifier.raw with
  | false =>
      rw [Identifier.written_of_not_raw hraw]
      apply literal?_eq_none
      · intro marker sign hmarker hsign
        exact not_isPrefix_word hmarker hsign identifier.isWord_text hafter
      · rw [htext]
        exact isDigit_of_isWordStart hc
  | true =>
      have hne := ne_of_isWordStart hc
      have hquoted : Quoting.text.length? [] ('r' :: '#' :: c :: (rest ++ after)) = none := by
        apply length?_eq_none (by simp)
        rintro opening heq
        obtain rfl := (List.cons.inj heq).2
        rw [List.dropWhile_cons_of_pos (by decide),
          List.dropWhile_cons_of_neg (by simpa using hne '#' (by decide))]
        exact fun h => hne '"' (by decide) (Option.some.inj h)
      rw [Identifier.toList_written_of_raw hraw, htext]
      change literal? ('r' :: '#' :: c :: (rest ++ after)) = none
      rw [literal?, hquoted]
      rfl

/-- Each beginning of a literal begins with a marker. -/
theorem exists_marker_of_mem {start : String} (h : start ∈ literalMarkers) :
    ∃ marker sign, marker.all isWordPart = true ∧ sign ∈ literalSigns ∧
      marker ++ [sign] <+: start.toList := by
  fin_cases h
  · exact ⟨['r'], '"', rfl, by decide, by decide⟩
  · exact ⟨['r'], '#', rfl, by decide, by decide⟩
  · exact ⟨['r'], '#', rfl, by decide, by decide⟩
  · exact ⟨['b'], '"', rfl, by decide, by decide⟩
  · exact ⟨['b'], '\'', rfl, by decide, by decide⟩
  · exact ⟨['b', 'r'], '"', rfl, by decide, by decide⟩
  · exact ⟨['b', 'r'], '#', rfl, by decide, by decide⟩
  · exact ⟨['c'], '"', rfl, by decide, by decide⟩
  · exact ⟨['c', 'r'], '"', rfl, by decide, by decide⟩
  · exact ⟨['c', 'r'], '#', rfl, by decide, by decide⟩

/-- What is written for an identifier announces no literal. -/
theorem word?_written (identifier : Identifier) (hafter : endsWord after = true) :
    word? (identifier.written.toList ++ after) =
      some (identifier, identifier.written.toList.length) := by
  have hmarkers : literalMarkers.any (begins · (identifier.written.toList ++ after)) = false := by
    rw [List.any_eq_false]
    intro start hstart
    rw [begins, List.isPrefixOf_iff_prefix]
    cases hraw : identifier.raw with
    | false =>
        obtain ⟨marker, sign, hmarker, hsign, hbegins⟩ := exists_marker_of_mem hstart
        rw [Identifier.written_of_not_raw hraw]
        exact fun h =>
          not_isPrefix_word hmarker hsign identifier.isWord_text hafter (hbegins.trans h)
    | true =>
        obtain ⟨c, rest, htext, hc⟩ := identifier.exists_cons_text
        have hne := ne_of_isWordStart hc
        rw [Identifier.toList_written_of_raw hraw, htext]
        fin_cases hstart <;> simp [Ne.symm (hne '"' (by decide)), Ne.symm (hne '#' (by decide))]
  rw [word?, hmarkers]
  exact anyWord?_written identifier hafter

end

/-! ## Single lexemes -/

/-- A text that begins with no slash documents nothing. -/
theorem documentation?_eq_none {c : Char} (h : c ≠ '/') (rest : List Char) :
    documentation? (c :: rest) = none := by
  simp [documentation?, begins, Ne.symm h]

/-- A text that begins with no slash and no delimiter begins with a literal, a mark or a word. -/
theorem lexeme?_cons {c : Char} (hslash : c ≠ '/') (hopening : openingDelimiter? c = none)
    (hclosing : closingDelimiter? c = none) (line : Nat) (rest : List Char) :
    lexeme? line (c :: rest) =
      match literal? (c :: rest) with
      | some (value, length) => some (.literal value line, length)
      | none =>
        match mark? (c :: rest) with
        | some (c, joint) => some (.mark c joint line, 1)
        | none =>
          match word? (c :: rest) with
          | some (identifier, length) => some (.word identifier line, length)
          | none => none := by
  have hunknown : ¬ unknownMark.isPrefixOf (c :: rest) = true := by
    rw [List.isPrefixOf_iff_prefix]
    intro h
    obtain ⟨rfl, -⟩ := List.cons_prefix_cons.1 (show '(' :: unknownMark.tail <+: c :: rest from h)
    cases hopening
  cases hliteral : literal? (c :: rest) <;> cases hmark : mark? (c :: rest) <;>
    cases hword : word? (c :: rest) <;>
    simp [lexeme?, documentation?_eq_none hslash, hunknown, hopening, hclosing, hliteral, hmark,
      hword]

/-- The characters that stand for themselves as marks. -/
def plainMarks : List Char := "~!@#$%^&*-=+|;:,<.>?".toList

/-- None of them is a blank or begins a comment. -/
theorem ordinary_of_mem_plainMarks {c : Char} (h : c ∈ plainMarks) :
    isGap c = false ∧ c ≠ '/' ∧ c ≠ '\n' := by
  fin_cases h <;> exact ⟨rfl, by decide, by decide⟩

/-- A mark is read with what it says of the character after it. -/
theorem lexeme?_mark {c : Char} (hc : c ∈ plainMarks) (line : Nat) (rest : List Char) :
    lexeme? line (c :: rest) = some (.mark c (beginsMark rest) line, 1) := by
  have hslash : c ≠ '/' := by
    rintro rfl
    revert hc
    decide
  have hquote : c ≠ '\'' := by
    rintro rfl
    revert hc
    decide
  have hliteral : literal? (c :: rest) = none := by
    fin_cases hc <;> rfl
  have hmark : mark? (c :: rest) = some (c, beginsMark rest) := by
    have hbegins : beginsMark (c :: rest) = true := by
      fin_cases hc <;> rfl
    rw [mark?, if_pos hbegins, if_neg hquote]
  have hdelimiters : openingDelimiter? c = none ∧ closingDelimiter? c = none := by
    fin_cases hc <;> exact ⟨rfl, rfl⟩
  rw [lexeme?_cons hslash hdelimiters.1 hdelimiters.2, hliteral, hmark]

/-- A character that starts a word is neither a slash nor a delimiter nor a mark. -/
theorem beginsMark_of_isWordStart {c : Char} (hc : isWordStart c = true) (rest : List Char) :
    beginsMark (c :: rest) = false := by
  have hmarks : punctuation.all (fun sign => !isWordStart sign) = true := rfl
  rw [beginsMark, List.head?_cons, Option.any_some, Bool.and_eq_false_iff]
  refine .inr ?_
  rw [Bool.eq_false_iff, Ne, List.contains_iff_mem]
  intro hmem
  have hnot := List.all_eq_true.1 hmarks c hmem
  rw [hc] at hnot
  cases hnot

/-- A word is read. -/
theorem lexeme?_written (identifier : Identifier) {after : List Char}
    (hafter : endsWord after = true) (line : Nat) :
    lexeme? line (identifier.written.toList ++ after) =
      some (.word identifier line, identifier.written.toList.length) := by
  have hliteral := literal?_written identifier hafter
  have hword := word?_written identifier hafter
  obtain ⟨c, rest, htext, hc⟩ := identifier.exists_cons_written
  have ne {d : Char} (hd : isWordStart d = false) : c ≠ d := by
    rintro rfl
    rw [hc] at hd
    cases hd
  have hopening : openingDelimiter? c = none := by
    unfold openingDelimiter?
    split
    all_goals first | rfl | exact absurd rfl (ne rfl)
  have hclosing : closingDelimiter? c = none := by
    unfold closingDelimiter?
    split
    all_goals first | rfl | exact absurd rfl (ne rfl)
  have hmark : mark? (c :: (rest ++ after)) = none := by
    rw [mark?, beginsMark_of_isWordStart hc, if_neg (by decide)]
  rw [htext, List.cons_append] at hliteral hword ⊢
  rw [lexeme?_cons (ne rfl) hopening hclosing, hliteral, hmark, hword]

/-- The quote of a lifetime is read as a mark. -/
theorem lexeme?_lifetime {identifier : Identifier} (hplain : identifier.raw = false)
    {after : List Char} (hafter : endsWord after = true) (line : Nat) :
    lexeme? line ('\'' :: (identifier.written.toList ++ after)) =
      some (.mark '\'' true line, 1) := by
  have hlifetime : beginsLifetime (identifier.written.toList ++ after) = true := by
    have hquiet (sign : Char) (hsign : sign ∈ literalSigns) : after.head? ≠ some sign := by
      intro hhead
      obtain ⟨rest, rfl⟩ := List.head?_eq_some_iff.1 hhead
      have hsign : ¬ [] ++ [sign] <+: [] ++ sign :: rest :=
        not_isPrefix_part rfl hsign rfl hafter
      exact hsign ⟨rest, rfl⟩
    rw [beginsLifetime, anyWord?_written identifier hafter]
    simp only [List.drop_left, hquiet '\'' (by decide), hquiet '#' (by decide), decide_false,
      Bool.false_and, Bool.or_false, Bool.not_false]
  have hcharacter : characterLength? ('\'' :: (identifier.written.toList ++ after)) = none := by
    obtain ⟨c, more, htext, hc⟩ := identifier.exists_cons_text
    have hword := identifier.isWord_text
    rw [htext, isWord, Bool.and_eq_true] at hword
    have hitem : characterItemLength? (c :: (more ++ after)) = some 1 := by
      unfold characterItemLength?
      split
      · rename_i heq
        obtain ⟨rfl, -⟩ := List.cons.inj heq
        cases hc
      · rfl
      · rename_i heq
        cases heq
    have hclosing : (more ++ after).head? ≠ some '\'' := by
      intro hhead
      obtain ⟨rest, hrest⟩ := List.head?_eq_some_iff.1 hhead
      have hquote : ¬ [] ++ ['\''] <+: more ++ after :=
        not_isPrefix_part rfl (by decide) hword.2 hafter
      exact hquote ⟨rest, hrest.symm⟩
    rw [Identifier.written_of_not_raw hplain, htext, List.cons_append, characterLength?, hitem,
      closedLength?]
    exact if_neg hclosing
  have hliteral : literal? ('\'' :: (identifier.written.toList ++ after)) = none := by
    rw [literal?, hcharacter, numericLength?_eq_none rfl]
    rfl
  have hmark : mark? ('\'' :: (identifier.written.toList ++ after)) = some ('\'', true) := by
    have hbegins : beginsMark ('\'' :: (identifier.written.toList ++ after)) = true := rfl
    rw [mark?, if_pos hbegins, if_pos hlifetime]
    rfl
  rw [lexeme?_cons (by decide) rfl rfl, hliteral, hmark]

/-- A quoted text is read up to its closing quote. -/
theorem lexeme?_quote (text : String) {after : List Char} (hafter : endsWord after = true)
    (line : Nat) :
    lexeme? line ((quote text).toList ++ after) =
      some (.literal .text line, (quote text).toList.length) := by
  have hlength : (quote text).toList.length = 1 + (quoteBody text.toList).length + 1 := by
    simp [quote]
    omega
  have hsuffix : wordLength after = 0 := by
    cases after with
    | nil => rfl
    | cons c rest =>
        simp only [endsWord, Bool.and_eq_true, Bool.not_eq_true'] at hafter
        rw [wordLength, if_neg (by rw [hafter.1.1]; decide)]
  have hbody : Quoting.text.bodyLength? ((quoteBody text.toList ++ '"' :: after).length + 1) 1
      (quoteBody text.toList ++ '"' :: after) = some (quote text).toList.length := by
    rw [hlength]
    apply bodyLength?_quoteBody
    have hle := length_le_length_quoteBody text.toList
    rw [List.length_append]
    omega
  have htext : Quoting.text.length? [] ((quote text).toList ++ after) =
      some (quote text).toList.length := by
    rw [toList_quote_append, Quoting.length?, if_pos (by simp)]
    change (Quoting.text.bodyLength? _ 1 _).map _ = _
    rw [List.drop_succ_cons, List.length_nil, List.drop_zero, hbody, Option.map_some, withSuffix,
      ← toList_quote_append, List.drop_left, hsuffix, Nat.add_zero]
  have hliteral : literal? ((quote text).toList ++ after) =
      some (.text, (quote text).toList.length) := by
    rw [literal?, htext]
  rw [toList_quote_append] at hliteral ⊢
  rw [lexeme?_cons (by decide) rfl rfl, hliteral]

/-- An opening delimiter is read, unless it opens a place that made no sense. -/
theorem lexeme?_opening {c : Char} {delimiter : Delimiter}
    (hc : openingDelimiter? c = some delimiter) {rest : List Char} (hrest : rest.head? ≠ some '/')
    (line : Nat) : lexeme? line (c :: rest) = some (.opening delimiter line, 1) := by
  have hslash : c ≠ '/' := by
    rintro rfl
    cases hc
  have hunknown : ¬ unknownMark.isPrefixOf (c :: rest) = true := by
    rw [List.isPrefixOf_iff_prefix]
    intro h
    obtain ⟨-, htail⟩ := List.cons_prefix_cons.1 (show '(' :: unknownMark.tail <+: c :: rest from h)
    obtain ⟨more, rfl⟩ := htail
    exact hrest rfl
  rw [lexeme?, documentation?_eq_none hslash]
  dsimp only
  rw [if_neg hunknown, List.head?_cons, Option.bind_some, hc]

/-- A closing delimiter is read. -/
theorem lexeme?_closing {c : Char} {delimiter : Delimiter}
    (hc : closingDelimiter? c = some delimiter) (line : Nat) (rest : List Char) :
    lexeme? line (c :: rest) = some (.closing delimiter line, 1) := by
  have hslash : c ≠ '/' := by
    rintro rfl
    cases hc
  have hopening : openingDelimiter? c = none := by
    unfold openingDelimiter?
    split
    all_goals first | rfl | cases hc
  have hunknown : ¬ unknownMark.isPrefixOf (c :: rest) = true := by
    rw [List.isPrefixOf_iff_prefix]
    intro h
    obtain ⟨rfl, -⟩ := List.cons_prefix_cons.1 (show '(' :: unknownMark.tail <+: c :: rest from h)
    cases hc
  rw [lexeme?, documentation?_eq_none hslash]
  dsimp only
  rw [if_neg hunknown, List.head?_cons, Option.bind_some, Option.bind_some, hopening, hc]

/-- The first line of a text ends where its line break is. -/
theorem lineLength_append {text : List Char} (h : '\n' ∉ text) (rest : List Char) :
    lineLength (text ++ '\n' :: rest) = text.length := by
  have hall : ∀ c ∈ text, (c != '\n') = true := by
    intro c hc
    rw [bne_iff_ne]
    rintro rfl
    exact h hc
  rw [lineLength, List.takeWhile_append_of_pos hall, List.takeWhile_cons_of_neg (by decide),
    List.append_nil]

/-- A text without carriage returns has no bare one. -/
theorem hasBareReturn_eq_false {text : List Char} (h : '\r' ∉ text) :
    hasBareReturn text = false := by
  induction text with
  | nil => rfl
  | cons c rest ih =>
      rw [List.mem_cons, not_or] at h
      unfold hasBareReturn
      split
      · rename_i heq
        exact absurd (List.cons.inj heq).1.symm h.1
      · rename_i heq
        exact absurd (List.cons.inj heq).1.symm h.1
      · rename_i heq
        obtain ⟨-, rfl⟩ := List.cons.inj heq
        exact ih h.2
      · rfl

/-- Three slashes begin with no fourth one. -/
theorem begins_four_eq_false {text : List Char} (hslash : text.head? ≠ some '/')
    (rest : List Char) :
    begins "////" ('/' :: '/' :: '/' :: text ++ '\n' :: rest) = false := by
  rw [begins, Bool.eq_false_iff, Ne, List.isPrefixOf_iff_prefix]
  intro h
  obtain ⟨more, hmore⟩ := (List.prefix_append_right_inj ['/', '/', '/']).1
    (show ['/', '/', '/'] ++ ['/'] <+: ['/', '/', '/'] ++ (text ++ '\n' :: rest) from h)
  cases text with
  | nil => cases hmore
  | cons c _ =>
      obtain ⟨rfl, -⟩ := List.cons.inj hmore
      exact hslash rfl

/-- A documentation comment is read up to the end of its line. -/
theorem lexeme?_documentation {text : List Char} (hslash : text.head? ≠ some '/')
    (hbreak : '\n' ∉ text) (hreturn : '\r' ∉ text) (line : Nat) (rest : List Char) :
    lexeme? line ('/' :: '/' :: '/' :: text ++ '\n' :: rest) =
      some (.documentation false line line, text.length + 3) := by
  have hlength : lineLength ('/' :: '/' :: '/' :: text ++ '\n' :: rest) = text.length + 3 := by
    rw [lineLength_append (by simpa using hbreak)]
    rfl
  have htake : ('/' :: '/' :: '/' :: text ++ '\n' :: rest).take (text.length + 3) =
      '/' :: '/' :: '/' :: text := by
    simp
  have hline :
      hasBareReturn (withoutLineEnd ('/' :: '/' :: '/' :: text) ('\n' :: rest)) = false := by
    have hwhole : '\r' ∉ '/' :: '/' :: '/' :: text := by simpa using hreturn
    apply hasBareReturn_eq_false
    unfold withoutLineEnd
    split
    · exact fun hmem => hwhole (List.dropLast_subset _ hmem)
    · exact hwhole
  have hdocumentation : documentation? ('/' :: '/' :: '/' :: text ++ '\n' :: rest) =
      some ⟨text.length + 3, false⟩ := by
    have houter : begins "//!" ('/' :: '/' :: '/' :: text ++ '\n' :: rest) = false := rfl
    have hthree : begins "///" ('/' :: '/' :: '/' :: text ++ '\n' :: rest) = true := rfl
    have hdrop : ('/' :: '/' :: '/' :: text ++ '\n' :: rest).drop (text.length + 3) =
        '\n' :: rest := by
      simp
    rw [documentation?, houter, hthree, begins_four_eq_false hslash rest, hlength]
    simp only [Bool.not_false, Bool.and_true, Bool.or_true, if_true]
    rw [htake, hdrop, hline]
    rfl
  have hbreaks : (('/' :: '/' :: '/' :: text ++ '\n' :: rest).take (text.length + 3 - 1)).count
      '\n' = 0 := by
    rw [List.count_eq_zero]
    intro hmem
    have hmem := List.take_subset_take_left _ (Nat.sub_le _ 1) hmem
    rw [htake] at hmem
    simp [hbreak] at hmem
  rw [lexeme?, hdocumentation]
  dsimp only
  rw [hbreaks, Nat.add_zero]

/-! ## Gaps -/

/-- What has been skipped is added to what is skipped next. -/
theorem gapLengthFrom_eq_add (fuel length : Nat) (text : List Char) :
    gapLengthFrom fuel length text = length + gapLengthFrom fuel 0 text := by
  induction fuel generalizing length text with
  | zero => rfl
  | succ fuel ih =>
      cases text with
      | nil => rfl
      | cons c rest =>
          rw [gapLengthFrom, gapLengthFrom]
          split
          · rw [ih (length + 1), ih (0 + 1)]
            omega
          · split
            · rename_i n _
              rw [ih (length + n), ih (0 + n)]
              omega
            · rfl

/-- A block comment is as long as what has been read of it, at least. -/
theorem le_of_blockLength? {depth length n : Nat} {text : List Char}
    (h : blockLength? depth length text = some n) : length ≤ n := by
  fun_induction blockLength? depth length text with
  | case1 depth length rest ih => exact Nat.le_of_add_right_le (ih h)
  | case2 depth length rest hdepth => 
      obtain rfl := Option.some.inj h
      exact Nat.le_add_right length 2
  | case3 depth length rest hdepth ih => exact Nat.le_of_add_right_le (ih h)
  | case4 depth length c rest _ _ ih => exact Nat.le_of_add_right_le (ih h)
  | case5 => cases h

/-- A comment is not empty. -/
theorem pos_of_commentLength? {n : Nat} {text : List Char} (h : commentLength? text = some n) :
    0 < n := by
  unfold commentLength? at h
  split at h
  · rename_i hbegins
    simp only [Bool.and_eq_true] at hbegins
    obtain ⟨rest, rfl⟩ := List.isPrefixOf_iff_prefix.1 hbegins.1.1
    obtain rfl := Option.some.inj h
    exact Nat.succ_pos _
  split at h
  · obtain rfl := Option.some.inj h
    decide
  split at h
  · rename_i hbegins
    simp only [Bool.and_eq_true] at hbegins
    obtain ⟨rest, rfl⟩ := List.isPrefixOf_iff_prefix.1 hbegins.1.1
    exact Nat.lt_of_lt_of_le Nat.two_pos (le_of_blockLength? h)
  · cases h

/-- With as much fuel as the text is long, its amount does not matter. -/
theorem gapLengthFrom_congr {fuel more : Nat} {text : List Char} (hfuel : text.length ≤ fuel)
    (hmore : text.length ≤ more) (length : Nat) :
    gapLengthFrom fuel length text = gapLengthFrom more length text := by
  induction fuel generalizing more length text with
  | zero =>
      obtain rfl := List.eq_nil_of_length_eq_zero (Nat.le_zero.1 hfuel)
      cases more <;> rfl
  | succ fuel ih =>
      cases text with
      | nil => cases more <;> rfl
      | cons c rest =>
          obtain ⟨more, rfl⟩ := Nat.exists_eq_succ_of_ne_zero (Nat.ne_zero_of_lt hmore)
          rw [List.length_cons] at hfuel hmore
          rw [gapLengthFrom, gapLengthFrom]
          split
          · exact ih (by omega) (by omega) (length + 1)
          · split
            · rename_i n hn
              have hpos := pos_of_commentLength? hn
              refine ih ?_ ?_ (length + n) <;> rw [List.length_drop, List.length_cons] <;> omega
            · rfl

/-- A blank belongs to the gap. -/
theorem gapLength_cons {c : Char} (h : isGap c = true) (rest : List Char) :
    gapLength (c :: rest) = 1 + gapLength rest := by
  rw [gapLength, List.length_cons, gapLengthFrom, if_pos h, gapLengthFrom_eq_add]
  rfl

/-- A comment belongs to the gap. -/
theorem gapLength_of_commentLength? {c : Char} {rest : List Char} {n : Nat}
    (hc : isGap c = false) (hn : commentLength? (c :: rest) = some n) :
    gapLength (c :: rest) = n + gapLength ((c :: rest).drop n) := by
  have hpos := pos_of_commentLength? hn
  rw [gapLength, List.length_cons, gapLengthFrom, if_neg (by rw [hc]; decide), hn]
  dsimp only
  rw [gapLengthFrom_eq_add, Nat.zero_add, gapLength]
  congr 1
  apply gapLengthFrom_congr _ (Nat.le_refl _)
  rw [List.length_drop, List.length_cons]
  omega

/-- A character that is no blank and begins no comment ends the gap. -/
theorem gapLength_eq_zero {c : Char} {rest : List Char} (hc : isGap c = false)
    (hcomment : commentLength? (c :: rest) = none) : gapLength (c :: rest) = 0 := by
  rw [gapLength, List.length_cons, gapLengthFrom, if_neg (by rw [hc]; decide), hcomment]

/-- Only a slash begins a comment. -/
theorem commentLength?_eq_none {c : Char} (h : c ≠ '/') (rest : List Char) :
    commentLength? (c :: rest) = none := by
  simp [commentLength?, begins, Ne.symm h]

/-! ## Cutting a text -/

/-- A text that begins on a line is cut into these lexemes, however much fuel there is. -/
def Lexes (line : Nat) (text : List Char) (cut : List Lexeme) : Prop :=
  ∀ fuel, text.length < fuel → lexemesFrom fuel line text = cut

namespace Lexes

variable {line : Nat} {text rest : List Char} {lexeme : Lexeme} {cut : List Lexeme}

/-- Nothing is cut into nothing. -/
theorem nil (line : Nat) : Lexes line [] [] := by
  intro fuel hfuel
  obtain ⟨fuel, rfl⟩ := Nat.exists_eq_succ_of_ne_zero (Nat.ne_zero_of_lt hfuel)
  rfl

/-- The first lexeme goes in front of those of the rest. -/
theorem cons (hne : text ≠ []) (hgap : gapLength (text ++ rest) = 0)
    (hlexeme : lexeme? line (text ++ rest) = some (lexeme, text.length))
    (h : Lexes (line + text.count '\n') rest cut) : Lexes line (text ++ rest) (lexeme :: cut) := by
  intro fuel hfuel
  obtain ⟨fuel, rfl⟩ := Nat.exists_eq_succ_of_ne_zero (Nat.ne_zero_of_lt hfuel)
  have hrest : rest.length < fuel := by
    have hpos := List.length_pos_iff.2 hne
    rw [List.length_append] at hfuel
    omega
  rw [lexemesFrom, hgap, List.take_zero, List.count_nil, List.drop_zero, Nat.add_zero]
  cases hwhole : text ++ rest with
  | nil => exact absurd (List.append_eq_nil_iff.1 hwhole).1 hne
  | cons c more =>
      rw [hwhole] at hlexeme
      dsimp only
      rw [hlexeme, ← hwhole]
      dsimp only
      rw [List.take_left, List.drop_left, h fuel hrest]

/-- What stands before the first lexeme is skipped. -/
theorem skip (hgap : gapLength (text ++ rest) = text.length + gapLength rest)
    (h : Lexes (line + text.count '\n') rest cut) : Lexes line (text ++ rest) cut := by
  intro fuel hfuel
  rw [List.length_append] at hfuel
  obtain ⟨fuel, rfl⟩ := Nat.exists_eq_succ_of_ne_zero (Nat.ne_zero_of_lt hfuel)
  rw [← h (fuel + 1) (by omega), lexemesFrom, lexemesFrom, hgap,
    List.take_length_add_append, List.drop_length_add_append, List.count_append, Nat.add_assoc]

/-- Blanks are skipped. -/
theorem gap (hgap : text.all isGap = true) (h : Lexes (line + text.count '\n') rest cut) :
    Lexes line (text ++ rest) cut := by
  refine skip ?_ h
  clear h
  induction text with
  | nil => rw [List.nil_append, List.length_nil, Nat.zero_add]
  | cons c more ih =>
      rw [List.all_cons, Bool.and_eq_true] at hgap
      rw [List.cons_append, gapLength_cons hgap.1, ih hgap.2, List.length_cons]
      omega

/-- A comment is skipped up to the end of its line. -/
theorem comment (hbreak : '\n' ∉ text) (hhead : text.head? ≠ some '/' ∧ text.head? ≠ some '!')
    (h : Lexes line ('\n' :: rest) cut) : Lexes line ('/' :: '/' :: text ++ '\n' :: rest) cut := by
  have hbreaks : ('/' :: '/' :: text).count '\n' = 0 := by
    rw [List.count_eq_zero]
    simpa using hbreak
  have hbegins (c : Char) (start : String) (hstart : start.toList = ['/', '/', c])
      (hc : text.head? ≠ some c) (hne : c ≠ '\n') :
      begins start ('/' :: '/' :: text ++ '\n' :: rest) = false := by
    rw [begins, hstart, Bool.eq_false_iff, Ne, List.isPrefixOf_iff_prefix]
    intro hmore
    obtain ⟨more, hmore⟩ := (List.prefix_append_right_inj ['/', '/']).1
      (show ['/', '/'] ++ [c] <+: ['/', '/'] ++ (text ++ '\n' :: rest) from hmore)
    cases text with
    | nil => exact hne (List.cons.inj hmore).1
    | cons d _ => exact hc (congrArg some (List.cons.inj hmore).1.symm)
  have hcomment : commentLength? ('/' :: '/' :: text ++ '\n' :: rest) = some (text.length + 2) := by
    have htwo : begins "//" ('/' :: '/' :: text ++ '\n' :: rest) = true := rfl
    rw [commentLength?, htwo, hbegins '/' "///" rfl hhead.1 (by decide),
      hbegins '!' "//!" rfl hhead.2 (by decide), lineLength_append (by simpa using hbreak)]
    rfl
  have hskip : Lexes (line + ('/' :: '/' :: text).count '\n') ('\n' :: rest) cut := by
    rwa [hbreaks]
  refine skip ?_ hskip
  rw [List.cons_append] at hcomment ⊢
  have hdrop : ('/' :: ('/' :: text ++ '\n' :: rest)).drop (text.length + 2) = '\n' :: rest := by
    simp
  rw [gapLength_of_commentLength? (by decide) hcomment, hdrop]
  rfl

end Lexes

end Code

end EventTracking
