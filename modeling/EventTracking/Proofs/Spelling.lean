import EventTracking.Proofs.Lexing
import EventTracking.Proofs.Words

/-!
# Spelled code

Code can be given as a list of pieces: words, marks, quoted texts, lifetimes, groups that hold more
pieces, and what may stand between them. Pieces have a text and tokens of their own. They fit
together if each piece ends where it should: no word is followed by more of a word, and a mark is
followed by another one exactly if it says so.

The text of pieces that fit together is read piece by piece, from left to right, and the lexemes of
a group nest into one token. Both proofs are inductions on the pieces, a group being as many pieces
as it holds.

Main statements: pieces that fit together are cut into their lexemes (`Lexes.pieces`), which nest
into their tokens (`nest_lexemesOf`), so that the text of the pieces has these tokens
(`ofChars_textOf`). A word that is no keyword is a name by itself (`isNameText_of_isWord`).
-/

namespace EventTracking

open Text

namespace Code

/-! ## Pieces -/

/-- The character that opens a group. -/
def Delimiter.openingSign : Delimiter → Char
  | parenthesis => '('
  | brace => '\x7b'
  | bracket => '['

/-- The character that closes a group. -/
def Delimiter.closingSign : Delimiter → Char
  | parenthesis => ')'
  | brace => '\x7d'
  | bracket => ']'

/-- A piece of code. -/
inductive Piece where
  /-- Blanks. -/
  | gap (blanks : String)
  /-- A comment up to the end of its line. -/
  | comment (content : String)
  /-- A documentation comment up to the end of its line. -/
  | documentation (content : String)
  /-- A word. -/
  | word (identifier : Identifier)
  /-- A punctuation character, and whether another one directly follows it. -/
  | mark (character : Char) (joint : Bool)
  /-- A text between quotes. -/
  | quoted (content : String)
  /-- A lifetime. -/
  | lifetime (identifier : Identifier)
  /-- What a pair of delimiters encloses. -/
  | group (delimiter : Delimiter) (inner : List Piece)

namespace Piece

mutual

/-- A piece as it is written. -/
def text : Piece → List Char
  | gap blanks => blanks.toList
  | comment content => '/' :: '/' :: content.toList
  | documentation content => '/' :: '/' :: '/' :: content.toList
  | word identifier => identifier.written.toList
  | mark character _ => [character]
  | quoted content => (quote content).toList
  | lifetime identifier => '\'' :: identifier.written.toList
  | group delimiter inner => delimiter.openingSign :: (textOf inner ++ [delimiter.closingSign])

/-- Pieces as they are written. -/
def textOf : List Piece → List Char
  | [] => []
  | piece :: rest => piece.text ++ textOf rest

end

mutual

/-- The number of line breaks in a piece. -/
def breaks : Piece → Nat
  | gap blanks => blanks.toList.count '\n'
  | group _ inner => breaksIn inner
  | _ => 0

/-- The number of line breaks in some pieces. -/
def breaksIn : List Piece → Nat
  | [] => 0
  | piece :: rest => piece.breaks + breaksIn rest

end

mutual

/-- The lexemes of a piece that begins on a line. -/
def lexemes (line : Nat) : Piece → List Lexeme
  | gap _ => []
  | comment _ => []
  | documentation _ => [.documentation false line line]
  | word identifier => [.word identifier line]
  | mark character joint => [.mark character joint line]
  | quoted _ => [.literal .text line]
  | lifetime identifier => [.mark '\'' true line, .word identifier line]
  | group delimiter inner =>
    .opening delimiter line ::
      (lexemesOf line inner ++ [.closing delimiter (line + breaksIn inner)])

/-- The lexemes of pieces that begin on a line. -/
def lexemesOf (line : Nat) : List Piece → List Lexeme
  | [] => []
  | piece :: rest => piece.lexemes line ++ lexemesOf (line + piece.breaks) rest

end

mutual

/-- The tokens of a piece that begins on a line. -/
def tokens (line : Nat) : Piece → List Token
  | gap _ => []
  | comment _ => []
  | documentation _ => Token.documentation false line line
  | word identifier => [.word identifier line]
  | mark character joint => [.mark character joint line]
  | quoted _ => [.literal .text line]
  | lifetime identifier => [.lifetime identifier line]
  | group delimiter inner =>
    [.group delimiter (tokensOf line inner) line (line + breaksIn inner)]

/-- The tokens of pieces that begin on a line. -/
def tokensOf (line : Nat) : List Piece → List Token
  | [] => []
  | piece :: rest => piece.tokens line ++ tokensOf (line + piece.breaks) rest

end

/-- The pieces of two lists are written one list after the other. -/
theorem textOf_append (pieces more : List Piece) :
    textOf (pieces ++ more) = textOf pieces ++ textOf more := by
  induction pieces with
  | nil => rfl
  | cons piece rest ih => rw [List.cons_append, textOf, textOf, ih, List.append_assoc]

/-- So are their line breaks. -/
theorem breaksIn_append (pieces more : List Piece) :
    breaksIn (pieces ++ more) = breaksIn pieces + breaksIn more := by
  induction pieces with
  | nil => exact (Nat.zero_add _).symm
  | cons piece rest ih => rw [List.cons_append, breaksIn, breaksIn, ih, Nat.add_assoc]

/-- So are their tokens. -/
theorem tokensOf_append (line : Nat) (pieces more : List Piece) :
    tokensOf line (pieces ++ more) =
      tokensOf line pieces ++ tokensOf (line + breaksIn pieces) more := by
  induction pieces generalizing line with
  | nil => rfl
  | cons piece rest ih =>
      rw [List.cons_append, tokensOf, tokensOf, ih, breaksIn, List.append_assoc, Nat.add_assoc]

/-! ## Pieces that fit together -/

mutual

/-- Whether a piece ends where the text after it begins. -/
def fits : Piece → List Char → Bool
  | gap blanks, _ => blanks.toList.all isGap
  | comment content, after =>
    after.head? == some '\n' && !content.toList.contains '\n' &&
      content.toList.head? != some '/' && content.toList.head? != some '!'
  | documentation content, after =>
    after.head? == some '\n' && !content.toList.contains '\n' && !content.toList.contains '\r' &&
      content.toList.head? != some '/'
  | word _, after => endsWord after
  | mark character joint, after => plainMarks.contains character && beginsMark after == joint
  | quoted _, after => endsWord after
  | lifetime identifier, after => !identifier.raw && endsWord after
  | group delimiter inner, after =>
    (textOf inner ++ [delimiter.closingSign]).head? != some '/' &&
      fitAll inner (delimiter.closingSign :: after)

/-- Whether pieces end where the next one or the text after them begins. -/
def fitAll : List Piece → List Char → Bool
  | [], _ => true
  | piece :: rest, after => piece.fits (textOf rest ++ after) && fitAll rest after

end

/-- The pieces of two lists fit if those of the first fit to the text of the second. -/
theorem fitAll_append (pieces more : List Piece) (after : List Char) :
    fitAll (pieces ++ more) after =
      (fitAll pieces (textOf more ++ after) && fitAll more after) := by
  induction pieces with
  | nil => rfl
  | cons piece rest ih =>
      rw [List.cons_append, fitAll, fitAll, ih, textOf_append, List.append_assoc, Bool.and_assoc]

end Piece

/-! ## Cutting the text of pieces -/

/-- The opening sign of a delimiter opens it. -/
theorem openingDelimiter?_openingSign (delimiter : Delimiter) :
    openingDelimiter? delimiter.openingSign = some delimiter := by
  cases delimiter <;> rfl

/-- The closing sign of a delimiter closes it. -/
theorem closingDelimiter?_closingSign (delimiter : Delimiter) :
    closingDelimiter? delimiter.closingSign = some delimiter := by
  cases delimiter <;> rfl

/-- What is written for an identifier stands on one line. -/
theorem lineBreak_notMem_written (identifier : Identifier) :
    '\n' ∉ identifier.written.toList := by
  have htext : '\n' ∉ identifier.text.toList :=
    notMem_of_isWord identifier.isWord_text (by decide) (by decide)
  cases hraw : identifier.raw with
  | false => rwa [Identifier.written_of_not_raw hraw]
  | true =>
      rw [Identifier.toList_written_of_raw hraw]
      simpa using htext

namespace Lexes

variable {line : Nat} {after : List Char} {cut : List Lexeme}

/-- A word goes in front of what follows it. -/
theorem word (identifier : Identifier) (hafter : endsWord after = true)
    (h : Lexes line after cut) :
    Lexes line (identifier.written.toList ++ after) (.word identifier line :: cut) := by
  obtain ⟨c, rest, htext, hc⟩ := identifier.exists_cons_written
  have hslash : c ≠ '/' := by
    rintro rfl
    cases hc
  apply cons
  · rw [htext]
    exact List.cons_ne_nil c rest
  · rw [htext, List.cons_append]
    exact gapLength_eq_zero (isGap_of_isWordStart hc) (commentLength?_eq_none hslash _)
  · exact lexeme?_written identifier hafter line
  · rwa [List.count_eq_zero.2 (lineBreak_notMem_written identifier)]

/-- A single character that is a lexeme goes in front of what follows it. -/
theorem sign {c : Char} {lexeme : Lexeme} (hgap : isGap c = false) (hslash : c ≠ '/')
    (hbreak : c ≠ '\n') (hlexeme : lexeme? line (c :: after) = some (lexeme, 1))
    (h : Lexes line after cut) : Lexes line (c :: after) (lexeme :: cut) := by
  rw [← List.singleton_append] at hlexeme ⊢
  refine cons (List.cons_ne_nil c []) ?_ hlexeme ?_
  · exact gapLength_eq_zero hgap (commentLength?_eq_none hslash after)
  · rwa [List.count_cons_of_ne hbreak, List.count_nil]

/-- A quoted text goes in front of what follows it. -/
theorem quoted (content : String) (hafter : endsWord after = true) (h : Lexes line after cut) :
    Lexes line ((quote content).toList ++ after) (.literal .text line :: cut) := by
  apply cons
  · exact fun hnil => by simp [quote] at hnil
  · rw [toList_quote_append]
    exact gapLength_eq_zero (by decide) (commentLength?_eq_none (by decide) _)
  · exact lexeme?_quote content hafter line
  · rwa [List.count_eq_zero.2 (lineBreak_notMem_quote content)]

/-- Documentation goes in front of what follows its line. -/
theorem documentation {content rest : List Char} (hslash : content.head? ≠ some '/')
    (hbreak : '\n' ∉ content) (hreturn : '\r' ∉ content) (h : Lexes line ('\n' :: rest) cut) :
    Lexes line ('/' :: '/' :: '/' :: content ++ '\n' :: rest)
      (.documentation false line line :: cut) := by
  have hbreaks : ('/' :: '/' :: '/' :: content).count '\n' = 0 := by
    rw [List.count_eq_zero]
    simpa using hbreak
  have hcomment : commentLength? ('/' :: '/' :: '/' :: content ++ '\n' :: rest) = none := by
    rw [commentLength?, begins_four_eq_false hslash rest]
    rfl
  refine cons (List.cons_ne_nil _ _) ?_ (lexeme?_documentation hslash hbreak hreturn line rest) ?_
  · exact gapLength_eq_zero (by decide) hcomment
  · rwa [hbreaks]

mutual

/-- The lexemes of a piece that fits go in front of those of the text after it. -/
theorem piece {line : Nat} {after : List Char} {cut : List Lexeme} (piece : Piece)
    (hfits : piece.fits after = true) (h : Lexes (line + piece.breaks) after cut) :
    Lexes line (piece.text ++ after) (piece.lexemes line ++ cut) := by
  cases piece with
  | gap blanks => exact Lexes.gap hfits h
  | comment content =>
      simp only [Piece.fits, Bool.and_eq_true, beq_iff_eq, bne_iff_ne, Bool.not_eq_true',
        List.contains_iff_mem, Bool.eq_false_iff, Ne] at hfits
      obtain ⟨⟨⟨hafter, hbreak⟩, hslash⟩, hbang⟩ := hfits
      obtain ⟨rest, rfl⟩ := List.head?_eq_some_iff.1 hafter
      exact comment hbreak ⟨hslash, hbang⟩ h
  | documentation content =>
      simp only [Piece.fits, Bool.and_eq_true, beq_iff_eq, bne_iff_ne, Bool.not_eq_true',
        List.contains_iff_mem, Bool.eq_false_iff, Ne] at hfits
      obtain ⟨⟨⟨hafter, hbreak⟩, hreturn⟩, hslash⟩ := hfits
      obtain ⟨rest, rfl⟩ := List.head?_eq_some_iff.1 hafter
      exact documentation hslash hbreak hreturn h
  | word identifier => exact word identifier hfits h
  | mark character joint =>
      simp only [Piece.fits, Bool.and_eq_true, beq_iff_eq, List.contains_iff_mem] at hfits
      obtain ⟨hmem, rfl⟩ := hfits
      obtain ⟨hgap, hslash, hbreak⟩ := ordinary_of_mem_plainMarks hmem
      exact sign hgap hslash hbreak (lexeme?_mark hmem line after) h
  | quoted content => exact quoted content hfits h
  | lifetime identifier =>
      simp only [Piece.fits, Bool.and_eq_true, Bool.not_eq_true'] at hfits
      exact sign (by decide) (by decide) (by decide) (lexeme?_lifetime hfits.1 hfits.2 line)
        (word identifier hfits.2 h)
  | group delimiter inner =>
      simp only [Piece.fits, Bool.and_eq_true, bne_iff_ne] at hfits
      have hopening := openingDelimiter?_openingSign delimiter
      have hclosing := closingDelimiter?_closingSign delimiter
      have hsigns : (isGap delimiter.openingSign = false ∧ delimiter.openingSign ≠ '/' ∧
          delimiter.openingSign ≠ '\n') ∧ isGap delimiter.closingSign = false ∧
          delimiter.closingSign ≠ '/' ∧ delimiter.closingSign ≠ '\n' := by
        cases delimiter <;> decide +kernel
      obtain ⟨⟨hgap, hslash, hbreak⟩, hgap', hslash', hbreak'⟩ := hsigns
      have hend : Lexes (line + Piece.breaksIn inner) (delimiter.closingSign :: after)
          (.closing delimiter (line + Piece.breaksIn inner) :: cut) :=
        sign hgap' hslash' hbreak' (lexeme?_closing hclosing _ after) h
      have hinner := pieces inner hfits.2 hend
      have htext : (Piece.group delimiter inner).text ++ after =
          delimiter.openingSign :: (Piece.textOf inner ++ delimiter.closingSign :: after) := by
        simp [Piece.text]
      have hlexemes : (Piece.group delimiter inner).lexemes line ++ cut =
          .opening delimiter line :: (Piece.lexemesOf line inner ++
            .closing delimiter (line + Piece.breaksIn inner) :: cut) := by
        simp [Piece.lexemes]
      rw [htext, hlexemes]
      refine sign hgap hslash hbreak (lexeme?_opening hopening ?_ line) hinner
      intro hhead
      apply hfits.1
      cases hinside : Piece.textOf inner with
      | nil =>
          rw [hinside] at hhead
          exact hhead
      | cons c more =>
          rw [hinside] at hhead
          exact hhead

/-- The lexemes of pieces that fit go in front of those of the text after them. -/
theorem pieces {line : Nat} {after : List Char} {cut : List Lexeme} (pieces : List Piece)
    (hfit : Piece.fitAll pieces after = true)
    (h : Lexes (line + Piece.breaksIn pieces) after cut) :
    Lexes line (Piece.textOf pieces ++ after) (Piece.lexemesOf line pieces ++ cut) := by
  cases pieces with
  | nil => exact h
  | cons first rest =>
      rw [Piece.fitAll, Bool.and_eq_true] at hfit
      rw [Piece.breaksIn, ← Nat.add_assoc] at h
      rw [Piece.textOf, Piece.lexemesOf, List.append_assoc, List.append_assoc]
      exact piece first hfit.1 (pieces rest hfit.2 h)

end

end Lexes

/-! ## Nesting the lexemes of pieces -/

mutual

/-- The lexemes of a piece nest into its tokens, whatever is open and whatever follows. -/
theorem nest_lexemes (piece : Piece) {after : List Char} (hfits : piece.fits after = true)
    (line : Nat) (opened : List Token.Open) (read : List Token) (rest : List Lexeme) :
    Token.nest opened read (piece.lexemes line ++ rest) =
      Token.nest opened ((piece.tokens line).reverse ++ read) rest := by
  cases piece with
  | gap => rfl
  | comment => rfl
  | documentation => rw [Piece.lexemes, Piece.tokens, List.singleton_append, Token.nest]
  | word => rw [Piece.lexemes, Piece.tokens, List.singleton_append, Token.nest]; rfl
  | mark character joint => 
      simp only [Piece.fits, Bool.and_eq_true, List.contains_iff_mem] at hfits
      have hquote : character ≠ '\'' := by
        rintro rfl
        exact absurd hfits.1 (by decide)
      rw [Piece.lexemes, Piece.tokens, List.singleton_append, List.reverse_singleton,
        List.singleton_append, Token.nest]
      exact fun _ _ _ _ => hquote
  | quoted => rw [Piece.lexemes, Piece.tokens, List.singleton_append, Token.nest]; rfl
  | lifetime =>
      rw [Piece.lexemes, Piece.tokens, List.cons_append, List.singleton_append, Token.nest]
      rfl
  | group delimiter inner =>
      rw [Piece.fits, Bool.and_eq_true] at hfits
      rw [Piece.lexemes, Piece.tokens, List.cons_append, List.append_assoc, List.singleton_append,
        Token.nest, nest_lexemesOf inner hfits.2, Token.nest, if_pos rfl, List.append_nil,
        List.reverse_reverse]
      rfl

/-- The lexemes of pieces nest into their tokens. -/
theorem nest_lexemesOf (pieces : List Piece) {after : List Char}
    (hfit : Piece.fitAll pieces after = true) (line : Nat) (opened : List Token.Open)
    (read : List Token) (rest : List Lexeme) :
    Token.nest opened read (Piece.lexemesOf line pieces ++ rest) =
      Token.nest opened ((Piece.tokensOf line pieces).reverse ++ read) rest := by
  cases pieces with
  | nil => rfl
  | cons first more =>
      rw [Piece.fitAll, Bool.and_eq_true] at hfit
      rw [Piece.lexemesOf, Piece.tokensOf, List.append_assoc, nest_lexemes first hfit.1,
        nest_lexemesOf more hfit.2, List.reverse_append, List.append_assoc]

end

/-! ## Reading pieces -/

/-- The text of pieces that fit together has their tokens. -/
theorem ofChars_textOf {pieces : List Piece} (hfit : Piece.fitAll pieces [] = true)
    (hmark : (Piece.textOf pieces).head? ≠ some byteOrderMark) :
    Token.ofChars (Piece.textOf pieces) = .ok (Piece.tokensOf 1 pieces) := by
  have hwhole : withoutByteOrderMark (Piece.textOf pieces) = Piece.textOf pieces := by
    cases htext : Piece.textOf pieces with
    | nil => rfl
    | cons c rest =>
        rw [htext] at hmark
        exact withoutByteOrderMark_cons (fun hc => hmark (congrArg some hc)) rest
  have hcut := Lexes.pieces pieces hfit (Lexes.nil (1 + Piece.breaksIn pieces))
  rw [List.append_nil, List.append_nil] at hcut
  have hnest := nest_lexemesOf pieces hfit 1 [] [] []
  rw [List.append_nil, List.append_nil] at hnest
  rw [Token.ofChars, lexemes, hwhole, hcut _ (Nat.lt_succ_self _), Token.ofLexemes, hnest,
    Token.nest, List.reverse_reverse]

/-- What is written for an identifier has that identifier as its only token. -/
theorem ofChars_written (identifier : Identifier) :
    Token.ofChars identifier.written.toList = .ok [.word identifier 1] := by
  have htext : Piece.textOf [.word identifier] = identifier.written.toList := by
    simp [Piece.textOf, Piece.text]
  have hhead : (Piece.textOf [.word identifier]).head? ≠ some byteOrderMark := by
    obtain ⟨c, rest, hwritten, hc⟩ := identifier.exists_cons_written
    rw [htext, hwritten, List.head?_cons]
    intro heq
    rw [Option.some.inj heq, show isWordStart byteOrderMark = false by decide +kernel] at hc
    cases hc
  have htokens := ofChars_textOf rfl hhead
  rwa [htext] at htokens

/-- A word is a name by itself unless it is a keyword. -/
theorem isNameText_of_isWord {word : String} (h : isWord word.toList = true) :
    Token.isNameText word = !keywords.contains word := by
  have htokens := ofChars_written ⟨false, word, h, fun hraw => nomatch hraw⟩
  rw [Identifier.written_of_not_raw rfl] at htokens
  rw [Token.isNameText, htokens]
  rfl

end Code

end EventTracking
