import EventTracking.Proofs.ArtifactTokens
import EventTracking.Proofs.ReadingRules

/-!
# Reading paths, patterns and values

The phrases of an artifact are read by the rules for the forms that they have: a path word by word,
with lifetimes behind its last word where it is a type, the pattern of an arm by the form of its
event, and an entry of the payload as a pair of expressions. A phrase that stands in a list may be
followed by nothing or by a comma, which ends what is read.

Main statements: the type of a group is read (`reads_groupType`), and so are the pattern of an arm
up to its arrow (`reads_armPattern`) and the list of the entries in a payload (`reads_entryList`).
-/

namespace EventTracking

open Code Text

namespace Grammar

open Piece

section

variable {rules : Rules} {inExpression : Bool} {rest : List Token}

/-! ## Paths -/

/-- Whether no generic arguments lie ahead after a word of a path. -/
def EndsSegment (inExpression : Bool) (tokens : List Token) : Prop :=
  (!inExpression && bareArgumentsAt tokens || separatedArgumentsAt tokens) = false

/-- Lifetimes are read up to the bracket that closes them. -/
theorem reads_openLifetimes (count line last : Nat) (rest : List Token) {fuel : Nat}
    (hfuel : count < fuel) :
    Reads (itemsFrom ⟨(Form.mark ">").startsAt, (Form.mark ">").startsAt, .mark ","⟩
        (genericArgument rules) fuel)
      (tokensOf line (openLifetimes count) ++ .mark '>' false last :: rest)
      (.mark '>' false last :: rest) (List.replicate (count + 1) none) := by
  induction count generalizing fuel with
  | zero =>
      obtain ⟨fuel, rfl⟩ := Nat.exists_eq_succ_of_ne_zero (Nat.ne_zero_of_lt hfuel)
      exact .itemsFrom_last rfl (fun _ _ => rfl) rfl
  | succ count ih =>
      obtain ⟨fuel, rfl⟩ := Nat.exists_eq_succ_of_ne_zero (Nat.ne_zero_of_lt hfuel)
      exact .itemsFrom_cons rfl (fun _ _ => rfl) rfl rfl (ih (Nat.lt_of_succ_lt_succ hfuel))

/-- The arguments of a type are read as such. -/
theorem reads_angleArguments (count line : Nat) (rest : List Token) :
    Reads (angleArguments rules) (tokensOf line (lifetimeArguments (count + 1)) ++ rest) rest
      (List.replicate (count + 1) none) := by
  have htokens : tokensOf line (lifetimeArguments (count + 1)) ++ rest =
      .mark '<' true line :: (tokensOf line (openLifetimes count) ++
        .mark '>' false (line + breaksIn (openLifetimes count)) :: rest) := by
    rw [lifetimeArguments, tokensOf, tokensOf_append, List.append_assoc,
      List.append_assoc]
    rfl
  have hne : ∀ phrase ∈ List.replicate (count + 1) [Piece.lifetime (.plain "_" (by decide))],
      ∀ line, tokensOf line phrase ≠ [] := by
    intro phrase hphrase line
    rw [(List.mem_replicate.1 hphrase).2]
    exact List.cons_ne_nil _ _
  have hitems : Reads (items ⟨(Form.mark ">").startsAt, (Form.mark ">").startsAt, .mark ","⟩
      (genericArgument rules)) (tokensOf line (openLifetimes count) ++
        .mark '>' false (line + breaksIn (openLifetimes count)) :: rest)
      (.mark '>' false (line + breaksIn (openLifetimes count)) :: rest)
      (List.replicate (count + 1) none) := by
    refine .bind (.ahead _) (reads_openLifetimes count line _ rest ?_)
    have hlength := length_le_length_listed hne line
    rw [List.length_replicate, ← openLifetimes] at hlength
    rw [List.length_append]
    omega
  rw [htokens]
  exact .bind (.expect rfl) (.bind hitems (.bind (.expect rfl) (.pure _ _)))

/-- What is answered for a word of a path and its lifetimes. -/
def segmentValue (name : Identifier) : (count : Nat) → Segment
  | 0 => (name, none)
  | count + 1 => (name, some (List.replicate (count + 1) none))

/-- A word of a path with its lifetimes. -/
def segmentPhrase (segment : Identifier × Nat) : List Piece :=
  [.mark ':' true, .mark ':' false, .word segment.1] ++ lifetimeArguments segment.2

/-- A word of a path is read with its lifetimes, which only stand outside expressions. -/
theorem reads_segment {name : Identifier} (h : name.isName = true) {count : Nat}
    (hcount : inExpression = true → count = 0) (hrest : EndsSegment inExpression rest)
    (line last : Nat) :
    Reads (segment rules inExpression)
      (.word name line :: (tokensOf last (lifetimeArguments count) ++ rest)) rest
      (segmentValue name count) := by
  have hword {text : String} (htext : text ∈ keywords) :
      (Form.word text).startsAt (.word name line ::
        (tokensOf last (lifetimeArguments count) ++ rest)) = false :=
    name.isPlain_eq_false h htext
  have hkeywords : (["super", "self", "crate", "try"].any fun text =>
      (Form.word text).startsAt (.word name line ::
        (tokensOf last (lifetimeArguments count) ++ rest))) = false := by
    rw [List.any_eq_false]
    intro text htext
    have hkeyword : ∀ text ∈ ["super", "self", "crate", "try"], text ∈ keywords := by decide
    rw [hword (hkeyword text htext)]
    decide
  refine .bind (.ahead _) (.ite_false hkeywords (.bind (.sees _ _) ?_))
  refine .ite_false (hword (by decide)) (.bind (.word_name h _ _) (.bind (.ahead _) ?_))
  cases count with
  | zero => exact .ite_false hrest (.pure _ _)
  | succ count =>
      obtain rfl : inExpression = false := by
        cases inExpression with
        | false => rfl
        | true => cases hcount rfl
      refine .ite_true (by cases count <;> rfl) (.bind (.optional_false rfl) ?_)
      exact .bind (reads_angleArguments count last rest) (.pure _ _)

/-- The words of a path after its first one are read with their lifetimes. -/
theorem reads_segments {segments : List (Identifier × Nat)}
    (hnames : ∀ segment ∈ segments, segment.1.isName = true)
    (hcounts : ∀ segment ∈ segments, inExpression = true → segment.2 = 0)
    (hrest : EndsSegment inExpression rest) (hend : segmentAt rest = false) (line : Nat) :
    Reads (segmentsWhile rules inExpression segmentAt)
      (tokensOf line (segments.flatMap segmentPhrase) ++ rest) rest
      (segments.map fun segment => segmentValue segment.1 segment.2) := by
  refine .repeatWhile rfl ?_ ?_ ?_ hrest hend line
  · exact fun _ _ _ _ => rfl
  · intro segment hsegment line rest hrest
    rw [segmentPhrase, tokensOf_append, List.append_assoc]
    exact .bind (.expect rfl)
      (reads_segment (hnames segment hsegment) (hcounts segment hsegment) hrest _ _)
  · intro segment _ line rest
    cases inExpression <;> rfl

/-- A path below the crate is read with the lifetimes of its words. -/
theorem reads_path {segments : List (Identifier × Nat)}
    (hnames : ∀ segment ∈ segments, segment.1.isName = true)
    (hcounts : ∀ segment ∈ segments, inExpression = true → segment.2 = 0)
    (hrest : EndsSegment inExpression rest) (hend : segmentAt rest = false) (line : Nat) :
    Reads (Grammar.path rules inExpression)
      (.word (.plain "crate" (by decide)) line ::
        (tokensOf line (segments.flatMap segmentPhrase) ++ rest)) rest
      (.ofSegments false ((.plain "crate" (by decide), none) ::
        segments.map fun segment => segmentValue segment.1 segment.2)) := by
  have hcrate : Reads (segment rules inExpression)
      (.word (.plain "crate" (by decide)) line ::
        (tokensOf line (segments.flatMap segmentPhrase) ++ rest))
      (tokensOf line (segments.flatMap segmentPhrase) ++ rest)
      (.plain "crate" (by decide), none) := fun _ _ => rfl
  exact .bind (.optional_false rfl) (.bind hcrate
    (.bind (reads_segments hnames hcounts hrest hend line) (.pure _ _)))

/-- So it is where a path may be qualified. -/
theorem reads_qualifiedPath {segments : List (Identifier × Nat)}
    (hnames : ∀ segment ∈ segments, segment.1.isName = true)
    (hcounts : ∀ segment ∈ segments, inExpression = true → segment.2 = 0)
    (hrest : EndsSegment inExpression rest) (hend : segmentAt rest = false) (line : Nat) :
    Reads (qualifiedPath rules inExpression)
      (.word (.plain "crate" (by decide)) line ::
        (tokensOf line (segments.flatMap segmentPhrase) ++ rest)) rest
      (false, .ofSegments false ((.plain "crate" (by decide), none) ::
        segments.map fun segment => segmentValue segment.1 segment.2)) :=
  .bind (.optional_false rfl)
    (.bind (reads_path hnames hcounts hrest hend line) (.pure _ _))

/-! ## Types -/

/-- The words of a path, the last one with lifetimes. -/
def typeSegments (count : Nat) : List Identifier → List (Identifier × Nat)
  | [] => []
  | [name] => [(name, count)]
  | name :: rest => (name, 0) :: typeSegments count rest

/-- A path is written as its words are, the last one with lifetimes. -/
theorem rooted_append_lifetimeArguments {names : List Identifier} (hne : names ≠ [])
    (count : Nat) :
    rooted names ++ lifetimeArguments count =
      (typeSegments count names).flatMap segmentPhrase := by
  induction names with
  | nil => exact absurd rfl hne
  | cons name rest ih =>
      cases rest with
      | nil => simp [rooted, typeSegments, segmentPhrase]
      | cons second others =>
          rw [rooted, List.flatMap_cons, ← rooted, List.append_assoc, ih (List.cons_ne_nil _ _)]
          rfl

/-- The words of a type are those of the path. -/
theorem map_fst_typeSegments (count : Nat) (names : List Identifier) :
    (typeSegments count names).map Prod.fst = names := by
  induction names with
  | nil => rfl
  | cons name rest ih =>
      cases rest with
      | nil => rfl
      | cons second others => rw [typeSegments, List.map_cons, ih]; simp

/-- A type that is a path is read as such. -/
theorem reads_pathType {tokens : List Token} {shape : PathShape}
    (h : Reads (qualifiedPath rules false) tokens [] (false, shape)) :
    Reads (pathType rules false false) tokens []
      (.path shape.rooted shape.segments shape.generic shape.argument) :=
  .bind h fun _ _ => rfl

/-- The type of a reference to the group is read. -/
theorem reads_groupType {names : List Identifier} (hne : names ≠ [])
    (hnames : ∀ name ∈ names, name.isName = true) (count depth line : Nat) :
    Reads (parse (depth + 2) (.type true))
      (.mark '&' false line :: tokensOf line (Piece.path names ++ lifetimeArguments count)) []
      .other := by
  have htokens : tokensOf line (Piece.path names ++ lifetimeArguments count) =
      .word (.plain "crate" (by decide)) line ::
        (tokensOf line ((typeSegments count names).flatMap segmentPhrase) ++ []) := by
    rw [Piece.path, List.cons_append, rooted_append_lifetimeArguments hne, List.append_nil]
    rfl
  have hsegments : ∀ segment ∈ typeSegments count names, segment.1.isName = true := by
    intro segment hsegment
    apply hnames
    rw [← map_fst_typeSegments count names]
    exact List.mem_map_of_mem hsegment
  have hcounts : ∀ segment ∈ typeSegments count names, false = true → segment.2 = 0 :=
    fun _ _ h => by cases h
  have hends : EndsSegment false [] := rfl
  have hpath : Reads (qualifiedPath (parse depth) false) _ _ _ :=
    reads_qualifiedPath hsegments hcounts hends rfl line
  rw [htokens]
  exact .of_bind (fun _ => pure .other) (reads_pathType hpath) (fun _ _ => rfl) (.pure _ _)

/-! ## Names where something else could stand -/

section

variable {name : Identifier} {line : Nat}

/-- No keyword lies ahead where a name does. -/
theorem startsAt_word_name (h : name.isName = true) {text : String} (htext : text ∈ keywords) :
    (Form.word text).startsAt (.word name line :: rest) = false :=
  name.isPlain_eq_false h htext

/-- No literal lies ahead where a name does. -/
theorem startsAt_literal_name (h : name.isName = true) :
    Form.anyLiteral.startsAt (.word name line :: rest) = false := by
  change (name.isPlain "true" || name.isPlain "false") = false
  rw [name.isPlain_eq_false h (by decide), name.isPlain_eq_false h (by decide)]
  rfl

/-- What may follow an item of a list: nothing, or a comma. -/
inductive EndsItem : List Token → Prop where
  | nil : EndsItem []
  | comma (joint : Bool) (line : Nat) (rest : List Token) : EndsItem (.mark ',' joint line :: rest)

/-- A name is a pattern where it ends an item. -/
theorem reads_namePattern (h : name.isName = true) (hrest : EndsItem rest) (depth : Nat) :
    Reads (parse (depth + 1) .pattern) (.word name line :: rest) rest .other := by
  have hpath : pathPatternAt (.word name line :: rest) = false := by
    have hself : ["Self", "super", "crate"].any (fun text =>
        (Form.word text).startsAt (.word name line :: rest)) = false := by
      rw [List.any_eq_false]
      intro text htext
      have hkeyword : ∀ text ∈ ["Self", "super", "crate"], text ∈ keywords := by decide
      rw [startsAt_word_name h (hkeyword text htext)]
      decide
    have hname : Form.name.startsAt (.word name line :: rest) = true := h
    rw [pathPatternAt, hname, startsAt_word_name h (by decide), hself]
    cases hrest <;> rfl
  have hword {text : String} (htext : text ∈ keywords) :
      (Form.word text).startsAt (.word name line :: rest) = false := startsAt_word_name h htext
  have hconstant : ((Form.mark "-").startsAt (.word name line :: rest) ||
      Form.anyLiteral.startsAt (.word name line :: rest) ||
      (Form.word "const").startsAt (.word name line :: rest)) = false := by
    rw [startsAt_literal_name h, hword (by decide)]
    rfl
  have hhead : (Form.name.startsAt (.word name line :: rest) ||
      ["ref", "mut", "self"].any fun text =>
        (Form.word text).startsAt (.word name line :: rest)) = true := by
    rw [show Form.name.startsAt (.word name line :: rest) = true from h]
    rfl
  have hbinding : Reads (namePattern (parse depth)) (.word name line :: rest) rest .other := by
    refine .bind (.optional_false (hword (by decide))) ?_
    refine .bind (.optional_false (hword (by decide))) ?_
    refine .bind (.sees _ _) (.ite_false (hword (by decide)) (.bind (.word_name h _ _) ?_))
    refine .bind (.optional_false ?_) (.pure _ _)
    cases hrest <;> rfl
  refine .bind (.ahead _) (.ite_false hpath (.bind (.optional_false (hword (by decide))) ?_))
  refine .ite_false rfl (.bind (.optional_false (hword (by decide))) (.ite_false rfl ?_))
  exact .ite_false hconstant (.ite_true hhead hbinding)

/-- The name of a field is read where a name or a number may stand. -/
theorem reads_member (h : name.isName = true) :
    Reads member (.word name line :: rest) rest true :=
  .bind (.ahead _) (.ite_true h (.bind (.word_name h _ _) (.pure _ _)))

/-- A pattern without bars is read as its only alternative. -/
theorem reads_alternatives {tokens : List Token} {shape : PatternShape}
    (hhead : (Form.mark "|").startsAt tokens = false)
    (h : Reads (rules .pattern) tokens rest shape) (hrest : barAt rest = false) :
    Reads (alternatives rules) tokens rest shape :=
  .bind (.optional_false hhead) (.bind h (.bind (.repeatWhile_none hrest) (.pure _ _)))

/-- A field in the pattern of an arm is read. -/
theorem reads_fieldPattern (event : Event) (field : String) (hrest : EndsItem rest) (depth : Nat) :
    Reads (fieldPattern (parse (depth + 1))) (tokensOf line (event.fieldPhrase field) ++ rest) rest
      () := by
  have hfield := isName_nameOf field
  have hword {text : String} (htext : text ∈ keywords) (tokens : List Token) :
      (Form.word text).startsAt (.word (nameOf field) line :: tokens) = false :=
    startsAt_word_name hfield htext
  unfold Event.fieldPhrase
  split
  · have htarget : Reads (parse (depth + 1) .pattern)
        (.word (nameOf (localName event.fields field)) line :: rest) rest .other :=
      reads_namePattern (isName_nameOf _) hrest depth
    refine .bind (.optional_false (hword (by decide) _)) ?_
    refine .bind (.optional_false (hword (by decide) _)) ?_
    refine .bind (.optional_false (hword (by decide) _)) ?_
    refine .ite_false rfl (.bind (reads_member hfield) (.bind (.sees _ _) ?_))
    refine .ite_true rfl (.bind (.expect rfl) ?_)
    refine .bind (reads_alternatives rfl htarget ?_) (.pure _ _)
    cases hrest <;> rfl
  · refine .bind (.optional_false (hword (by decide) _)) ?_
    refine .bind (.optional_false (hword (by decide) _)) ?_
    refine .bind (.optional_false (hword (by decide) _)) ?_
    refine .ite_false rfl (.bind (reads_member hfield) (.bind (.sees _ _) ?_))
    refine .ite_false ?_ (.pure _ _)
    cases hrest <;> rfl

/-- The fields in the braces of a pattern are read. -/
theorem reads_fieldPatterns (event : Event) {fields : List String} (depth line : Nat) {fuel : Nat}
    (hfuel : fields.length < fuel) :
    Reads (fieldPatterns (parse (depth + 1)) fuel)
      (tokensOf line (listed (fields.map event.fieldPhrase))) [] () := by
  have hhead (field : String) (line : Nat) (rest : List Token) :
      (tokensOf line (event.fieldPhrase field) ++ rest).isEmpty = false ∧
      (Form.mark "#").startsAt (tokensOf line (event.fieldPhrase field) ++ rest) = false ∧
      (Form.mark "..").startsAt (tokensOf line (event.fieldPhrase field) ++ rest) = false := by
    unfold Event.fieldPhrase
    split <;> exact ⟨rfl, rfl, rfl⟩
  induction fields generalizing line fuel with
  | nil =>
      obtain ⟨fuel, rfl⟩ := Nat.exists_eq_succ_of_ne_zero (Nat.ne_zero_of_lt hfuel)
      exact fun _ _ => rfl
  | cons first rest ih =>
      obtain ⟨fuel, rfl⟩ := Nat.exists_eq_succ_of_ne_zero (Nat.ne_zero_of_lt hfuel)
      cases rest with
      | nil =>
          obtain ⟨hempty, hhash, hdots⟩ := hhead first line []
          have hfield : Reads (fieldPattern (parse (depth + 1)))
              (tokensOf line (event.fieldPhrase first) ++ []) [] () :=
            reads_fieldPattern event first .nil depth
          rw [List.map_singleton, listed, List.intercalate_singleton,
            ← List.append_nil (tokensOf line _)]
          refine .bind (.atEnd _) (.ite_false hempty (.bind (.repeatWhile_none hhash) ?_))
          refine .bind (.optional_false hdots) (.ite_false rfl (.bind hfield ?_))
          exact .bind (.atEnd _) (.ite_true rfl (.pure _ _))
      | cons second others =>
          have hrest := ih (line + breaksIn (event.fieldPhrase first))
            (Nat.lt_of_succ_lt_succ hfuel)
          rw [List.map_cons, List.map_cons, tokensOf_listed_cons_cons, ← List.map_cons]
          obtain ⟨hempty, hhash, hdots⟩ := hhead first line
            (.mark ',' false (line + breaksIn (event.fieldPhrase first)) ::
              tokensOf (line + breaksIn (event.fieldPhrase first))
                (listed ((second :: others).map event.fieldPhrase)))
          refine .bind (.atEnd _) (.ite_false hempty (.bind (.repeatWhile_none hhash) ?_))
          refine .bind (.optional_false hdots) (.ite_false rfl
            (.bind (reads_fieldPattern event first (.comma _ _ _) depth) ?_))
          exact .bind (.atEnd _) (.ite_false rfl (.bind (.expect rfl) hrest))

/-- What stands behind the path of the variant is read up to the arrow. -/
theorem reads_patternPhrase (event : Event) (depth line last : Nat)
    (rest : List Token) :
    Reads (do
        let tokens ← ahead
        if (Form.group .brace).startsAt tokens then
          within .brace do fieldPatterns (parse (depth + 1)) ((← ahead).length + 1)
          return PatternShape.other
        else if (Form.group .parenthesis).startsAt tokens then
          let _ ← within .parenthesis (commaSeparated (alternatives (parse (depth + 1))))
          return .other
        else if (Form.mark "..").startsAt tokens then rangePattern (parse (depth + 1))
        else return .other)
      (tokensOf line event.patternPhrase ++ .mark '=' true last :: rest)
      (.mark '=' true last :: rest) .other := by
  unfold Event.patternPhrase
  split
  · exact fun _ _ => rfl
  · exact fun _ _ => rfl
  · rename_i first others _ _
    have hne : ∀ phrase ∈ (first :: others).map event.fieldPhrase, ∀ line,
        tokensOf line phrase ≠ [] := by
      intro phrase hphrase line
      obtain ⟨field, -, rfl⟩ := List.mem_map.1 hphrase
      unfold Event.fieldPhrase
      split <;> exact List.cons_ne_nil _ _
    have hfields (line : Nat) : Reads
        (do fieldPatterns (parse (depth + 1)) ((← ahead).length + 1))
        (tokensOf line (space :: (listed ((first :: others).map event.fieldPhrase) ++ [space]))) []
        () := by
      have htokens : tokensOf line
          (space :: (listed ((first :: others).map event.fieldPhrase) ++ [space])) =
            tokensOf line (listed ((first :: others).map event.fieldPhrase)) := by
        rw [tokensOf, tokensOf_append]
        exact List.append_nil _
      have hlength := length_le_length_listed hne line
      rw [htokens]
      refine .bind (.ahead _) (reads_fieldPatterns event depth line ?_)
      rwa [Nat.lt_succ_iff, ← List.length_map event.fieldPhrase]
    exact .bind (.ahead _) (.ite_true rfl (.bind (.within (hfields _) _ _ _) (.pure _ _)))
  · exact fun _ _ => rfl
  · exact fun _ _ => rfl
  · exact fun _ _ => rfl

/-- A path behind the crate is written as its words are. -/
theorem rooted_eq_flatMap (names : List Identifier) :
    rooted names = (names.map fun name => (name, 0)).flatMap segmentPhrase := by
  induction names with
  | nil => rfl
  | cons name rest ih => rw [rooted, List.flatMap_cons, ← rooted, ih]; rfl

/-- The pattern of an arm is read up to the arrow. -/
theorem reads_armPattern (event : Event) {names : List Identifier}
    (hnames : ∀ name ∈ names, name.isName = true) (depth line last : Nat) (rest : List Token) :
    Reads (alternatives (parse (depth + 2)))
      (tokensOf line (Piece.path names ++ event.patternPhrase) ++ .mark '=' true last :: rest)
      (.mark '=' true last :: rest) .other := by
  have hhead (line : Nat) : (Form.mark "::").startsAt
        (tokensOf line event.patternPhrase ++ .mark '=' true last :: rest) = false ∧
      (Form.mark "!").startsAt
        (tokensOf line event.patternPhrase ++ .mark '=' true last :: rest) = false := by
    unfold Event.patternPhrase
    split <;> exact ⟨rfl, rfl⟩
  obtain ⟨hseparator, hcall⟩ := hhead (line + breaksIn (Piece.path names))
  have htokens : tokensOf line (Piece.path names ++ event.patternPhrase) ++
        .mark '=' true last :: rest =
      .word (.plain "crate" (by decide)) line ::
        (tokensOf line ((names.map fun name => (name, 0)).flatMap segmentPhrase) ++
          (tokensOf (line + breaksIn (Piece.path names)) event.patternPhrase ++
            .mark '=' true last :: rest)) := by
    rw [tokensOf_append, List.append_assoc, Piece.path, rooted_eq_flatMap]
    rfl
  have hsegments : ∀ segment ∈ names.map fun name => (name, 0), segment.1.isName = true := by
    intro segment hsegment
    obtain ⟨name, hname, rfl⟩ := List.mem_map.1 hsegment
    exact hnames name hname
  have hcounts : ∀ segment ∈ names.map fun name => (name, 0),
      true = true → segment.2 = 0 := by
    intro segment hsegment _
    obtain ⟨name, -, rfl⟩ := List.mem_map.1 hsegment
    rfl
  have hends : EndsSegment true
      (tokensOf (line + breaksIn (Piece.path names)) event.patternPhrase ++
        .mark '=' true last :: rest) := by
    rw [EndsSegment, separatedArgumentsAt, hseparator]
    rfl
  have hend : segmentAt (tokensOf (line + breaksIn (Piece.path names)) event.patternPhrase ++
      .mark '=' true last :: rest) = false := by
    rw [segmentAt, hseparator]
    rfl
  have hpattern : Reads (pathPattern (parse (depth + 1)))
      (.word (.plain "crate" (by decide)) line ::
        (tokensOf line ((names.map fun name => (name, 0)).flatMap segmentPhrase) ++
          (tokensOf (line + breaksIn (Piece.path names)) event.patternPhrase ++
            .mark '=' true last :: rest))) (.mark '=' true last :: rest) .other := by
    refine .bind (reads_qualifiedPath hsegments hcounts hends hend line)
      (.bind (.ahead _) (.ite_false ?_ ?_))
    · rw [callAt, hcall]
      rfl
    · exact reads_patternPhrase event depth (line + breaksIn (Piece.path names)) last rest
  rw [htokens]
  exact reads_alternatives rfl (fun closing leftover => hpattern closing leftover) rfl

/-! ## Values -/

/-- A name alone is read as a path. -/
theorem reads_namePath (h : name.isName = true) :
    Reads (qualifiedPath rules true) [.word name line] []
      (false, .ofSegments false [(name, none)]) := by
  have hcount : true = true → 0 = 0 := fun _ => rfl
  have hends : EndsSegment true [] := rfl
  have hsegment : Reads (segment rules true) _ _ _ := reads_segment h hcount hends line line
  exact .bind (.optional_false rfl) (.bind (.bind (.optional_false rfl)
    (.bind hsegment (.bind (.repeatWhile_none rfl) (.pure _ _)))) (.pure _ _))

/-- A name alone is an atom. -/
theorem reads_nameAtom (h : name.isName = true) :
    Reads (atom rules true) [.word name line] [] .other := by
  have hword (text : String) (htext : text ∈ keywords) :
      (Form.word text).startsAt [.word name line] = false := startsAt_word_name h htext
  have hclosure : closureAt [.word name line] = false := by
    simp only [closureAt, hword "move" (by decide), hword "static" (by decide),
      hword "for" (by decide), hword "const" (by decide), hword "async" (by decide)]
    rfl
  have hpath : (pathWordAt [.word name line] || anyMarkAt ["::", "<"] [.word name line] ||
      (Form.word "try").startsAt [.word name line] &&
        anyMarkAt ["!", "::"] ([.word name line].drop 1)) = true := by
    rw [pathWordAt, show Form.name.startsAt [.word name line] = true from h]
    rfl
  have hexpression : Reads (pathExpression rules true) [.word name line] [] .other :=
    .bind (reads_namePath h) (.bind (.ahead _) (.ite_false rfl (.ite_false rfl (.pure _ _))))
  -- the first branches need keywords, or something else after the word
  refine .bind (.ahead _) (.ite_false (startsAt_literal_name h) (.ite_false (Bool.and_false _) ?_))
  refine .ite_false (Bool.and_false _) (.ite_false hclosure (.ite_false (Bool.and_false _) ?_))
  exact .ite_true hpath hexpression

/-- A name alone is an expression. -/
theorem reads_nameExpression (h : name.isName = true) (depth : Nat) :
    Reads (parse (depth + 2) (.expression true)) [.word name line] [] .other := by
  have hoperand : Reads (operandRule (parse depth) true) [.word name line] [] .other := by
    refine .bind (.repeatWhile_none rfl) (.bind (.ahead _) (.ite_false rfl ?_))
    refine .ite_false rfl ?_
    refine .get_bind fun _ => .bind (reads_nameAtom h) (.bind (fun _ _ => rfl) ?_)
    exact .ite_false rfl (.pure _ _)
  exact .bind hoperand fun _ _ => rfl

/-- The field of a value is read behind its dot. -/
theorem reads_selection (h : name.isName = true) (dotLine : Nat) :
    Reads (selection rules) [.mark '.' false dotLine, .word name line] [] () := by
  have haccess : Reads (access rules) [.word name line] [] () := by
    refine .bind (.optional_false (startsAt_word_name h (by decide))) (.ite_false rfl ?_)
    refine .bind (reads_member h) (.bind (.sees _ _) (.ite_false rfl (.bind (.sees _ _) ?_)))
    exact .ite_false rfl (.pure _ _)
  exact .bind (.expect rfl) (.get_bind fun _ => .bind (.ahead _) haccess)

/-- The field of a value is an operand. -/
theorem reads_fieldOperand (h : name.isName = true) (eventLine dotLine : Nat) :
    Reads (operandRule rules true)
      [.word (.plain "event" (by decide)) eventLine, .mark '.' false dotLine, .word name line] []
      .other := by
  have hatom : Reads (atom rules true)
      [.word (.plain "event" (by decide)) eventLine, .mark '.' false dotLine, .word name line]
      [.mark '.' false dotLine, .word name line] .other := fun _ _ => rfl
  have htrailers : Reads (trailers rules .other) [.mark '.' false dotLine, .word name line] []
      .other := by
    refine .bind (.ahead _) (.bind (.ahead _) (.ite_false rfl (.ite_true rfl ?_)))
    exact .bind (reads_selection h dotLine) fun _ _ => rfl
  refine .bind (.repeatWhile_none rfl) (.bind (.ahead _) (.ite_false rfl (.ite_false rfl ?_)))
  exact .get_bind fun _ => .bind hatom (.bind htrailers (.ite_false rfl (.pure _ _)))

/-- The value of a field is an expression. -/
theorem reads_valuePhrase (event : Event) (field : String) (depth line : Nat) :
    Reads (parse (depth + 3) (.expression true)) (tokensOf line (event.valuePhrase field)) []
      .other := by
  unfold Event.valuePhrase
  split
  · have hoperand : Reads (operandRule (parse (depth + 1)) true)
        [.mark '&' false line, .word (.plain "event" (by decide)) line, .mark '.' false line,
          .word (nameOf field) line] [] .other := by
      refine .bind (.repeatWhile_none rfl) (.bind (.ahead _) (.ite_true rfl ?_))
      refine .bind (.expect rfl) ?_
      refine .bind (.ahead _) (.ite_false rfl (.bind (.optional_false rfl) (.ite_false rfl ?_)))
      exact .bind (reads_fieldOperand (isName_nameOf field) line line) (.pure _ _)
    exact .bind hoperand fun _ _ => rfl
  · exact reads_nameExpression (isName_nameOf _) (depth + 1)

/-! ## Calls and entries -/

/-- Expressions in parentheses are read. -/
theorem reads_parenthesized {inner : List Token} {shapes : List Shape}
    (h : Reads (commaSeparated (rules (.expression true))) inner [] shapes) (line closing : Nat)
    (rest : List Token) :
    Reads (parenthesized rules) (.group .parenthesis inner line closing :: rest) rest () := by
  refine .within ?_ line closing rest
  exact .bind h (.pure _ _)

/-- So is a single expression. -/
theorem reads_single {inner : List Token} (hne : inner.isEmpty = false)
    (h : Reads (rules (.expression true)) inner [] .other) :
    Reads (commaSeparated (rules (.expression true))) inner [] [.other] := by
  refine .bind (.ahead _) ?_
  exact .itemsFrom_last hne h rfl

/-- A function with a single argument is an operand. -/
theorem reads_callOperand {tokens inner : List Token} {line closing : Nat}
    (hhash : (Form.mark "#").startsAt tokens = false)
    (hreference : (Form.mark "&").startsAt tokens = false)
    (hsign : anyMarkAt ["*", "!", "-"] tokens = false)
    (hatom : Reads (atom rules true) tokens (.group .parenthesis inner line closing :: rest) .other)
    (hne : inner.isEmpty = false) (h : Reads (rules (.expression true)) inner [] .other)
    (hrest : ∀ fuel, Reads (trailersFrom rules fuel .other) rest rest .other) :
    Reads (operandRule rules true) tokens rest .other := by
  have htrailers : Reads (trailers rules .other) (.group .parenthesis inner line closing :: rest)
      rest .other := by
    refine .bind (.ahead _) (.bind (.ahead _) (.ite_true rfl ?_))
    exact .bind (reads_parenthesized (reads_single hne h) line closing _) (hrest _)
  refine .bind (.repeatWhile_none hhash) (.bind (.ahead _) (.ite_false hreference ?_))
  refine .ite_false hsign (.get_bind fun _ => ?_)
  exact .bind hatom (.bind htrailers (.ite_false rfl (.pure _ _)))

/-- No more of an expression is read at the end of a group. -/
theorem reads_trailersFrom_nil (fuel : Nat) :
    Reads (trailersFrom rules fuel .other) [] [] .other := by
  cases fuel <;> exact fun _ _ => rfl

/-- Expressions in parentheses are an operand before a comma. -/
theorem reads_parenthesizedOperand {inner : List Token} {shapes : List Shape}
    (h : Reads (commaSeparated (rules (.expression true))) inner [] shapes)
    (line closing last : Nat) (rest : List Token) :
    Reads (operandRule rules true)
      (.group .parenthesis inner line closing :: .mark ',' false last :: rest)
      (.mark ',' false last :: rest) .other := by
  have hgroup := reads_parenthesized h line closing (.mark ',' false last :: rest)
  have hatom : Reads (atom rules true)
      (.group .parenthesis inner line closing :: .mark ',' false last :: rest)
      (.mark ',' false last :: rest) .other :=
    .of_bind (fun _ => pure .other) hgroup (fun _ _ => rfl) (.pure _ _)
  refine .bind (.repeatWhile_none rfl) (.bind (.ahead _) (.ite_false rfl (.ite_false rfl ?_)))
  exact .get_bind fun _ => .bind hatom (.bind (fun _ _ => rfl) (.ite_false rfl (.pure _ _)))

/-- The call that converts a value is an expression. -/
theorem reads_conversion {inner : List Token} {depth : Nat} (hne : inner.isEmpty = false)
    (h : Reads (parse (depth + 1) (.expression true)) inner [] .other) (line closing : Nat) :
    Reads (parse (depth + 3) (.expression true))
      (tokensOf line (runtime [.plain "to_value" (by decide)]) ++
        [.group .parenthesis inner line closing]) [] .other :=
  have hoperand : Reads (operandRule (parse (depth + 1)) true) _ [] .other :=
    reads_callOperand rfl rfl rfl (fun _ _ => rfl) hne h reads_trailersFrom_nil
  .bind hoperand fun _ _ => rfl

/-- The key and the value of an entry are read between its parentheses. -/
theorem reads_pairPhrase (event : Event) (field : String) (depth line : Nat) :
    Reads (commaSeparated (parse (depth + 5) (.expression true)))
      (tokensOf line (event.pairPhrase field)) [] [.other, .other] := by
  have hne : (tokensOf line (event.valuePhrase field)).isEmpty = false := by
    unfold Event.valuePhrase
    split <;> rfl
  have hkey (tokens : List Token) : Reads (parse (depth + 5) (.expression true))
      (tokensOf line [.quoted (snakeCase field), .mark '.' false, plain "to_owned" (by decide),
        .group .parenthesis [], .mark ',' false, space] ++ tokens)
      (.mark ',' false line :: tokens) .other := fun _ _ => rfl
  have hconversion := reads_conversion hne (reads_valuePhrase event field depth line) line
    (line + breaksIn (event.valuePhrase field))
  rw [Event.pairPhrase, tokensOf_append]
  refine .bind (.ahead _) (.itemsFrom_cons rfl (hkey _) rfl rfl ?_)
  exact .itemsFrom_last rfl hconversion rfl

/-- The entry of a field is read up to the comma behind it. -/
theorem reads_entryPhrase (event : Event) (field : String) (depth line last : Nat)
    (rest : List Token) :
    Reads (parse (depth + 7) (.expression true))
      (tokensOf line [.group .parenthesis (event.pairPhrase field)] ++
        .mark ',' false last :: rest)
      (.mark ',' false last :: rest) .other :=
  .bind (reads_parenthesizedOperand (reads_pairPhrase event field depth line) _ _ _ _)
    fun _ _ => rfl

/-- The lines of the entries. -/
def entryLines (event : Event) (fields : List String) : List Piece :=
  fields.flatMap fun field => Piece.line 4 (event.entryPhrase field)

/-- An entry on its line is the group of the entry and a comma. -/
theorem tokensOf_entryLine (event : Event) (field : String) (line : Nat) :
    tokensOf line (Piece.line 4 (event.entryPhrase field)) =
      tokensOf (line + (indent 4).breaks) [.group .parenthesis (event.pairPhrase field)] ++
        [.mark ',' false
          (line + (indent 4).breaks + (group .parenthesis (event.pairPhrase field)).breaks)] :=
  rfl

/-- Entries are read up to the end of the list. -/
theorem reads_entryLines (event : Event) (fields : List String) (depth line : Nat) {fuel : Nat}
    (hfuel : fields.length < fuel) :
    Reads (itemsFrom ⟨List.isEmpty, List.isEmpty, .mark ","⟩
        (parse (depth + 7) (.expression true)) fuel)
      (tokensOf line (entryLines event fields)) [] (fields.map fun _ => .other) := by
  induction fields generalizing line fuel with
  | nil =>
      obtain ⟨fuel, rfl⟩ := Nat.exists_eq_succ_of_ne_zero (Nat.ne_zero_of_lt hfuel)
      exact .itemsFrom_nil rfl
  | cons first rest ih =>
      obtain ⟨fuel, rfl⟩ := Nat.exists_eq_succ_of_ne_zero (Nat.ne_zero_of_lt hfuel)
      rw [entryLines, List.flatMap_cons, ← entryLines, tokensOf_append, tokensOf_entryLine,
        List.append_assoc, List.singleton_append]
      exact .itemsFrom_cons rfl (reads_entryPhrase event first depth _ _ _) rfl rfl
        (ih _ (Nat.lt_of_succ_lt_succ hfuel))

/-- The list of the entries is read between its brackets. -/
theorem reads_entryList (event : Event) (first : String) (others : List String)
    (depth line opened closing : Nat) (rest : List Token) :
    Reads (list (parse (depth + 7)))
      (.group .bracket (tokensOf line (entryLines event (first :: others))) opened closing :: rest)
      rest () := by
  have hothers (line : Nat) : Reads (commaSeparated (parse (depth + 7) (.expression true)))
      (tokensOf line (entryLines event others)) [] (others.map fun _ => .other) := by
    refine .bind (.ahead _) (reads_entryLines event others depth line ?_)
    apply Nat.lt_succ_of_le
    apply Reads.length_le_length_tokensOf
    exact fun _ _ _ => List.cons_ne_nil _ _
  refine .within ?_ opened closing rest
  rw [entryLines, List.flatMap_cons, ← entryLines, tokensOf_append, tokensOf_entryLine,
    List.append_assoc, List.singleton_append]
  refine .bind (.atEnd _) (.ite_false rfl (.bind (reads_entryPhrase event first depth _ _ _) ?_))
  refine .bind (.atEnd _) (.bind (.sees _ _) (.ite_true rfl (.bind (.optional_true rfl) ?_)))
  exact .ite_true rfl (.bind (hothers _) (.pure _ _))

end

end

end Grammar

end EventTracking
