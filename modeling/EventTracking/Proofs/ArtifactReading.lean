import EventTracking.Proofs.PhraseReading

/-!
# Reading artifacts

An artifact is read from the inside out: the payload of an event, the two statements of its arm, the
arms of the match, the statements of the body, and last the function with its attributes and its
signature. Each rule is applied with as much depth as the constructs around it leave, so the depths
are stated as sums.

Main statements: the tokens of an artifact are those of a single function (`reads_phrase`), and so
the text of an artifact makes sense as a file (`ofSource_contents`).
-/

namespace EventTracking

open Code Text

namespace Grammar

open Piece

section

variable {rules : Rules} {rest : List Token}

/-- Lines between delimiters have the tokens that they have by themselves. -/
theorem tokensOf_lines (line depth : Nat) (inner : List Piece) :
    tokensOf line (.gap "\n" :: inner ++ [indent depth]) = tokensOf (line + 1) inner := by
  rw [List.cons_append, tokensOf, tokensOf_append]
  exact List.append_nil _

/-- A list alone is an expression. -/
theorem reads_listExpression {inner : List Token} {opened closing depth : Nat}
    (h : Reads (list (parse depth)) [.group .bracket inner opened closing] [] ()) :
    Reads (parse (depth + 2) (.expression true)) [.group .bracket inner opened closing] []
      .other := by
  have hatom : Reads (atom (parse depth) true) [.group .bracket inner opened closing] [] .other :=
    .of_bind (fun _ => pure .other) h (fun _ _ => rfl) (.pure _ _)
  have hoperand : Reads (operandRule (parse depth) true) [.group .bracket inner opened closing] []
      .other := by
    refine .bind (.repeatWhile_none rfl) (.bind (.ahead _) (.ite_false rfl (.ite_false rfl ?_)))
    exact .get_bind fun _ => .bind hatom (.bind (fun _ _ => rfl) (.ite_false rfl (.pure _ _)))
  exact .bind hoperand fun _ _ => rfl

/-- No more of an expression is read at the end of a statement. -/
theorem reads_trailersFrom_semicolon (fuel last : Nat) :
    Reads (trailersFrom rules fuel .other) (.mark ';' false last :: rest)
      (.mark ';' false last :: rest) .other := by
  cases fuel <;> exact fun _ _ => rfl

/-- The payload of some entries is read up to the semicolon. -/
theorem reads_payloadCall {inner : List Piece} {depth : Nat}
    (h : ∀ line, Reads (parse (depth + 1) (.expression true)) (tokensOf line inner) [] .other)
    (hne : ∀ line, (tokensOf line inner).isEmpty = false) (line last : Nat) :
    Reads (parse (depth + 2) (.operand true))
      (tokensOf line (runtime [.plain "Payload" (by decide), .plain "from" (by decide)] ++
        [.group .parenthesis inner]) ++ .mark ';' false last :: rest)
      (.mark ';' false last :: rest) .other :=
  have hatom : Reads (atom (parse (depth + 1)) true)
      (tokensOf line (runtime [.plain "Payload" (by decide), .plain "from" (by decide)] ++
        [.group .parenthesis inner]) ++ .mark ';' false last :: rest)
      (.group .parenthesis (tokensOf line inner) line (line + breaksIn inner) ::
        .mark ';' false last :: rest) .other := fun _ _ => rfl
  reads_callOperand rfl rfl rfl hatom (hne line) (h line)
    fun fuel => reads_trailersFrom_semicolon fuel last

/-- The value that the payload is set to is read up to the semicolon. -/
theorem reads_payloadPhrase (event : Event) (depth line last : Nat) :
    Reads (parse (depth + 10) (.operand true))
      (tokensOf line event.payloadPhrase ++ .mark ';' false last :: rest)
      (.mark ';' false last :: rest) .other := by
  unfold Event.payloadPhrase
  split
  · exact fun _ _ => rfl
  · rename_i first others _
    refine reads_payloadCall (fun line => ?_) (fun _ => rfl) line last
    have hlist := reads_entryList event first others depth (line + 1) line
      (line + breaksIn (.gap "\n" :: entryLines event (first :: others) ++ [indent 3])) []
    rw [← tokensOf_lines line 3] at hlist
    exact reads_listExpression hlist

/-! ## Statements -/

/-- What may follow a statement: nothing, or a word. -/
inductive EndsStatement : List Token → Prop where
  | nil : EndsStatement []
  | word (identifier : Identifier) (line : Nat) (rest : List Token) :
    EndsStatement (.word identifier line :: rest)

/-- Statements that begin with a word are read one after the other. -/
theorem reads_statementsFrom {phrases : List (List Piece)}
    (hword : ∀ phrase ∈ phrases, ∀ line, ∃ identifier first tokens,
      tokensOf line phrase = .word identifier first :: tokens)
    (hstatement : ∀ phrase ∈ phrases, ∀ line rest, EndsStatement rest →
      Reads (statement rules) (tokensOf line phrase ++ rest) rest false)
    {fuel : Nat} (hfuel : phrases.length < fuel) (line : Nat) :
    Reads (statementsFrom rules fuel) (tokensOf line phrases.flatten) [] () := by
  induction phrases generalizing fuel line with
  | nil =>
      obtain ⟨fuel, rfl⟩ := Nat.exists_eq_succ_of_ne_zero (Nat.ne_zero_of_lt hfuel)
      exact fun _ _ => rfl
  | cons first rest ih =>
      obtain ⟨fuel, rfl⟩ := Nat.exists_eq_succ_of_ne_zero (Nat.ne_zero_of_lt hfuel)
      rw [List.forall_mem_cons] at hword hstatement
      have hrest := ih hword.2 hstatement.2 (Nat.lt_of_succ_lt_succ hfuel) (line + breaksIn first)
      have hends : EndsStatement (tokensOf (line + breaksIn first) rest.flatten) := by
        cases rest with
        | nil => exact .nil
        | cons second others =>
            obtain ⟨identifier, start, tokens, htokens⟩ :=
              (List.forall_mem_cons.1 hword.2).1 (line + breaksIn first)
            rw [List.flatten_cons, tokensOf_append, htokens]
            exact .word _ _ _
      have hfirst := hstatement.1 line _ hends
      obtain ⟨identifier, start, tokens, htokens⟩ := hword.1 line
      rw [List.flatten_cons, tokensOf_append]
      rw [htokens] at hfirst ⊢
      refine .bind (.repeatWhile_none rfl) (.bind (.atEnd _) (.ite_false rfl (.bind hfirst ?_)))
      refine .bind (.atEnd _) ?_
      generalize tokensOf (line + breaksIn first) rest.flatten = after at hends hrest ⊢
      cases hends with
      | nil => exact .pure _ _
      | word => exact .bind (.pure _ _) hrest


/-- Statements that begin with a word are read up to the end of their block. -/
theorem reads_statements {phrases : List (List Piece)}
    (hword : ∀ phrase ∈ phrases, ∀ line, ∃ identifier first tokens,
      tokensOf line phrase = .word identifier first :: tokens)
    (hstatement : ∀ phrase ∈ phrases, ∀ line rest, EndsStatement rest →
      Reads (statement rules) (tokensOf line phrase ++ rest) rest false) (line : Nat) :
    Reads (statementsRule rules) (tokensOf line phrases.flatten) [] () := by
  have hne : ∀ phrase ∈ phrases, ∀ line, tokensOf line phrase ≠ [] := by
    intro phrase hphrase line
    obtain ⟨identifier, first, tokens, htokens⟩ := hword phrase hphrase line
    rw [htokens]
    exact List.cons_ne_nil _ _
  refine .bind (.ahead _) (reads_statementsFrom hword hstatement ?_ line)
  have hle := Reads.length_le_length_tokensOf hne line
  rw [List.flatMap_id'] at hle
  exact Nat.lt_succ_of_le hle

/-- The value of an assignment is read up to the semicolon. -/
theorem reads_assignedValue {value : List Token} {depth line last : Nat}
    (h : Reads (parse (depth + 1) (.operand true)) (value ++ .mark ';' false last :: rest)
      (.mark ';' false last :: rest) .other) :
    Reads (parse (depth + 2) (.operation true .other .lowest))
      (.mark '=' false line :: (value ++ .mark ';' false last :: rest))
      (.mark ';' false last :: rest) .other := by
  have hright : Reads (rightOperand (parse (depth + 1)) true .assign)
      (value ++ .mark ';' false last :: rest) (.mark ';' false last :: rest) .other :=
    .bind h fun _ _ => rfl
  exact .of_bind (fun _ => parse (depth + 1) (.operation true .other .lowest)) hright
    (fun _ _ => rfl) fun _ _ => rfl

/-- The payload is assigned in a statement. -/
theorem reads_payloadStatement {value : List Token} {depth : Nat} (line last : Nat)
    (h : Reads (parse (depth + 1) (.operand true)) (value ++ .mark ';' false last :: rest)
      (.mark ';' false last :: rest) .other) :
    Reads (statement (parse (depth + 3)))
      (.word (.plain "payload" (by decide)) line :: .mark '=' false line ::
        (value ++ .mark ';' false last :: rest)) rest false := by
  have hboundary : Reads (parse (depth + 3) .boundary)
      (.word (.plain "payload" (by decide)) line :: .mark '=' false line ::
        (value ++ .mark ';' false last :: rest)) (.mark ';' false last :: rest) .other := by
    have hname (tokens : List Token) : Reads (parse (depth + 2) (.operand true))
        (.word (.plain "payload" (by decide)) line :: .mark '=' false line :: tokens)
        (.mark '=' false line :: tokens) .other := fun _ _ => rfl
    refine .bind (.repeatWhile_none rfl) (.bind (.ahead _) (.ite_false rfl (.bind (hname _) ?_)))
    exact fun closing leftover => reads_assignedValue h closing leftover
  refine .bind (.repeatWhile_none rfl) (.bind (fun _ _ => rfl) (.bind (.ahead _) ?_))
  refine .ite_false rfl (.ite_false rfl (.bind hboundary (.bind (.optional_true rfl) ?_)))
  exact .ite_true rfl (.pure _ _)

/-- The assignments of an arm are statements. -/
theorem reads_assignments (event : Event) (depth line : Nat) :
    Reads (parse (depth + 13) .statements) (tokensOf line event.assignments) [] () := by
  have hphrases : event.assignments = [
      Piece.line 3 [plain "name" (by decide), space, .mark '=' false, space,
        .quoted event.eventName, .mark ';' false],
      Piece.line 3 ([plain "payload" (by decide), space, .mark '=' false, space] ++
        event.payloadPhrase ++ [.mark ';' false])].flatten := by
    rw [List.flatten_cons, List.flatten_singleton, Event.assignments]
  rw [hphrases]
  refine reads_statements ?_ ?_ line
  · intro phrase hphrase line
    rw [List.mem_pair] at hphrase
    rcases hphrase with rfl | rfl <;> exact ⟨_, _, _, rfl⟩
  · intro phrase hphrase line rest hrest
    rw [List.mem_pair] at hphrase
    rcases hphrase with rfl | rfl
    · exact fun _ _ => rfl
    · rw [Piece.line, List.append_assoc, List.append_assoc, tokensOf, tokensOf_append,
        tokensOf_append, List.append_assoc, List.append_assoc, List.append_assoc]
      exact reads_payloadStatement _ _ (reads_payloadPhrase event depth _ _)

/-! ## Arms -/

/-- A block that holds statements only is a body without attributes. -/
theorem reads_body {inner : List Token} (hinner : Reads (rules .statements) inner [] ())
    (hhash : (Form.mark "#").startsAt inner = false) (opened closing : Nat) :
    Reads (body rules) (.group .brace inner opened closing :: rest) rest [] := by
  have hnone : Reads (innerAttributes rules) inner inner [] :=
    .repeatWhile_none (by rw [hhash]; rfl)
  have hstatements : Reads (do rules .statements; return ([] : List Attribute)) inner [] [] :=
    .bind hinner (.pure _ _)
  exact .within (.bind hnone hstatements) opened closing rest

/-- A block that holds statements only is an expression that ends a statement. -/
theorem reads_blockBoundary {inner : List Token} {depth : Nat}
    (hinner : Reads (parse depth .statements) inner [] ())
    (hhash : (Form.mark "#").startsAt inner = false) (hrest : EndsStatement rest)
    (opened closing : Nat) :
    Reads (parse (depth + 1) .boundary) (.group .brace inner opened closing :: rest) rest
      .block := by
  have hatom : Reads (atom (parse depth) true) (.group .brace inner opened closing :: rest) rest
      .block :=
    .of_bind (fun _ => pure .block) (reads_body hinner hhash opened closing) (fun _ _ => rfl)
      (.pure _ _)
  refine .bind (.repeatWhile_none rfl) (.bind (.ahead _) (.ite_true rfl (.bind hatom ?_)))
  cases hrest <;> exact fun _ _ => rfl

/-- The tokens of an arm are those of its pattern, the arrow and its block. -/
theorem tokensOf_armPhrase (event : Event) (names : List Identifier) (line : Nat) :
    ∃ start last closing, tokensOf line (event.armPhrase names) =
      tokensOf start (Piece.path (names ++ [nameOf event.name.simple]) ++ event.patternPhrase) ++
        [.mark '=' true last, .mark '>' false last,
          .group .brace (tokensOf (last + 1) event.assignments) last closing] := by
  have hblock (line : Nat) : tokensOf line [space, .mark '=' true, .mark '>' false, space,
      .group .brace (.gap "\n" :: event.assignments ++ [indent 2]), .gap "\n"] =
        [.mark '=' true line, .mark '>' false line,
          .group .brace (tokensOf (line + 1) event.assignments) line
            (line + breaksIn (.gap "\n" :: event.assignments ++ [indent 2]))] := by
    rw [← tokensOf_lines line 2]
    rfl
  rw [Event.armPhrase, tokensOf, tokensOf_append, hblock]
  exact ⟨_, _, _, rfl⟩

/-- An arm is read up to the next one. -/
theorem reads_arm (event : Event) {names : List Identifier}
    (hnames : ∀ name ∈ names, name.isName = true) (depth line : Nat) (hrest : EndsStatement rest) :
    Reads (arm (parse (depth + 14))) (tokensOf line (event.armPhrase names) ++ rest) rest () := by
  obtain ⟨start, last, closing, htokens⟩ := tokensOf_armPhrase event names line
  have hpath : ∀ name ∈ names ++ [nameOf event.name.simple], name.isName = true :=
    List.forall_mem_append.2 ⟨hnames, List.forall_mem_singleton.2 (isName_nameOf _)⟩
  have hpattern := reads_armPattern event hpath (depth + 12) start last
    (.mark '>' false last ::
      .group .brace (tokensOf (last + 1) event.assignments) last closing :: rest)
  have hblock := reads_blockBoundary (reads_assignments event depth (last + 1)) rfl hrest last
    closing
  rw [htokens, List.append_assoc]
  refine .bind (.repeatWhile_none rfl) (.bind hpattern (.bind (.optional_false rfl) ?_))
  refine .ite_false rfl (.bind (.expect rfl) (.bind hblock (.bind (.atEnd _) ?_)))
  refine .ite_false rfl (.bind (.optional_false ?_) (.pure _ _))
  cases hrest <;> rfl

/-- The arms of a match are read up to the last one. -/
theorem reads_arms (events : List Event) {names : List Identifier}
    (hnames : ∀ name ∈ names, name.isName = true) (depth line : Nat) :
    Reads (toEnd (arm (parse (depth + 14))))
      (tokensOf line (events.flatMap fun event => event.armPhrase names)) []
      (events.map fun _ => ()) := by
  have harms : Reads (toEnd (arm (parse (depth + 14))))
      (tokensOf line (events.flatMap fun event => event.armPhrase names) ++ []) []
      (events.map fun _ => ()) := by
    refine .repeatWhile rfl ?_ ?_ ?_ EndsStatement.nil rfl line
    · exact fun _ _ _ _ => rfl
    · exact fun event _ line rest hrest => reads_arm event hnames depth line hrest
    · exact fun _ _ _ _ => .word _ _ _
  rwa [List.append_nil] at harms

/-- The match over the events is a statement. -/
theorem reads_matchStatement (events : List Event) {names : List Identifier}
    (hnames : ∀ name ∈ names, name.isName = true) (depth line last opened closing : Nat)
    (hrest : EndsStatement rest) :
    Reads (statement (parse (depth + 15)))
      (.word (.plain "match" (by decide)) line :: .word (.plain "event" (by decide)) line ::
        .group .brace (tokensOf last (events.flatMap fun event => event.armPhrase names)) opened
          closing :: rest) rest false := by
  have harms := reads_arms events hnames depth last
  have hhash : (Form.mark "#").startsAt
      (tokensOf last (events.flatMap fun event => event.armPhrase names)) = false := by
    cases events <;> rfl
  generalize tokensOf last (events.flatMap fun event => event.armPhrase names) = inner
    at harms hhash ⊢
  have hnone : Reads (innerAttributes (parse (depth + 14))) inner inner [] :=
    .repeatWhile_none (by rw [hhash]; rfl)
  have hhead : Reads (head (parse (depth + 14)))
      (.word (.plain "event" (by decide)) line :: .group .brace inner opened closing :: rest)
      (.group .brace inner opened closing :: rest) () := fun _ _ => rfl
  have hinner : Reads (do
      let _ ← innerAttributes (parse (depth + 14))
      let _ ← toEnd (arm (parse (depth + 14)))) inner [] () :=
    .bind hnone (.bind harms (.pure _ _))
  have hmatching : Reads (matching (parse (depth + 14)))
      (.word (.plain "match" (by decide)) line :: .word (.plain "event" (by decide)) line ::
        .group .brace inner opened closing :: rest) rest () :=
    .bind (.expect rfl) (.bind hhead (.within hinner _ _ _))
  have hatom : Reads (atom (parse (depth + 14)) true)
      (.word (.plain "match" (by decide)) line :: .word (.plain "event" (by decide)) line ::
        .group .brace inner opened closing :: rest) rest .block :=
    .of_bind (fun _ => pure .block) hmatching (fun _ _ => rfl) (.pure _ _)
  have hboundary : Reads (parse (depth + 15) .boundary)
      (.word (.plain "match" (by decide)) line :: .word (.plain "event" (by decide)) line ::
        .group .brace inner opened closing :: rest) rest .block := by
    refine .bind (.repeatWhile_none rfl) (.bind (.ahead _) (.ite_true rfl (.bind hatom ?_)))
    cases hrest <;> exact fun _ _ => rfl
  refine .bind (.repeatWhile_none rfl) (.bind (fun _ _ => rfl) (.bind (.ahead _) ?_))
  refine .ite_false rfl (.ite_false rfl (.bind hboundary (.bind (.optional_false ?_) ?_)))
  · cases hrest <;> rfl
  · exact .ite_false rfl (.pure _ _)

/-! ## The function -/

variable (group : EventGroup)

/-- The words of the path of a group are names. -/
theorem isName_of_mem_pathNames {group : EventGroup} {name : Identifier}
    (h : name ∈ group.pathNames) : name.isName = true := by
  obtain ⟨text, -, rfl⟩ := List.mem_map.1 h
  exact isName_nameOf text

/-- The statements of the body are read. -/
theorem reads_bodyPhrase (depth line : Nat) :
    Reads (parse (depth + 16) .statements) (tokensOf line group.bodyPhrase) [] () := by
  have hmatch (line : Nat) : tokensOf line (Piece.line 1 group.matchPhrase) =
      [.word (.plain "match" (by decide)) line, .word (.plain "event" (by decide)) line,
        .group .brace (tokensOf (line + 1)
            (group.registry.events.flatMap (·.armPhrase group.pathNames))) line
          (line + breaksIn (.gap "\n" ::
            group.registry.events.flatMap (·.armPhrase group.pathNames) ++ [indent 1]))] := by
    rw [← tokensOf_lines line 1]
    rfl
  rw [EventGroup.bodyPhrase]
  refine reads_statements ?_ ?_ line
  · intro phrase hphrase line
    simp only [EventGroup.bodyStatements, List.mem_cons, List.not_mem_nil, or_false] at hphrase
    rcases hphrase with rfl | rfl | rfl | rfl <;> exact ⟨_, _, _, rfl⟩
  · intro phrase hphrase line rest hrest
    simp only [EventGroup.bodyStatements, List.mem_cons, List.not_mem_nil, or_false] at hphrase
    rcases hphrase with rfl | rfl | rfl | rfl
    · exact fun _ _ => rfl
    · exact fun _ _ => rfl
    · rw [hmatch]
      exact reads_matchStatement _ (fun _ => isName_of_mem_pathNames) depth _ _ _ _ hrest
    · exact fun _ _ => rfl

/-- The parameters of the function are read. -/
theorem reads_parameters (hbelow : group.pathNames ≠ []) (depth line : Nat) :
    Reads (do functionParameters (parse (depth + 16)) true false ((← ahead).length + 1))
      (tokensOf line group.parameters) [] () := by
  have hnames : ∀ name ∈ group.pathNames, name.isName = true := fun _ => isName_of_mem_pathNames
  have htype := reads_groupType hbelow hnames group.lifetimes (depth + 14) line
  have htracker (tokens : List Token) : Reads (functionParameter (parse (depth + 16)))
      (tokensOf line [plain "tracker" (by decide), .mark ':' false, space, .mark '&' false,
        plain "T" (by decide)] ++ .mark ',' false line :: tokens) (.mark ',' false line :: tokens)
      .typed := fun _ _ => rfl
  have hevent {tokens : List Token}
      (h : Reads (parse (depth + 16) (.type true)) (.mark '&' false line :: tokens) [] .other) :
      Reads (functionParameter (parse (depth + 16)))
        (tokensOf line [plain "event" (by decide), .mark ':' false, .mark '&' false] ++ tokens) []
        .typed :=
    .of_bind (fun _ => pure .typed) h (fun _ _ => rfl) (.pure _ _)
  have htokens : tokensOf line group.parameters =
      tokensOf line [plain "tracker" (by decide), .mark ':' false, space, .mark '&' false,
        plain "T" (by decide)] ++ .mark ',' false line ::
          (tokensOf line [plain "event" (by decide), .mark ':' false, .mark '&' false] ++
            tokensOf line (Piece.path group.pathNames ++ lifetimeArguments group.lifetimes)) := by
    rw [EventGroup.parameters, List.append_assoc, tokensOf_append]
    rfl
  rw [htokens]
  generalize tokensOf line (Piece.path group.pathNames ++ lifetimeArguments group.lifetimes) =
    tokens at htype
  refine .bind (.ahead _) (.bind (.atEnd _) (.ite_false rfl (.bind (.repeatWhile_none rfl) ?_)))
  refine .bind (.optional_false rfl) (.ite_false rfl (.bind (htracker _) ?_))
  refine .bind (.atEnd _) (.ite_false rfl (.bind (.expect rfl) ?_))
  refine .bind (.atEnd _) (.ite_false rfl (.bind (.repeatWhile_none rfl) ?_))
  refine .bind (.optional_false rfl) (.ite_false rfl (.bind (hevent htype) ?_))
  exact .bind (.atEnd _) (.ite_true rfl (.pure _ _))

/-- The signature of the function is read up to its body. -/
theorem reads_signature {identifier : Identifier} (hname : identifier.isName = true)
    {parameters inner : List Token} {depth : Nat}
    (hparameters : Reads
      (do functionParameters (parse (depth + 1)) true false ((← ahead).length + 1))
      parameters [] ())
    (line start last opened closing : Nat) :
    Reads (signature (parse (depth + 1)) false)
      (.word (.plain "fn" (by decide)) line :: .word identifier line ::
        (tokensOf line [.mark '<' false, plain "T" (by decide), .mark '>' false] ++
          .group .parenthesis parameters line last ::
            (tokensOf start conditionLines ++ .group .brace inner opened closing :: rest)))
      (.group .brace inner opened closing :: rest) identifier := by
  have hgenerics (tokens : List Token) : Reads (generics (parse (depth + 1)))
      (tokensOf line [.mark '<' false, plain "T" (by decide), .mark '>' false] ++ tokens) tokens
      ⟨0, 1⟩ := fun _ _ => rfl
  have hconditions : Reads (optionalConditions (parse (depth + 1)))
      (tokensOf start conditionLines ++ .group .brace inner opened closing :: rest)
      (.group .brace inner opened closing :: rest) true := fun _ _ => rfl
  refine .bind (.optional_false rfl) (.bind (.optional_false rfl) (.bind (.optional_false rfl) ?_))
  refine .ite_false rfl (.bind (fun _ _ => rfl) (.bind (.expect rfl) ?_))
  refine .bind (.word_name hname _ _) (.bind (hgenerics _) ?_)
  have hclause : Reads (do
      returnType (parse (depth + 1)) true
      let _ ← optionalConditions (parse (depth + 1))
      return identifier)
      (tokensOf start conditionLines ++ .group .brace inner opened closing :: rest)
      (.group .brace inner opened closing :: rest) identifier := by
    refine .bind (fun _ _ => rfl) (.bind hconditions (.pure _ _))
  exact .withinThen hparameters hclause line last

/-- The function is read as an item. -/
theorem reads_function {identifier : Identifier} (hname : identifier.isName = true)
    {parameters inner : List Token} {depth : Nat}
    (hparameters : Reads
      (do functionParameters (parse (depth + 1)) true false ((← ahead).length + 1))
      parameters [] ())
    (hinner : Reads (parse (depth + 1) .statements) inner [] ())
    (hhash : (Form.mark "#").startsAt inner = false) (line start last opened closing : Nat) :
    Reads (plainItem (parse (depth + 1)))
      (.word (.plain "pub" (by decide)) line :: .word (.plain "fn" (by decide)) line ::
        .word identifier line ::
        (tokensOf line [.mark '<' false, plain "T" (by decide), .mark '>' false] ++
          .group .parenthesis parameters line last ::
            (tokensOf start conditionLines ++ .group .brace inner opened closing :: rest)))
      rest (.named [] .function identifier) := by
  have hbody : Reads (body (parse (depth + 1))) (.group .brace inner opened closing :: rest) rest
      [] := reads_body hinner hhash opened closing
  have hfunction : Reads (functionItem (parse (depth + 1)))
      (.word (.plain "pub" (by decide)) line :: .word (.plain "fn" (by decide)) line ::
        .word identifier line ::
        (tokensOf line [.mark '<' false, plain "T" (by decide), .mark '>' false] ++
          .group .parenthesis parameters line last ::
            (tokensOf start conditionLines ++ .group .brace inner opened closing :: rest)))
      rest (.named [] .function identifier) := by
    refine .bind (fun _ _ => rfl)
      (.bind (reads_signature hname hparameters line start last opened closing) ?_)
    exact .bind (.optional_false rfl) (.ite_false rfl (.bind hbody (.pure _ _)))
  have hbeyond (tokens : List Token) : Reads beyondVisibility
      (.word (.plain "pub" (by decide)) line :: .word (.plain "fn" (by decide)) line :: tokens)
      (.word (.plain "pub" (by decide)) line :: .word (.plain "fn" (by decide)) line :: tokens)
      (true, .word (.plain "fn" (by decide)) line :: tokens) := fun _ _ => rfl
  exact .bind (hbeyond _) (.ite_true rfl hfunction)

/-- None of the attributes of the function marks it. -/
theorem isMarker_of_mem_functionAttributes {line : Nat} {written : Attribute}
    (h : written ∈ EventGroup.functionAttributes line) : written.isMarker = false := by
  simp only [EventGroup.functionAttributes, List.mem_cons, List.not_mem_nil, or_false] at h
  rcases h with rfl | rfl | rfl | rfl <;> rfl

/-- The attributes of the function are read. -/
theorem reads_attributePhrase (line last : Nat) (identifier : Identifier) :
    Reads (outerAttributes rules)
      (tokensOf line group.attributePhrase ++ .word identifier last :: rest)
      (.word identifier last :: rest) (EventGroup.functionAttributes line) :=
  fun _ _ => rfl

/-- The tokens of the function are those of its attributes, its signature and its body. -/
theorem tokensOf_functionPhrase (line : Nat) :
    ∃ head start last opened closing,
      tokensOf line group.functionPhrase = tokensOf line group.attributePhrase ++
        .word (.plain "pub" (by decide)) head :: .word (.plain "fn" (by decide)) head ::
          .word (nameOf (trackingFunction group.name)) head ::
            (tokensOf head [.mark '<' false, plain "T" (by decide), .mark '>' false] ++
              .group .parenthesis (tokensOf head group.parameters) head last ::
                (tokensOf start conditionLines ++
                  [.group .brace (tokensOf (opened + 1) group.bodyPhrase) opened closing])) := by
  have hbody (line : Nat) : tokensOf line (Piece.line 0
      [.group .brace (.gap "\n" :: group.bodyPhrase ++ [indent 0])]) =
        [.group .brace (tokensOf (line + 1) group.bodyPhrase) line
          (line + breaksIn (.gap "\n" :: group.bodyPhrase ++ [indent 0]))] := by
    rw [← tokensOf_lines line 0]
    rfl
  have hhead (line : Nat) (identifier : Identifier) (inner : List Piece) :
      tokensOf line (Piece.line 0 [plain "pub" (by decide), space, plain "fn" (by decide), space,
        .word identifier, .mark '<' false, plain "T" (by decide), .mark '>' false,
        .group .parenthesis inner]) =
          .word (.plain "pub" (by decide)) line :: .word (.plain "fn" (by decide)) line ::
            .word identifier line ::
              (tokensOf line [.mark '<' false, plain "T" (by decide), .mark '>' false] ++
                [.group .parenthesis (tokensOf line inner) line (line + breaksIn inner)]) := rfl
  rw [EventGroup.functionPhrase, tokensOf_append, tokensOf_append, hbody,
    EventGroup.signaturePhrase,
    tokensOf_append, hhead, List.append_assoc, List.append_assoc, List.cons_append,
    List.cons_append, List.cons_append, List.append_assoc, List.singleton_append]
  exact ⟨_, _, _, _, _, rfl⟩

/-- The function of an artifact is read as an item. -/
theorem reads_functionPhrase (hbelow : group.pathNames ≠ []) (depth line : Nat) :
    Reads (parse (depth + 17) .item) (tokensOf line group.functionPhrase) []
      (.named (EventGroup.functionAttributes line) .function
        (nameOf (trackingFunction group.name))) := by
  obtain ⟨head, start, last, opened, closing, htokens⟩ := tokensOf_functionPhrase group line
  have hparameters := reads_parameters group hbelow depth head
  have hstatements := reads_bodyPhrase group depth (opened + 1)
  have hname := isName_nameOf (trackingFunction group.name)
  have hhash : (Form.mark "#").startsAt (tokensOf (opened + 1) group.bodyPhrase) = false := rfl
  rw [htokens]
  generalize tokensOf head group.parameters = parameters at hparameters
  generalize tokensOf (opened + 1) group.bodyPhrase = inner at hstatements hhash
  generalize nameOf (trackingFunction group.name) = identifier at hname
  have hfunction : Reads (plainItem (parse (depth + 16))) _ [] _ :=
    reads_function hname hparameters hstatements hhash head start last opened closing
  exact .bind (reads_attributePhrase group line head _) (.bind hfunction (.pure _ _))

/-- The comments of an artifact have no tokens. -/
theorem tokensOf_phrase (line : Nat) :
    tokensOf line group.phrase =
      tokensOf (line + breaksIn (group.commentPhrase ++ [.gap "\n"])) group.functionPhrase := by
  have hcomments : tokensOf line (group.commentPhrase ++ [.gap "\n"]) = [] := by
    rw [EventGroup.commentPhrase]
    cases group.excluded <;> rfl
  rw [EventGroup.phrase, tokensOf_append, hcomments, List.nil_append]

/-- An artifact is a file with the function alone. -/
theorem reads_phrase (hbelow : group.pathNames ≠ []) (depth line : Nat) :
    Reads (file (parse (depth + 17))) (tokensOf line group.phrase) []
      [.named (EventGroup.functionAttributes (line + breaksIn (group.commentPhrase ++ [.gap "\n"])))
        .function (nameOf (trackingFunction group.name))] := by
  have hnil (fuel : Nat) : Reads (repeatFrom (fun tokens => !tokens.isEmpty)
      (parse (depth + 17) .item) fuel) [] [] [] := by
    cases fuel <;> exact fun _ _ => rfl
  have hitem := reads_functionPhrase group hbelow depth
    (line + breaksIn (group.commentPhrase ++ [.gap "\n"]))
  rw [tokensOf_phrase]
  refine .bind (.repeatWhile_none rfl) (.bind (.ahead _) (.bind (.ahead _) (.ite_true rfl ?_)))
  exact .bind hitem (.bind (hnil _) (.pure _ _))

end

end Grammar

/-- The text of an artifact is that of a file with a function alone, which is not marked. -/
theorem EventGroup.ofSource_contents {group : EventGroup} (h : group.IsSpelled) :
    ∃ attributes : List Attribute, (∀ written ∈ attributes, written.isMarker = false) ∧
      Outline.ofSource (group.artifact defaultRuntime).contents =
        .ok ⟨[.named attributes .function (nameOf (trackingFunction group.name))]⟩ := by
  have htokens := group.ofChars_contents h
  have hbelow : group.pathNames ≠ [] := by
    rw [pathNames, Ne, List.map_eq_nil_iff]
    exact h.below
  obtain ⟨rest, hrest⟩ : ∃ rest, Piece.textOf group.phrase = '/' :: '/' :: rest := ⟨_, rfl⟩
  obtain ⟨depth, hdepth⟩ : ∃ depth,
      Grammar.depthOf (Piece.textOf group.phrase).length = depth + 17 :=
    ⟨16 * (Piece.textOf group.phrase).length + 63, rfl⟩
  have hkept : Outline.withoutShebang (withoutByteOrderMark (Piece.textOf group.phrase)) =
      Piece.textOf group.phrase := by
    rw [hrest, withoutByteOrderMark_cons (by decide),
      Outline.withoutShebang_of_not_begins (by rfl)]
  have hitems := Grammar.reads_phrase group hbelow depth 1
  rw [textOf_phrase h] at htokens
  generalize 1 + Piece.breaksIn (group.commentPhrase ++ [.gap "\n"]) = line at hitems
  refine ⟨EventGroup.functionAttributes line,
    fun _ => Grammar.isMarker_of_mem_functionAttributes, ?_⟩
  simp only [Outline.ofSource, textOf_phrase h, hkept, htokens, hdepth, Outline.ofTokens,
    hitems 1 none]

end EventTracking
