import EventTracking.Grammar.Expression

/-!
# Items

The items of files, modules, traits, implementations and external blocks. Only the outline of the
items of files and modules is kept; everything else is read for its faults alone.
-/

namespace EventTracking.Grammar

open Code

/-- Whether a plain word lies ahead. -/
def wordAt (text : String) (tokens : List Token) : Bool := (Form.word text).startsAt tokens

/-- Whether a brace lies ahead. -/
def braceAt (tokens : List Token) : Bool := (Form.group .brace).startsAt tokens

/-- Stops with these forms missing at a place that lies ahead in the same group. -/
def wrongAt {α : Type} (tokens : List Token) (forms : List Form) : Parser α := do
  modify fun position => { position with tokens := tokens }
  wrong forms

/-! ## Visibility -/

/-- Reads the visibility of an item and answers whether one is given. A parenthesis belongs to it
only if it holds nothing but a module word or begins with `in`. -/
def visibility : Parser Bool := do
  if ← optional (.word "pub") then
    match ← ahead with
    | .group .parenthesis inner _ _ :: _ =>
      if ["crate", "self", "super"].any fun text => wordAt text inner then
        if inner.length = 1 then skip 1
      else if wordAt "in" inner then
        within .parenthesis do
          word "in"
          let _ ← wordPath
    | _ => pure ()
    return true
  else return false

/-- The tokens after the visibility that lies ahead, and whether one is given. -/
def beyondVisibility : Parser (Bool × List Token) :=
  peek do
    let given ← visibility
    return (given, ← ahead)

/-! ## Imports -/

/-- What may begin a tree of a `use` item. -/
def useTreeForms : List Form :=
  [.name, .word "self", .word "super", .word "crate", .word "try", .mark "*", .group .brace]

/-- Reads a word of a `use` item and what follows it. -/
def useWord (rules : Rules) : Parser (Option UseTree) := do
  let identifier ← anyWord
  if ← optional (.mark "::") then
    let tree ← rules (.useTree false)
    return tree.map (.within identifier)
  else if ← optional (.word "as") then
    if nameOrBlankAt (← ahead) then return some (.renamed identifier (← anyWord))
    else stop (.missing "identifier or underscore")
  else return some (.named identifier)

/-- Reads at most `fuel` trees in the braces of a `use` item; `none` stands for one that begins with
`::`. -/
def useTreesFrom (rules : Rules) (roots : Bool) : Nat → Parser (List (Option UseTree))
  | 0 => return []
  | fuel + 1 => do
    if ← atEnd then return []
    let rooted ← if roots then optional (.mark "::") else pure false
    let tree ← rules (.useTree (roots && !rooted))
    let tree := if rooted then none else tree
    if ← atEnd then return [tree]
    mark ","
    return tree :: (← useTreesFrom rules roots fuel)

/-- Reads a tree of a `use` item; `none` if some path in braces begins with `::`. -/
def useTreeRule (rules : Rules) (roots : Bool) : Parser (Option UseTree) := do
  let tokens ← ahead
  if Form.name.startsAt tokens ||
      ["self", "super", "crate", "try"].any fun text => wordAt text tokens then
    useWord rules
  else if ← optional (.mark "*") then return some .every
  else if braceAt tokens then
    let trees ← within .brace do useTreesFrom rules roots ((← ahead).length + 1)
    return (trees.mapM id).map .several
  else wrong useTreeForms

/-- Reads a `use` item. -/
def useItem (rules : Rules) : Parser Item := do
  let _ ← visibility
  word "use"
  let rooted ← optional (.mark "::")
  let tree ← rules (.useTree !rooted)
  mark ";"
  match tree with
  | some tree => return .use [] rooted tree
  | none => return .unread

/-! ## Functions -/

/-- The tokens without a plain word at their head. -/
def dropWord (text : String) (tokens : List Token) : List Token :=
  if wordAt text tokens then tokens.drop 1 else tokens

/-- Whether the signature of a function lies ahead; the word `safe` counts only where `safe`. -/
def signatureAt (safe : Bool) (tokens : List Token) : Bool :=
  let tokens := dropWord "async" (dropWord "const" tokens)
  let tokens :=
    if safe && wordAt "safe" tokens then tokens.drop 1 else dropWord "unsafe" tokens
  let tokens :=
    if wordAt "extern" tokens then
      let name := tokens.drop 1
      if Form.textLiteral.startsAt name then name.drop 1 else name
    else tokens
  wordAt "fn" tokens

/-- Reads the receiver of a method. -/
def receiver (rules : Rules) : Parser Unit := do
  let reference ← optional (.mark "&")
  if reference then
    let _ ← optional .lifetime
  let _ ← optional (.word "mut")
  word "self"
  unless reference do
    if ← optional (.mark ":") then
      let _ ← rules (.type true)

/-- What a parameter of a function turned out to be. -/
inductive Parameter where
  /-- A receiver, with the line of its word `self`. -/
  | receiver (line : Nat)
  /-- A parameter of one type. -/
  | typed
  /-- Any number of further parameters. -/
  | variadic
deriving DecidableEq

/-- The line of the first word `self` ahead. -/
def selfLine (tokens : List Token) : Nat :=
  match tokens.dropWhile fun token => !wordAt "self" [token] with
  | [] => 0
  | token :: _ => token.line

/-- Reads a parameter of a function. -/
def functionParameter (rules : Rules) : Parser Parameter := do
  let tokens ← ahead
  match ← attempt (receiver rules) with
  | some _ => return .receiver (selfLine tokens)
  | none =>
    if Form.name.startsAt tokens && (Form.mark "<").startsAt (tokens.drop 1) then
      let _ ← rules (.type true)
      return .typed
    let _ ← rules .pattern
    mark ":"
    if ← optional (.mark "...") then return .variadic
    let _ ← rules (.type true)
    return .typed

/-- Reads at most `fuel` parameters of a function, up to a variadic one. A receiver has to come
first. -/
def functionParameters (rules : Rules) (first received : Bool) : Nat → Parser Unit
  | 0 => return
  | fuel + 1 => do
    if ← atEnd then return
    let _ ← outerAttributes rules
    let parameter ←
      if ← optional (.mark "...") then pure .variadic else functionParameter rules
    match parameter with
    | .variadic => unless ← atEnd do mark ","
    | .receiver line =>
      if received then stopAt .secondReceiver line
      if !first then stopAt .lateReceiver line
      unless ← atEnd do
        mark ","
        functionParameters rules false true fuel
    | .typed =>
      unless ← atEnd do
        mark ","
        functionParameters rules false received fuel

/-- Reads the signature of a function and answers its name; the word `safe` counts only where
`safe`. -/
def signature (rules : Rules) (safe : Bool) : Parser Identifier := do
  let _ ← optional (.word "const")
  let _ ← optional (.word "async")
  let guarded ← optional (.word "unsafe")
  if safe && !guarded then
    let _ ← optional (.word "safe")
  optionalConvention
  word "fn"
  let identifier ← name
  let _ ← generics rules
  withinThen .parenthesis
    (do functionParameters rules true false ((← ahead).length + 1))
    (fun _ => do
      returnType rules true
      let _ ← optionalConditions rules
      return identifier)

/-- Reads a function of a file or a module; one without a body is passed over. -/
def functionItem (rules : Rules) : Parser Item := do
  let _ ← visibility
  let identifier ← signature rules false
  if ← optional (.mark ";") then return .unread
  return .named (← body rules) .function identifier

/-! ## Macro calls -/

/-- Reads the arguments of a macro call; a semicolon follows them unless they stand in braces. -/
def callArguments : Parser Unit := do
  let delimiter ← anyGroup
  if delimiter ≠ .brace then mark ";"

/-- Reads a macro call among the items of a trait, an implementation or an external block. -/
def memberCall : Parser Unit := do
  let _ ← wordPath
  mark "!"
  callArguments

/-- Reads a macro call among the items of a file or a module; it may name what it defines. -/
def macroCallItem : Parser Item := do
  let _ ← wordPath
  mark "!"
  let tokens ← ahead
  let identifier ←
    if nameOrTryAt tokens then pure (some (← anyWord)) else pure none
  callArguments
  match identifier with
  | some identifier => return .named [] .macroCall identifier
  | none => return .unnamed [] .macroCall
where
  /-- Whether the name of what a macro call defines lies ahead. -/
  nameOrTryAt (tokens : List Token) : Bool := Form.name.startsAt tokens || wordAt "try" tokens

/-- Reads the definition of a macro, which is passed over. -/
def macroDefinition : Parser Item := do
  let _ ← visibility
  word "macro"
  let _ ← name
  let parameters ← sees (.group .parenthesis)
  if parameters then skip 1
  if ← sees (.group .brace) then
    skip 1
    return .unread
  else wrong (if parameters then [.group .brace] else [.group .parenthesis, .group .brace])

/-- Whether a macro call may lie ahead. -/
def memberCallAt (tokens : List Token) : Bool :=
  Form.name.startsAt tokens || ["self", "super", "crate"].any (wordAt · tokens) ||
    (Form.mark "::").startsAt tokens

/-- What may begin a macro call. -/
def callForms : List Form := [.name, .word "self", .word "super", .word "crate", .mark "::"]

/-! ## Values and types -/

/-- Reads an optional value. -/
def optionalValue (rules : Rules) : Parser Bool := do
  if ← optional (.mark "=") then
    let _ ← rules (.expression true)
    return true
  else return false

/-- Reads the name of a constant, which may be a blank. -/
def constantName : Parser Identifier := do
  if nameOrBlankAt (← ahead) then anyWord else wrong [.name, .word "_"]

/-- Reads what follows the name of a constant and answers whether it is a plain one: no generic
parameters, no conditions, and a value. -/
def constantRest (rules : Rules) : Parser Bool := do
  let generic ← sees (.mark "<")
  let _ ← generics rules
  mark ":"
  let _ ← rules (.type true)
  let value ← optionalValue rules
  let conditions ← optionalConditions rules
  mark ";"
  return value && !generic && !conditions

/-- Reads a constant. -/
def constantItem (rules : Rules) : Parser Item := do
  let _ ← visibility
  word "const"
  let identifier ← constantName
  if ← constantRest rules then return .named [] .const identifier else return .unread

/-- Reads a static variable; one without a type or a value is passed over. -/
def staticItem (rules : Rules) : Parser Item := do
  let _ ← visibility
  word "static"
  let _ ← optional (.word "mut")
  let identifier ← name
  if ← optional (.mark "=") then
    let _ ← rules (.expression true)
    mark ";"
    return .unread
  mark ":"
  let _ ← rules (.type true)
  if ← optional (.mark ";") then return .unread
  mark "="
  let _ ← rules (.expression true)
  mark ";"
  return .named [] .static identifier

/-- Where the conditions of a type alias may stand. -/
inductive ConditionPlace where
  | beforeDefinition
  | afterDefinition
  | either
deriving DecidableEq

/-- Reads at most `fuel` bounds of a type alias. -/
def aliasBoundsFrom (rules : Rules) : Nat → Parser Unit
  | 0 => return
  | fuel + 1 => do
    let ended (tokens : List Token) : Bool := wordAt "where" tokens || anyMarkAt ["=", ";"] tokens
    if ended (← ahead) then return
    let _ ← rules (.bound false true)
    if ended (← ahead) then return
    mark "+"
    aliasBoundsFrom rules fuel

/-- Reads a type alias, wherever it may stand. Answers its name and whether it is a plain one: a
definition and no bounds. -/
def aliasRest (rules : Rules) (optionalDefault : Bool) (place : ConditionPlace) :
    Parser (Identifier × Bool) := do
  let _ ← visibility
  if optionalDefault then
    let _ ← optional (.word "default")
  word "type"
  let identifier ← name
  let _ ← generics rules
  let bounded ← optional (.mark ":")
  if bounded then aliasBoundsFrom rules ((← ahead).length + 1)
  let early ←
    if place = .afterDefinition then pure false else optionalConditions rules
  let defined ← optional (.mark "=")
  if defined then
    let _ ← rules (.type true)
  if place ≠ .beforeDefinition && !early then
    let _ ← optionalConditions rules
  mark ";"
  return (identifier, defined && !bounded)

/-- Reads a type alias of a file or a module. -/
def aliasItem (rules : Rules) : Parser Item := do
  let (identifier, plain) ← aliasRest rules false .beforeDefinition
  return if plain then .named [] .typeAlias identifier else .unread

/-! ## Fields -/

/-- Reads a field with a name and answers it. A blank may stand for the name, and its type may then
list fields of its own. -/
def namedFieldFrom (rules : Rules) : Nat → Parser Identifier
  | 0 => stop .depth
  | fuel + 1 => do
    let _ ← outerAttributes rules
    let _ ← visibility
    let blank ← sees (.word "_")
    let identifier ← if blank then anyWord else name
    mark ":"
    let tokens ← ahead
    if blank && (wordAt "struct" tokens || wordAt "union" tokens && braceAt (tokens.drop 1)) then
      let _ ← anyWord
      let _ ← within .brace (commaSeparated (namedFieldFrom rules fuel))
    else
      let _ ← rules (.type true)
    return identifier

/-- How deeply fields may list fields of their own. -/
def fieldDepth : Nat := 1024

/-- Reads named fields in braces. -/
def namedFields (rules : Rules) : Parser (List Identifier) :=
  within .brace (commaSeparated (namedFieldFrom rules fieldDepth))

/-- Reads a field that is known by its type. -/
def positionalField (rules : Rules) : Parser WrittenType := do
  let _ ← outerAttributes rules
  let _ ← visibility
  rules (.type true)

/-- Reads fields in parentheses. -/
def positionalFields (rules : Rules) : Parser (List WrittenType) :=
  within .parenthesis (commaSeparated (positionalField rules))

/-! ## Structs, unions and enums -/

/-- Reads what follows the generic parameters of a struct. -/
def structRest (rules : Rules) : Parser Fields := do
  let conditions ← optionalConditions rules
  let tokens ← ahead
  if !conditions && (Form.group .parenthesis).startsAt tokens then
    let types ← positionalFields rules
    let later ← optionalConditions rules
    if ← optional (.mark ";") then return .positional types
    else wrong (if later then [.mark ";"] else [.word "where", .mark ";"])
  else if braceAt tokens then return .named (← namedFields rules)
  else if ← optional (.mark ";") then return .none
  else if conditions then wrong [.group .brace, .mark ";"]
  else wrong [.word "where", .group .parenthesis, .group .brace, .mark ";"]

/-- Reads a struct. -/
def structItem (rules : Rules) : Parser Item := do
  let _ ← visibility
  word "struct"
  let identifier ← name
  let _ ← generics rules
  return .struct [] identifier (← structRest rules)

/-- Reads a union. -/
def unionItem (rules : Rules) : Parser Item := do
  let _ ← visibility
  word "union"
  let identifier ← name
  let _ ← generics rules
  let _ ← optionalConditions rules
  let _ ← namedFields rules
  return .named [] .union identifier

/-- Reads a variant of an enum. -/
def variant (rules : Rules) : Parser Variant := do
  let _ ← outerAttributes rules
  let _ ← visibility
  let identifier ← name
  let tokens ← ahead
  let fields : Fields ←
    if braceAt tokens then pure (.named (← namedFields rules))
    else if (Form.group .parenthesis).startsAt tokens then
      pure (.positional (← positionalFields rules))
    else pure .none
  let _ ← optionalValue rules
  return ⟨identifier, fields⟩

/-- Reads an enum. -/
def enumItem (rules : Rules) : Parser Item := do
  let _ ← visibility
  word "enum"
  let identifier ← name
  let parameters ← generics rules
  let _ ← optionalConditions rules
  let variants ← within .brace (commaSeparated (variant rules))
  return .enum [] identifier parameters variants

/-! ## Members of traits, implementations and external blocks -/

/-- Reads what follows the signature of a trait's function. -/
def traitFunction (rules : Rules) : Parser Unit := do
  let _ ← signature rules false
  if ← sees (.group .brace) then
    let _ ← body rules
  else if ← optional (.mark ";") then return
  else wrong [.group .brace, .mark ";"]

/-- Reads a member of a trait. -/
def traitMember (rules : Rules) : Parser Unit := do
  let _ ← outerAttributes rules
  let given ← visibility
  let default ← optional (.word "default")
  let tokens ← ahead
  let second := tokens.drop 1
  if wordAt "fn" tokens || signatureAt false tokens then traitFunction rules
  else if wordAt "const" tokens then
    if nameOrBlankAt second then
      word "const"
      let _ ← anyWord
      let _ ← constantRest rules
    else if ["async", "unsafe", "extern", "fn"].any (wordAt · second) then traitFunction rules
    else
      wrongAt second
        [.name, .word "_", .word "async", .word "unsafe", .word "extern", .word "fn"]
  else if wordAt "type" tokens then
    let _ ← aliasRest rules false .afterDefinition
  else if !given && !default then
    if memberCallAt tokens then memberCall
    else wrong ([.word "fn", .word "const", .word "type"] ++ callForms)
  else wrong [.word "fn", .word "const", .word "type"]

/-- Reads a member of an implementation. -/
def implementationMember (rules : Rules) : Parser Unit := do
  let _ ← outerAttributes rules
  let (given, tokens) ← beyondVisibility
  let default := wordAt "default" tokens && !(Form.mark "!").startsAt (tokens.drop 1)
  let tokens' := if default then tokens.drop 1 else tokens
  if wordAt "fn" tokens' || signatureAt false tokens' then
    let _ ← visibility
    let _ ← optional (.word "default")
    let _ ← signature rules false
    unless ← optional (.mark ";") do
      let _ ← body rules
  else if wordAt "const" tokens' then
    let _ ← visibility
    if default then word "default"
    word "const"
    let _ ← constantName
    let _ ← constantRest rules
  else if wordAt "type" tokens' then
    let _ ← aliasRest rules true .afterDefinition
  else
    let forms : List Form := [.word "fn", .word "const", .word "type"]
    let forms := if default then forms else .word "default" :: forms
    if !given && !default then
      if memberCallAt tokens' then memberCall else wrongAt tokens' (forms ++ callForms)
    else wrongAt tokens' forms

/-- Reads a member of an external block. -/
def externMember (rules : Rules) : Parser Unit := do
  let _ ← outerAttributes rules
  let (given, tokens) ← beyondVisibility
  let guarded := wordAt "unsafe" tokens || wordAt "safe" tokens
  if wordAt "fn" tokens || signatureAt true tokens then
    let _ ← visibility
    let _ ← signature rules true
    if ← sees (.group .brace) then
      let _ ← body rules
    else mark ";"
  else if wordAt "static" tokens || guarded && wordAt "static" (tokens.drop 1) then
    let _ ← visibility
    unless ← optional (.word "unsafe") do
      let _ ← optional (.word "safe")
    word "static"
    let _ ← optional (.word "mut")
    let _ ← name
    mark ":"
    let _ ← rules (.type true)
    let _ ← optionalValue rules
    mark ";"
  else if wordAt "type" tokens then
    let _ ← aliasRest rules false .either
  else
    let forms : List Form := [.word "fn", .word "static", .word "type"]
    if !given then
      if memberCallAt tokens then memberCall else wrongAt tokens (forms ++ callForms)
    else wrongAt tokens forms

/-- Reads members in braces after the attributes of what they belong to, and answers these. -/
def members (rules : Rules) (item : Rules → Parser Unit) : Parser (List Attribute) :=
  within .brace do
    let attributes ← innerAttributes rules
    let _ ← toEnd (item rules)
    return attributes

/-! ## Traits and implementations -/

/-- Reads at most `fuel` bounds joined by `+`, up to what ends them. -/
def boundsUpTo (rules : Rules) (constant : Bool) (ended : List Token → Bool) : Nat → Parser Unit
  | 0 => return
  | fuel + 1 => do
    if ended (← ahead) then return
    let _ ← rules (.bound false constant)
    if ended (← ahead) then return
    mark "+"
    boundsUpTo rules constant ended fuel

/-- Reads what follows the generic parameters of a trait. -/
def traitRest (rules : Rules) (identifier : Identifier) : Parser Item := do
  if ← optional (.mark ":") then
    boundsUpTo rules true (fun tokens => wordAt "where" tokens || braceAt tokens)
      ((← ahead).length + 1)
  let _ ← optionalConditions rules
  return .named (← members rules traitMember) .trait identifier

/-- Reads what follows the generic parameters of a trait alias. -/
def traitAliasRest (rules : Rules) (identifier : Identifier) : Parser Item := do
  mark "="
  boundsUpTo rules false (fun tokens => wordAt "where" tokens || (Form.mark ";").startsAt tokens)
    ((← ahead).length + 1)
  let _ ← optionalConditions rules
  mark ";"
  return .named [] .traitAlias identifier

/-- Reads a trait or a trait alias. -/
def traitOrAliasItem (rules : Rules) : Parser Item := do
  let _ ← visibility
  word "trait"
  let identifier ← name
  let _ ← generics rules
  let tokens ← ahead
  if braceAt tokens || (Form.mark ":").startsAt tokens || wordAt "where" tokens then
    traitRest rules identifier
  else if (Form.mark "=").startsAt tokens then traitAliasRest rules identifier
  else wrong [.group .brace, .mark ":", .word "where", .mark "="]

/-- Reads a trait that may be unsafe or automatic. -/
def traitItem (rules : Rules) : Parser Item := do
  let _ ← visibility
  let _ ← optional (.word "unsafe")
  let _ ← optional (.word "auto")
  word "trait"
  let identifier ← name
  let _ ← generics rules
  traitRest rules identifier

/-- Reads an implementation. One that is given a visibility, that is constant or that implements
what is no path is passed over. -/
def implementationItem (rules : Rules) : Parser Item := do
  let given ← visibility
  let _ ← optional (.word "default")
  let _ ← optional (.word "unsafe")
  word "impl"
  if genericsAt (← ahead) then
    let _ ← generics rules
  let tokens ← ahead
  let constant := wordAt "const" tokens ||
    (Form.mark "?").startsAt tokens && wordAt "const" (tokens.drop 1)
  if constant then
    let _ ← optional (.mark "?")
    word "const"
  let tokens ← ahead
  let negative := (Form.mark "!").startsAt tokens && !braceAt (tokens.drop 1)
  let line := (← get).line
  if negative then mark "!"
  let first ← rules (.type true)
  let implements ← optional (.word "for")
  if implements then
    let _ ← rules (.type true)
  else if negative then stopAt .negativeInherent line
  let _ ← optionalConditions rules
  let attributes ← members rules implementationMember
  let isPath : Bool :=
    match first with
    | .path _ _ _ _ => true
    | _ => false
  if given || constant || implements && !isPath then return .unread
  else return .unnamed attributes .implementation

/-! ## Modules and external items -/

/-- Reads a module. -/
def moduleItem (rules : Rules) : Parser Item := do
  let _ ← visibility
  let _ ← optional (.word "unsafe")
  word "mod"
  let identifier ← if ← sees (.word "try") then anyWord else name
  if ← optional (.mark ";") then return .module [] identifier []
  else if ← sees (.group .brace) then
    within .brace do
      let attributes ← innerAttributes rules
      let inner ← toEnd (rules .item)
      return .module attributes identifier inner
  else wrong [.mark ";", .group .brace]

/-- Reads an external crate. -/
def externCrateItem : Parser Item := do
  let _ ← visibility
  word "extern"
  word "crate"
  let identifier ← if ← sees (.word "self") then anyWord else name
  if ← optional (.word "as") then
    if ← sees (.word "_") then
      let _ ← anyWord
    else
      let _ ← name
  mark ";"
  return .named [] .externCrate identifier

/-- Reads an external block. -/
def externBlockItem (rules : Rules) : Parser Item := do
  let _ ← optional (.word "unsafe")
  word "extern"
  let _ ← optional .textLiteral
  return .unnamed (← members rules externMember) .externBlock

/-! ## Items -/

/-- What may begin an item after a visibility. -/
def itemForms : List Form :=
  ["fn", "extern", "use", "static", "const", "unsafe", "mod", "type", "struct", "enum", "union",
   "trait", "auto", "impl", "default", "macro"].map .word

/-- Reads what follows the word `extern`, which lies ahead after a visibility. -/
def externItem (rules : Rules) (tokens : List Token) : Parser Item := do
  if wordAt "crate" tokens then externCrateItem
  else if braceAt tokens then externBlockItem rules
  else if Form.textLiteral.startsAt tokens then
    if braceAt (tokens.drop 1) then externBlockItem rules
    else wrongAt (tokens.drop 1) [.group .brace]
  else wrongAt tokens [.word "crate", .group .brace, .textLiteral]

/-- Reads what follows the word `unsafe`, which lies ahead after a visibility. -/
def unsafeItem (rules : Rules) (tokens : List Token) : Parser Item := do
  if wordAt "trait" tokens || wordAt "auto" tokens && wordAt "trait" (tokens.drop 1) then
    traitItem rules
  else if wordAt "impl" tokens then implementationItem rules
  else if wordAt "extern" tokens then externBlockItem rules
  else if wordAt "mod" tokens then moduleItem rules
  else
    wrongAt tokens [.word "trait", .word "auto", .word "impl", .word "extern", .word "mod"]

/-- Reads an item after its attributes. -/
def plainItem (rules : Rules) : Parser Item := do
  let (given, tokens) ← beyondVisibility
  let second := tokens.drop 1
  if wordAt "fn" tokens || signatureAt false tokens then functionItem rules
  else if wordAt "extern" tokens then externItem rules second
  else if wordAt "use" tokens then useItem rules
  else if wordAt "static" tokens then staticItem rules
  else if wordAt "const" tokens then constantItem rules
  else if wordAt "unsafe" tokens then unsafeItem rules second
  else if wordAt "mod" tokens then moduleItem rules
  else if wordAt "type" tokens then aliasItem rules
  else if wordAt "struct" tokens then structItem rules
  else if wordAt "enum" tokens then enumItem rules
  else if wordAt "union" tokens && Form.name.startsAt second then unionItem rules
  else if wordAt "trait" tokens then traitOrAliasItem rules
  else if wordAt "auto" tokens && wordAt "trait" second then traitItem rules
  else if wordAt "impl" tokens ||
      wordAt "default" tokens && !(Form.mark "!").startsAt second then
    implementationItem rules
  else if wordAt "macro" tokens then macroDefinition
  else if given then wrongAt tokens itemForms
  else if memberCallAt tokens then macroCallItem
  else wrong (itemForms ++ callForms)

/-- Reads an item after attributes that have been read. -/
def itemAfter (rules : Rules) (attributes : List Attribute) : Parser Item := do
  return (← plainItem rules).withAttributes attributes

/-- Reads an item with its attributes. -/
def itemRule (rules : Rules) : Parser Item := do
  itemAfter rules (← outerAttributes rules)

end EventTracking.Grammar
