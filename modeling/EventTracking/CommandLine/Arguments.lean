import EventTracking.Path

/-!
# Arguments

The command line names a command and gives its options and its source directory, in any order. An
option that takes a value has it either after an equals sign or as the next argument, whatever that
looks like; a repeated option counts as it was given last.

Main statements: an argument that begins with a hyphen is never the source directory
(`placeSource_of_hyphen`).
-/

namespace EventTracking.CommandLine

/-- What the command line asks for. -/
inductive Command where
  /-- Generate artifacts. -/
  | generate (source output : String) (runtime : Option String) (verbose : Bool)
  /-- List event groups. -/
  | discover (source : String) (verbose : Bool)
  /-- Show how the program is used. -/
  | help
  /-- Show the version of the program. -/
  | version
deriving DecidableEq, Repr

/-- Whether a command asks for a detailed log. -/
def Command.verbose : Command → Bool
  | generate _ _ _ verbose => verbose
  | discover _ verbose => verbose
  | help => false
  | version => false

/-! ## Errors -/

/-- Why a command line makes no sense. -/
inductive UsageError where
  /-- It is empty. -/
  | noCommand
  /-- Its command is unknown. -/
  | unknownCommand (command : String)
  /-- The command does not have that option. -/
  | unknownOption (command option : String)
  /-- Something that the command needs is missing. -/
  | missingArgument (command what : String)
  /-- There is an argument too many. -/
  | unexpectedArgument (argument : String)
deriving DecidableEq, Repr

/-- The reason in words. -/
def UsageError.message : UsageError → String
  | noCommand => "no command given"
  | unknownCommand command => "unknown command `" ++ command ++ "`"
  | unknownOption command option => "unknown option `" ++ option ++ "` for `" ++ command ++ "`"
  | missingArgument command what => "missing " ++ what ++ " for `" ++ command ++ "`"
  | unexpectedArgument argument => "unexpected argument `" ++ argument ++ "`"

/-! ## Reading arguments -/

/-- The text without `start`, if it begins with it. -/
def withoutStart? (start text : String) : Option String :=
  if start.toList.isPrefixOf text.toList then
    some (String.ofList (text.toList.drop start.toList.length))
  else none

/-- Whether an argument asks for a detailed log. -/
def isVerbose (argument : String) : Bool := argument = "--verbose" || argument = "-v"

/-- Whether the argument after this one is the output directory. -/
def takesOutput (argument : String) : Bool := argument = "--out" || argument = "-o"

/-- Takes an argument for the source directory of a command, unless there is one. -/
def placeSource (command argument : String) (source : Option String) : Except UsageError String :=
  if argument.toList.head? = some '-' then .error (.unknownOption command argument)
  else
    match source with
    | some _ => .error (.unexpectedArgument argument)
    | none => .ok argument

/-- An argument that begins with a hyphen is never the source directory. -/
theorem placeSource_of_hyphen {argument : String} (h : argument.toList.head? = some '-')
    (command : String) (source : Option String) :
    placeSource command argument source = .error (.unknownOption command argument) := by
  simp [placeSource, h]

/-- The value of something that a command needs. -/
def required (command what : String) (value : Option String) : Except UsageError String :=
  match value with
  | some value => .ok value
  | none => .error (.missingArgument command what)

/-! ## Generating -/

/-- The arguments of `generate` that have been read. -/
structure GenerateArguments where
  /-- The source directory. -/
  source : Option String
  /-- The output directory. -/
  output : Option String
  /-- The runtime library. -/
  runtime : Option String
  /-- Whether a detailed log is asked for. -/
  verbose : Bool
deriving DecidableEq

/-- The word for generating. -/
def generateWord : String := "generate"

/-- Reads the arguments of `generate`, given those before them. -/
def readGenerate (read : GenerateArguments) : List String → Except UsageError GenerateArguments
  | [] => .ok read
  | argument :: rest =>
    match withoutStart? "--out=" argument, withoutStart? "--runtime=" argument with
    | some value, _ => readGenerate { read with output := some value } rest
    | none, some value => readGenerate { read with runtime := some value } rest
    | none, none =>
      if takesOutput argument then
        match rest with
        | [] => .error (.missingArgument generateWord "value for --out")
        | value :: others => readGenerate { read with output := some value } others
      else if argument = "--runtime" then
        match rest with
        | [] => .error (.missingArgument generateWord "value for --runtime")
        | value :: others => readGenerate { read with runtime := some value } others
      else if isVerbose argument then readGenerate { read with verbose := true } rest
      else
        match placeSource generateWord argument read.source with
        | .error error => .error error
        | .ok source => readGenerate { read with source := some source } rest

/-- The command that the arguments of `generate` make. -/
def parseGenerate (arguments : List String) : Except UsageError Command := do
  let read ← readGenerate ⟨none, none, none, false⟩ arguments
  let source ← required generateWord "source directory" read.source
  let output ← required generateWord "--out <dir>" read.output
  return .generate source output read.runtime read.verbose

/-! ## Discovering -/

/-- The word for discovering. -/
def discoverWord : String := "discover"

/-- Reads the arguments of `discover`, given the source directory and whether a detailed log is
asked for before them. -/
def readDiscover (source : Option String) (verbose : Bool) :
    List String → Except UsageError (Option String × Bool)
  | [] => .ok (source, verbose)
  | argument :: rest =>
    if isVerbose argument then readDiscover source true rest
    else
      match placeSource discoverWord argument source with
      | .error error => .error error
      | .ok source => readDiscover (some source) verbose rest

/-- The command that the arguments of `discover` make. -/
def parseDiscover (arguments : List String) : Except UsageError Command := do
  let (source, verbose) ← readDiscover none false arguments
  let source ← required discoverWord "source directory" source
  return .discover source verbose

/-! ## Commands -/

/-- The command that a command line makes. -/
def parse : List String → Except UsageError Command
  | [] => .error .noCommand
  | command :: arguments =>
    if command = generateWord || command = "gen" then parseGenerate arguments
    else if command = discoverWord then parseDiscover arguments
    else if command = "help" || command = "--help" || command = "-h" then .ok .help
    else if command = "version" || command = "--version" || command = "-V" then .ok .version
    else .error (.unknownCommand command)

end EventTracking.CommandLine
