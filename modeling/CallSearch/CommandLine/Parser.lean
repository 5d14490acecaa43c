/-
# CallSearch.CommandLine.Parser — how arguments are read

Arguments are read from left to right.  Options are written `--name`, with their
value as the next argument or after `=`, and some have a letter; letters may stand
together.  After `--` nothing is an option.  The first argument that is no option
names the command, and the arguments after it belong to the command.

An option with its value takes effect when the next option or word is read, so an
unknown option behind it is reported first.  Options that exclude each other are
reported before those that are missing.
-/
import CallSearch.CommandLine

namespace CallSearch

set_option autoImplicit false

namespace Arguments

/-! ## Options -/

/-- What an option accepts as its value. -/
inductive ValueKind where
  | text
  /-- Any text but the empty one. -/
  | path
  /-- A natural number of at most 64 bits. -/
  | number
  /-- One of some words. -/
  | word (allowed : List String)
deriving DecidableEq, Inhabited

/-- The number a text writes in decimal, with or without a plus sign. -/
def number? (text : String) : Option Nat :=
  let digits :=
    match text.toList with
    | '+' :: rest => rest
    | cs => cs
  let value := digits.foldl (fun value c => value * 10 + (c.toNat - '0'.toNat)) 0
  if digits.isEmpty || !digits.all Char.isDigit || UInt64.size ≤ value then none else some value

/-- Refuse a value of the wrong kind. -/
def ValueKind.check (value : String) : ValueKind → Except UsageError Unit
  | .text => .ok ()
  | .path => if value == "" then .error .invalidValue else .ok ()
  | .number => if (number? value).isNone then .error .valueValidation else .ok ()
  | .word allowed => if allowed.contains value then .ok () else .error .invalidValue

/-- What an option does. -/
inductive Action where
  /-- Given or not. -/
  | flag
  /-- Takes a value, once. -/
  | once (kind : ValueKind)
  /-- Takes a value, any number of times. -/
  | many (kind : ValueKind)
  | help
  | version
deriving DecidableEq, Inhabited

/-- The kind of value an option takes, if it takes one. -/
def Action.valueKind? : Action → Option ValueKind
  | .once kind => some kind
  | .many kind => some kind
  | _ => none

/-- An option. -/
structure Opt where
  name : String
  letter : Option Char
  action : Action
deriving DecidableEq, Inhabited

/-- What a command accepts. -/
structure Grammar where
  options : List Opt
  takesWords : Bool
  subcommands : List String
deriving Inhabited

/-! ## Reading -/

/-- What was read so far. -/
structure Reading where
  /-- The options that took effect with their values, in order. -/
  given : List (String × String)
  words : List String
  /-- The option read last, with its value if there is one. -/
  pending : Option (Opt × Option String)
deriving Inhabited

namespace Reading

def empty : Reading := ⟨[], [], none⟩

/-- Whether an option was given. -/
def has (reading : Reading) (name : String) : Bool := reading.given.any (·.1 == name)

/-- The value of an option. -/
def value? (reading : Reading) (name : String) : Option String := reading.given.lookup name

/-- The values of an option that may be repeated. -/
def values (reading : Reading) (name : String) : List String :=
  (reading.given.filter (·.1 == name)).map (·.2)

/-- Let an option take effect. -/
def apply (reading : Reading) (option : Opt) (value : Option String) :
    Except UsageError Reading := do
  let record (value : String) : Reading :=
    { reading with given := reading.given ++ [(option.name, value)] }
  match option.action, value with
  | .help, _ => .error .displayHelp
  | .version, _ => .error .displayVersion
  | .flag, _ => if reading.has option.name then .error .argumentConflict else .ok (record "")
  | .once _, none => .error .invalidValue
  | .once kind, some value =>
      if reading.has option.name then .error .argumentConflict
      else do
        kind.check value
        return record value
  | .many _, none => .error .invalidValue
  | .many kind, some value => do
      kind.check value
      return record value

/-- Let the pending option take effect. -/
def settle (reading : Reading) : Except UsageError Reading :=
  match reading.pending with
  | none => .ok reading
  | some (option, value) => { reading with pending := none }.apply option value

end Reading

namespace Grammar

/-- Read an option written with its name, and with a value if one is attached. -/
def readLong (grammar : Grammar) (reading : Reading) (name : String) (value : Option String) :
    Except UsageError Reading :=
  match grammar.options.find? (·.name == name) with
  | none => .error .unknownArgument
  | some option =>
      match option.action.valueKind?, value with
      | some _, some value => do (← reading.settle).apply option (some value)
      | some _, none => do return { ← reading.settle with pending := some (option, none) }
      | none, some _ => .error .tooManyValues
      | none, none => do (← reading.settle).apply option none

/-- Read options written with their letters. -/
def readLetters (grammar : Grammar) (reading : Reading) : List Char → Except UsageError Reading
  | [] => .ok reading
  | letter :: rest =>
      match grammar.options.find? (·.letter == some letter) with
      | none => .error .unknownArgument
      | some option => do
          let reading ← (← reading.settle).apply option none
          grammar.readLetters reading rest

/-- Read an argument that is no option. -/
def readWord (grammar : Grammar) (reading : Reading) (trailing : Bool) (word : String) :
    Except UsageError Reading :=
  if grammar.takesWords then do
    let reading ← reading.settle
    return { reading with words := reading.words ++ [word] }
  else if grammar.subcommands.isEmpty || (trailing && grammar.subcommands.contains word) then
    .error .unknownArgument
  else .error .invalidSubcommand

/-- The name and the attached value of an option. -/
def splitValue (argument : List Char) : String × Option String :=
  match argument.span (· != '=') with
  | (name, _ :: value) => (String.ofList name, some (String.ofList value))
  | (name, []) => (String.ofList name, none)

/-- Read arguments up to their end or to a subcommand, which is returned with the arguments
after it.  Once `trailing` nothing is an option or a subcommand. -/
def read (grammar : Grammar) (trailing : Bool) (reading : Reading) :
    List String → Except UsageError (Reading × Option (String × List String))
  | [] => do return (← reading.settle, none)
  | argument :: rest =>
      if trailing then do
        grammar.read true (← grammar.readWord reading true argument) rest
      else if grammar.subcommands.contains argument then .ok (reading, some (argument, rest))
      else
        match argument.toList with
        | ['-', '-'] => grammar.read true reading rest
        | '-' :: '-' :: text => do
            let (name, value) := splitValue text
            grammar.read false (← grammar.readLong reading name value) rest
        | '-' :: letter :: letters => do
            grammar.read false (← grammar.readLetters reading (letter :: letters)) rest
        | _ => do
            let reading ←
              match reading.pending with
              | some (option, none) =>
                  pure { reading with pending := some (option, some argument) }
              | _ => grammar.readWord reading false argument
            grammar.read false reading rest

end Grammar

/-! ## The options of each command -/

/-- An option without letter. -/
def opt (name : String) (action : Action) : Opt := ⟨name, none, action⟩

/-- The options that stand anywhere. -/
def commonOptions : List Opt := [opt "quiet" .flag, opt "timing" .flag,
  ⟨"verbose", some 'v', .flag⟩, ⟨"help", some 'h', .help⟩]

def inputOptions : List Opt := [opt "input" (.once .path), opt "classpath" (.many .path),
  opt "entry-class" (.many .text), opt "output" (.once .path)]

def analysisOptions : List Opt := [opt "branch-limit" (.once .number),
  opt "no-branch-limit" .flag, opt "on-branch-limit" (.once (.word ["skip", "abort"])),
  opt "include-direct-recursion" .flag]

def searchOptions : List Opt := [opt "index" (.once .path), ⟨"ignore-case", some 'i', .flag⟩,
  opt "max-depth" (.once .number), opt "no-max-depth" .flag,
  opt "form" (.once (.word ["signature", "treecut", "path"])), opt "fully-qualified" .flag,
  opt "line-numbers" (.once .path)]

/-- What stands before the command. -/
def programGrammar : Grammar where
  options := ⟨"version", some 'V', .version⟩ :: commonOptions
  takesWords := false
  subcommands := ["entry-points", "methods", "literals", "index", "search", "help"]

/-- What stands after a command with some options. -/
def commandGrammar (options : List Opt) (takesWords : Bool) : Grammar :=
  ⟨commonOptions ++ options, takesWords, []⟩

/-! ## Commands -/

/-- Refuse options given together that exclude each other. -/
def checkConflicts (reading : Reading) (pairs : List (String × String)) :
    Except UsageError Unit :=
  if pairs.any fun pair => reading.has pair.1 && reading.has pair.2 then
    .error .argumentConflict
  else .ok ()

/-- The value of an option that must be given. -/
def required (reading : Reading) (name : String) : Except UsageError String :=
  match reading.value? name with
  | some value => .ok value
  | none => .error .missingRequiredArgument

/-- The limit two options set: none, a number, or by default some number. -/
def limit (reading : Reading) (name : String) (default : Option Nat) : Option Nat :=
  if reading.has ("no-" ++ name) then none
  else ((reading.value? name).bind number?).or default

def classInput (reading : Reading) : Except UsageError ClassInput := do
  let path ← required reading "input"
  return ⟨path, reading.values "classpath", reading.values "entry-class"⟩

def analysisConfig (reading : Reading) : AnalysisConfig where
  branchLimit := limit reading "branch-limit" ({} : AnalysisConfig).branchLimit
  onBranchLimit := if reading.value? "on-branch-limit" = some "abort" then .abort else .skip
  directRecursion := reading.has "include-direct-recursion"

def outputForm (reading : Reading) : OutputForm :=
  match reading.value? "form" with
  | some "signature" => .signature
  | some "treecut" => .treecut
  | _ => .path

def searchConfig (reading : Reading) : SearchConfig where
  maxDepth := limit reading "max-depth" ({} : SearchConfig).maxDepth
  form := outputForm reading

/-- Limits that exclude their number. -/
def branchLimitConflict : String × String := ("branch-limit", "no-branch-limit")
def maxDepthConflict : String × String := ("max-depth", "no-max-depth")

/-- All options of a command without subcommands. -/
def readAll (options : List Opt) (takesWords : Bool) (arguments : List String) :
    Except UsageError Reading := do
  let (reading, _) ← (commandGrammar options takesWords).read false .empty arguments
  return reading

def parseList (listing : Listing) (arguments : List String) :
    Except UsageError (Reading × Command) := do
  let reading ← readAll inputOptions false arguments
  return (reading, .list listing (← classInput reading) (reading.value? "output"))

def parseIndex (arguments : List String) : Except UsageError (Reading × Command) := do
  let reading ← readAll (inputOptions ++ analysisOptions) false arguments
  checkConflicts reading [branchLimitConflict]
  let input ← classInput reading
  return (reading, .index input (analysisConfig reading) (← required reading "output"))

/-- What is searched: an index, or else classes. -/
def searchSource (reading : Reading) : Except UsageError SearchSource :=
  match reading.value? "index" with
  | some path => .ok (.index path)
  | none => do return .classes (← classInput reading) (analysisConfig reading)

def parseSearch (arguments : List String) : Except UsageError (Reading × Command) := do
  let reading ← readAll (inputOptions ++ analysisOptions ++ searchOptions) true arguments
  checkConflicts reading [("index", "input"), branchLimitConflict, maxDepthConflict]
  if reading.words.isEmpty then .error .missingRequiredArgument
  let source ← searchSource reading
  return (reading, .search {
    words := reading.words
    source
    ignoreCase := reading.has "ignore-case"
    config := searchConfig reading
    fullyQualified := reading.has "fully-qualified"
    lineNumbers := reading.value? "line-numbers"
    output := reading.value? "output" })

/-- The command with a given name. -/
def parseCommand (name : String) (arguments : List String) :
    Except UsageError (Reading × Command) :=
  match name with
  | "entry-points" => parseList .entryPoints arguments
  | "methods" => parseList .methods arguments
  | "literals" => parseList .literals arguments
  | "index" => parseIndex arguments
  | "search" => parseSearch arguments
  | _ =>
      match arguments with
      | [] => .error .displayHelp
      | [topic] =>
          if programGrammar.subcommands.contains topic then .error .displayHelp
          else .error .invalidSubcommand
      | _ => .error .invalidSubcommand

end Arguments

/-- The command line some arguments write. -/
def CommandLine.parse (arguments : List String) : Except UsageError CommandLine := do
  let (before, found) ← Arguments.programGrammar.read false .empty arguments
  match found with
  | some (name, rest) =>
      let (after, command) ← Arguments.parseCommand name rest
      let given (name : String) : Bool := before.has name || after.has name
      return ⟨given "quiet", given "timing", given "verbose", command⟩
  | none =>
      if before.given.isEmpty then .error .displayHelpOnMissingArgumentOrSubcommand
      else .error .missingSubcommand

end CallSearch
