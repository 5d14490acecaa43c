/-
# CallSearch.CommandLine — what the program is asked to do

A command line names one command with its inputs and options.  Commands list the
entry points, methods or literals of some classes, store an index of them, or
search for query words.
-/
import CallSearch.MethodTree
import CallSearch.Search

namespace CallSearch

set_option autoImplicit false

/-- Why arguments are not understood, or what they ask for instead of a command. -/
inductive UsageError where
  | unknownArgument
  /-- A value is missing, empty or not among the words allowed. -/
  | invalidValue
  /-- A value is no number. -/
  | valueValidation
  /-- A value is given to an option that takes none. -/
  | tooManyValues
  /-- An option is repeated, or given with another that excludes it. -/
  | argumentConflict
  | missingRequiredArgument
  | invalidSubcommand
  | missingSubcommand
  | displayHelp
  | displayHelpOnMissingArgumentOrSubcommand
  | displayVersion
deriving DecidableEq, Inhabited

/-- Where classes are read from. -/
structure ClassInput where
  path : String
  /-- Where further classes are read from. -/
  classpath : List String
  /-- Classes whose methods are all entry points. -/
  entryClasses : List String
deriving DecidableEq, Inhabited

/-- What is listed of some classes. -/
inductive Listing where
  | entryPoints
  | methods
  | literals
deriving DecidableEq, Inhabited

/-- What is searched. -/
inductive SearchSource where
  /-- An index stored before. -/
  | index (path : String)
  /-- Classes, analysed first. -/
  | classes (input : ClassInput) (config : AnalysisConfig)
deriving Inhabited

/-- How query words are searched and shown. -/
structure SearchRequest where
  words : List String
  source : SearchSource
  ignoreCase : Bool
  config : SearchConfig
  fullyQualified : Bool
  /-- The document of a line table. -/
  lineNumbers : Option String
  output : Option String
deriving Inhabited

/-- A command. -/
inductive Command where
  | list (listing : Listing) (input : ClassInput) (output : Option String)
  | index (input : ClassInput) (config : AnalysisConfig) (output : String)
  | search (request : SearchRequest)
deriving Inhabited

/-- A command with the options every command has. -/
structure CommandLine where
  quiet : Bool
  timing : Bool
  verbose : Bool
  command : Command
deriving Inhabited

end CallSearch
