/-
# CallSearch.Run — running a command

A command reads files and produces one text, to be printed or written to a file.
`Command.run` finds the text; `Command.perform` also writes it into a file tree,
which is how a whole run acts on a directory.
-/
import CallSearch.CommandLine.Parser
import CallSearch.Index.Document
import CallSearch.Scan

namespace CallSearch

set_option autoImplicit false

/-- The text a command produces. -/
structure Output where
  /-- The file to write; none if the text is printed. -/
  path : Option String
  text : String
deriving DecidableEq, Inhabited

namespace Output

/-- Whether a path is a dash, which may be written as a directory. -/
def isDash (path : String) : Bool :=
  match path.splitOn "/" with
  | "-" :: rest => rest.all fun part => part == "" || part == "."
  | _ => false

/-- Where an optional output goes: a dash prints it. -/
def ofOption (path : Option String) (text : String) : Output :=
  ⟨path.filter (!isDash ·), text⟩

/-- Lines of text. -/
def lines (path : Option String) (lines : List String) : Output :=
  ofOption path (String.join (lines.map (· ++ "\n")))

end Output

namespace Command

/-- What a listing shows of some classes. -/
def listed (listing : Listing) (classes : ClassTable) (entryClasses : List String) :
    Except RunFailure (List String) :=
  match listing with
  | .entryPoints => .ok ((classes.entryPoints entryClasses).map Signature.text)
  | .methods => .ok (classes.declaredMethods.map Signature.text)
  | .literals => classes.literals.mapError .refused

/-- The index of the classes read. -/
def buildIndex (scan : Scan) (entryClasses : List String) (config : AnalysisConfig) :
    Logged RunFailure Index := do
  let entryPoints := scan.targetClasses.entryPoints entryClasses
  Logged.notifyIf entryPoints.isEmpty .noEntryPoints
  (Index.build config scan.classes entryPoints).mapFailure .badProgram

/-- The text of a file. -/
def readFile (files : Files) (path : String) : Except RunFailure String :=
  match files path with
  | some (.file text) => .ok text
  | _ => .error (.unreadable path)

/-- A stored index. -/
def loadIndex (files : Files) (path : String) : Except RunFailure Index := do
  match Index.parse? (← readFile files path) with
  | none => .error (.notAnIndex path)
  | some stored => do
      stored.validate.mapError (.badIndex path)
      return stored

/-- A stored line table. -/
def loadLines (files : Files) (path : String) : Except RunFailure LineTable := do
  match (Json.parse? (← readFile files path)).bind LineTable.ofJson? with
  | none => .error (.notALineTable path)
  | some lines => .ok lines

/-- The index to search, with the files it was made from. -/
def searched (files : Files) : SearchSource → Logged RunFailure (Index × List Artifact)
  | .index path => do return (← loadIndex files path, [])
  | .classes input config => do
      let scan ← Scan.ofPaths files input.path input.classpath
      return (← buildIndex scan input.entryClasses config, scan.artifacts)

/-- Search, and report the hits. -/
def runSearch (files : Files) (request : SearchRequest) : Logged RunFailure Output := do
  let (source, artifacts) ← searched files request.source
  let lines ← request.lineNumbers.mapM fun path => liftM (loadLines files path)
  let query ← (Query.compile request.ignoreCase request.words).mapError RunFailure.refused
  let outcome := source.search query request.config
  let nothing := outcome.hits.isEmpty
  Logged.notifyIf (nothing && 0 < outcome.beyondMaxDepth) (.beyondMaxDepth outcome.beyondMaxDepth)
  Logged.notifyIf (nothing && 0 < outcome.withoutPaths) .noCompletePath
  let results := Report.results ⟨query, lines, request.fullyQualified⟩ outcome.hits
  return .ofOption request.output ((Report.log artifacts results).pretty ++ "\n")

/-- The text a command produces from some files. -/
def run (files : Files) : Command → Logged RunFailure Output
  | .list listing input output => do
      let scan ← Scan.ofPaths files input.path input.classpath
      return .lines output (← listed listing scan.targetClasses input.entryClasses)
  | .index input config output => do
      let scan ← Scan.ofPaths files input.path input.classpath
      let index ← buildIndex scan input.entryClasses config
      return ⟨some output, index.toText⟩
  | .search request => runSearch files request

/-- The paths a command reads. -/
def reads : Command → List String
  | .list _ input _ => input.path :: input.classpath
  | .index input _ _ => input.path :: input.classpath
  | .search request =>
      let sources :=
        match request.source with
        | .index path => [path]
        | .classes input _ => input.path :: input.classpath
      sources ++ request.lineNumbers.toList

end Command

/-- Put an output where it belongs: the text to print, and the files afterwards. -/
def Output.place (output : Output) (root : FileTree) : Except RunFailure (String × FileTree) :=
  match output.path with
  | none => .ok (output.text, root)
  | some path =>
      match root.write? path output.text with
      | none => .error (.unwritable path)
      | some root => .ok ("", root)

/-- Run a command in a directory: what it prints, and the directory afterwards. -/
def Command.perform (command : Command) (root : FileTree) :
    Logged RunFailure (String × FileTree) := do
  (← command.run root.lookup?).place root

end CallSearch
