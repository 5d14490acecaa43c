/-
# CallSearch.Scan — reading the classes of a program

Classes are read from documents, one a file.  A path names a document, which must
end in `.json`, or a directory, of which all such files are read, at any depth and
in the order of their names.  Of several classes with one name the first counts.

Classes found under the input are the targets of an analysis; those of the class
path only complete the program.
-/
import CallSearch.FileTree
import CallSearch.Notice
import CallSearch.Program.Document
import CallSearch.Report
import CallSearch.Run.Failure

namespace CallSearch

set_option autoImplicit false

/-- What paths lead to. -/
abbrev Files := String → Option FileTree

/-- The classes read so far. -/
structure Scan where
  classes : ClassTable
  /-- The names of the classes found under the input. -/
  targets : List String
  /-- The files read. -/
  artifacts : List Artifact
deriving Inhabited

namespace Scan

def empty : Scan := ⟨∅, [], []⟩

/-- The classes found under the input. -/
def targetClasses (scan : Scan) : ClassTable := scan.classes.filter scan.targets.contains

/-- Whether a file name ends in `.json` and has something before. -/
def isDocument (name : String) : Bool := name.endsWith ".json" && name != ".json"

/-- A path followed by some names. -/
def joinPath (path : String) (names : List String) : String :=
  (if path.endsWith "/" then path else path ++ "/") ++ "/".intercalate names

/-- The documents a path leads to, with their paths and texts. -/
def documents (path : String) : FileTree → Except RunFailure (List (String × String))
  | .file text =>
      if (path.splitOn "/").getLast?.any isDocument then .ok [(path, text)]
      else .error (.unsupportedFile path)
  | .directory entries =>
      let files := (FileTree.filesOfEntries entries).filter fun file =>
        file.1.getLast?.any isDocument
      let ordered := files.mergeSort fun a b => (compare a.1 b.1).isLE
      .ok (ordered.map fun file => (joinPath path file.1, file.2))

/-- Read one document. -/
def addDocument (isTarget : Bool) (scan : Scan) (path text : String) :
    Logged RunFailure Scan :=
  match Class.parse? text with
  | none => .fail (.notAClass path)
  | some cls => do
      let artifacts := scan.artifacts ++ [⟨path, text.utf8ByteSize, isTarget⟩]
      if scan.classes.contains cls.name then
        Logged.notify (.alreadyLoaded path cls.name)
        return { scan with artifacts }
      else
        let targets := if isTarget then scan.targets ++ [cls.name] else scan.targets
        return ⟨scan.classes.insert cls, targets, artifacts⟩

/-- Read everything a path leads to. -/
def addPath (files : Files) (isTarget : Bool) (scan : Scan) (path : String) :
    Logged RunFailure Scan := do
  match files path with
  | none => .fail (if isTarget then .inputNotFound path else .classpathNotFound path)
  | some tree =>
      (← documents path tree).foldlM
        (fun scan document => scan.addDocument isTarget document.1 document.2) scan

/-- Refuse paths that lead nowhere. -/
def checkPaths (files : Files) (input : String) (classpath : List String) :
    Except RunFailure Unit :=
  if (files input).isNone then .error (.inputNotFound input)
  else
    match classpath.find? fun path => (files path).isNone with
    | some path => .error (.classpathNotFound path)
    | none => .ok ()

/-- Read the classes of a program: the input, then the class path in the order of paths. -/
def ofPaths (files : Files) (input : String) (classpath : List String) :
    Logged RunFailure Scan := do
  checkPaths files input classpath
  let scan ← addPath files true .empty input
  let scan ← (sortAscending classpath).foldlM (addPath files false) scan
  Logged.notify (.loaded scan.classes.size scan.targets.length scan.artifacts.length)
  return scan

end Scan

end CallSearch
