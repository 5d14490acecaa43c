/-
# CallSearch.FileTree — files and directories

A file tree is what a path leads to: a file with its text, or a directory of named
trees.  Paths are written with `/`; empty parts and `.` stay in a directory and
`..` goes back up, no further than the root.

Of what lies outside the tree only `/dev/null` is known, which is always empty and
loses what is written to it.
-/

namespace CallSearch

set_option autoImplicit false

/-- A file or a directory. -/
inductive FileTree where
  | file (text : String)
  | directory (entries : List (String × FileTree))
deriving Inhabited

namespace FileTree

def isDirectory : FileTree → Bool
  | .file _ => false
  | .directory _ => true

/-- The tree with a given name in a directory. -/
def entry? (name : String) : FileTree → Option FileTree
  | .file _ => none
  | .directory entries => entries.lookup name

/-- The tree some names lead to. -/
def at? : List String → FileTree → Option FileTree
  | [], tree => some tree
  | name :: rest, tree => (tree.entry? name).bind (at? rest)

/-- The names that lead to a place: the parts of a path, followed from the directory that
`names` lead to, last name first.  Every part must start from a directory, and the last one
need not exist. -/
def follow? (root : FileTree) : List String → List String → Option (List String)
  | names, [] => some names.reverse
  | names, part :: rest =>
      if !(root.at? names.reverse).any isDirectory then none
      else if part == "" || part == "." then follow? root names rest
      else if part == ".." then
        match names with
        | [] => none
        | _ :: above => follow? root above rest
      else follow? root (part :: names) rest

/-- How many bytes a name may have. -/
def maxName : Nat := 255

/-- How many bytes a path may have. -/
def maxPath : Nat := 4095

/-- Whether a path can be written at all. -/
def isPath (path : String) : Bool :=
  !path.toList.contains '\x00' && path.utf8ByteSize ≤ maxPath
    && (path.splitOn "/").all fun part => part.utf8ByteSize ≤ maxName

/-- The names a path leads along.  Paths from outside the tree are not followed. -/
def names? (root : FileTree) (path : String) : Option (List String) :=
  if isPath path then
    match path.splitOn "/" with
    | "" :: _ => none
    | parts => root.follow? [] parts
  else none

/-- Whether a path leads to what is always empty. -/
def isNull (path : String) : Bool :=
  path.startsWith "/" && path.endsWith "/null"
    && (path.splitOn "/").filter (fun part => part != "" && part != ".") == ["dev", "null"]

/-- The tree at the end of a path. -/
def lookup? (root : FileTree) (path : String) : Option FileTree :=
  if isNull path then some (.file "")
  else (root.names? path).bind fun names => root.at? names

/-- Put a tree in the place of a name, after the other names if it is new. -/
def setEntry (name : String) (tree : FileTree) :
    List (String × FileTree) → List (String × FileTree)
  | [] => [(name, tree)]
  | entry :: rest =>
      if entry.1 == name then (name, tree) :: rest else entry :: setEntry name tree rest

/-- Write a file where some names lead.  Its directory must exist, and a directory is not
overwritten. -/
def writeAt? (text : String) : List String → FileTree → Option FileTree
  | name :: rest, .directory entries =>
      match rest, entries.lookup name with
      | [], some (.directory _) => none
      | [], _ => some (.directory (setEntry name (.file text) entries))
      | rest, some tree => do
          let tree ← writeAt? text rest tree
          return .directory (setEntry name tree entries)
      | _, none => none
  | _, _ => none

/-- Write a file at a path. -/
def write? (root : FileTree) (path text : String) : Option FileTree :=
  if isNull path then some root
  else (root.names? path).bind fun names => root.writeAt? text names

/-- Put a tree where some names lead, making the directories on the way. -/
def addAt (added : FileTree) : List String → FileTree → FileTree
  | [], _ => added
  | name :: rest, tree =>
      let entries :=
        match tree with
        | .file _ => []
        | .directory entries => entries
      let below := (entries.lookup name).getD (.directory [])
      .directory (setEntry name (addAt added rest below) entries)

/-- The tree of some files by their paths; a path without text is an empty directory. -/
def ofFiles (files : List (String × Option String)) : FileTree :=
  files.foldl
    (fun tree file =>
      let added : FileTree :=
        match file.2 with
        | some text => .file text
        | none => .directory []
      addAt added (file.1.splitOn "/") tree)
    (.directory [])

mutual

/-- All files with the names that lead to them. -/
def files : FileTree → List (List String × String)
  | .file text => [([], text)]
  | .directory entries => filesOfEntries entries

/-- All files below some entries. -/
def filesOfEntries : List (String × FileTree) → List (List String × String)
  | [] => []
  | (name, tree) :: rest =>
      (tree.files.map fun file => (name :: file.1, file.2)) ++ filesOfEntries rest

end

end FileTree

end CallSearch
