/-
# CallSearch.Main — the program

Reads the files a command names, runs the command on them, and prints or writes
what it produces.  Warnings go to standard error, other notices only on request.
-/
import CallSearch.Run

namespace CallSearch.Main

set_option autoImplicit false

/-- The text of a file; one that is no text is empty, which no document is. -/
def readText (entry : IO.FS.DirEntry) : IO String := do
  let bytes ← IO.FS.readBinFile entry.path
  return (String.fromUTF8? bytes).getD ""

/-- Everything below an entry of a directory, with the texts of documents. -/
partial def readEntry (entry : IO.FS.DirEntry) : IO (String × FileTree) := do
  if ← entry.path.isDir then
    let entries ← entry.path.readDir
    return (entry.fileName, .directory (← entries.toList.mapM readEntry))
  else if Scan.isDocument entry.fileName then
    return (entry.fileName, .file (← readText entry))
  else return (entry.fileName, .file "")

/-- What a path leads to. -/
def readPath (path : String) : IO (Option FileTree) := do
  let entry : IO.FS.DirEntry := ⟨".", path⟩
  if !(← entry.path.pathExists) then return none
  else if ← entry.path.isDir then return some (← readEntry entry).2
  else return some (.file (← readText entry))

/-- The program's answer to arguments that name no command. -/
def explain (usage : UsageError) : IO UInt32 := do
  let help := "usage: callgoat [--quiet] [--timing] [-v] "
    ++ "<entry-points|methods|literals|index|search> [options]"
  match usage with
  | .displayHelp => do
      IO.println help
      return 0
  | .displayVersion => do
      IO.println "callgoat 0.1.0"
      return 0
  | _ => do
      IO.eprintln help
      return 2

/-- Report a failure. -/
def report (failure : RunFailure) : IO UInt32 := do
  IO.eprintln ("Error: " ++ failure.message)
  if let some cause := failure.cause? then
    if cause.message != failure.message then IO.eprintln ("Caused by: " ++ cause.message)
  return 1

/-- Print or write an output. -/
def emit (output : Output) : IO UInt32 := do
  match output.path with
  | none => do
      IO.print output.text
      return 0
  | some path =>
      try
        IO.FS.writeFile path output.text
        return 0
      catch _ => report (.unwritable path)

/-- Run a command line on the file system. -/
def run (line : CommandLine) : IO UInt32 := do
  let trees ← line.command.reads.mapM fun path => do return (path, ← readPath path)
  let logged := line.command.run fun path => (trees.lookup path).join
  for notice in logged.notices do
    if line.verbose || notice.isWarning then IO.eprintln notice.line
  match logged.result with
  | .ok output => emit output
  | .error failure => report failure

end CallSearch.Main

def main (arguments : List String) : IO UInt32 :=
  match CallSearch.CommandLine.parse arguments with
  | .ok line => CallSearch.Main.run line
  | .error usage => CallSearch.Main.explain usage
