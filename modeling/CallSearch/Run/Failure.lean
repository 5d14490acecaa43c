/-
# CallSearch.Run.Failure — why a command fails

A command fails over a file, or because the engine refuses what the files hold.
`RunFailure.message` words the failure, and `RunFailure.cause?` gives the failure of
the engine behind it.
-/
import CallSearch.Failure

namespace CallSearch

set_option autoImplicit false

/-- Why a command fails. -/
inductive RunFailure where
  | inputNotFound (path : String)
  | classpathNotFound (path : String)
  | unsupportedFile (path : String)
  | unreadable (path : String)
  /-- A file that should hold a class does not. -/
  | notAClass (path : String)
  | notAnIndex (path : String)
  | notALineTable (path : String)
  /-- The output cannot be written. -/
  | unwritable (path : String)
  /-- A stored index is inconsistent. -/
  | badIndex (path : String) (cause : Failure)
  /-- The call trees cannot be built. -/
  | badProgram (cause : Failure)
  /-- The literals cannot be found, or the words make no query. -/
  | refused (cause : Failure)
deriving DecidableEq

namespace RunFailure

/-- The failure of the engine behind a failure, if there is one. -/
def cause? : RunFailure → Option Failure
  | .badIndex _ cause => some cause
  | .badProgram cause => some cause
  | .refused cause => some cause
  | _ => none

/-- The wording of a failure. -/
def message : RunFailure → String
  | .inputNotFound path => "input not found: " ++ path
  | .classpathNotFound path => "classpath entry not found: " ++ path
  | .unsupportedFile path => "unsupported input file: " ++ path
  | .unreadable path => "failed to read " ++ path
  | .notAClass path => "failed to parse " ++ path
  | .notAnIndex path => "failed to parse index " ++ path
  | .notALineTable path => "failed to parse line numbers in " ++ path
  | .unwritable path => "failed to open " ++ path
  | .badIndex path _ => "failed to load index " ++ path
  | .badProgram _ => "failed to build call trees"
  | .refused cause => cause.message

end RunFailure

end CallSearch
