/-
# CallSearch.Notice — what a run reports beside its result

Analyses and commands report their progress as notices, warnings among them.
`Logged` pairs a result or failure with the notices given on the way, in order;
notices given before a failure are kept.
-/
import CallSearch.Signature

namespace CallSearch

set_option autoImplicit false

/-- A message to the user. -/
inductive Notice where
  /-- A method is left out because it branches too often. -/
  | skipped (method : Signature) (branches limit : Nat)
  | recursiveMethods (count : Nat)
  | indexed (entryPoints bodies summaries : Nat)
  | loaded (classes targets files : Nat)
  /-- A file is ignored because its class was read before. -/
  | alreadyLoaded (path name : String)
  | noEntryPoints
  /-- No match has a cut within the greatest depth allowed. -/
  | beyondMaxDepth (count : Nat)
  /-- No match has a path with all query words. -/
  | noCompletePath
deriving DecidableEq

namespace Notice

/-- Whether a notice is a warning. -/
def isWarning : Notice → Bool
  | .skipped .. => true
  | .alreadyLoaded .. => true
  | .noEntryPoints => true
  | .beyondMaxDepth _ => true
  | .noCompletePath => true
  | _ => false

/-- The wording of a notice. -/
def message : Notice → String
  | .skipped method branches limit =>
      "skip " ++ method.text ++ ": " ++ Nat.repr branches ++ " branches exceed the limit of "
        ++ Nat.repr limit
  | .recursiveMethods count => Nat.repr count ++ " methods involved in recursive call chains"
  | .indexed entryPoints bodies summaries =>
      "indexed " ++ Nat.repr entryPoints ++ " entry points: " ++ Nat.repr bodies ++ " bodies, "
        ++ Nat.repr summaries ++ " summaries"
  | .loaded classes targets files =>
      "loaded " ++ Nat.repr classes ++ " classes (" ++ Nat.repr targets ++ " targets) from "
        ++ Nat.repr files ++ " files"
  | .alreadyLoaded path name => path ++ ": class " ++ name ++ " is already loaded, ignored"
  | .noEntryPoints => "no entry points found in the input classes"
  | .beyondMaxDepth count =>
      "all " ++ Nat.repr count
        ++ " matches exceed the max call-tree depth; raise --max-depth to show them"
  | .noCompletePath =>
      "no path contains every query word; use --form treecut to show such code"

/-- The line a notice is reported as. -/
def line (notice : Notice) : String :=
  (if notice.isWarning then "WARN: " else "INFO: ") ++ notice.message

end Notice

/-- A result or failure with the notices given on the way. -/
structure Logged (ε α : Type) where
  notices : List Notice
  result : Except ε α

namespace Logged

variable {ε δ α β : Type}

instance : Monad (Logged ε) where
  pure value := ⟨[], .ok value⟩
  bind logged next :=
    match logged.result with
    | .error failure => ⟨logged.notices, .error failure⟩
    | .ok value =>
        let following := next value
        ⟨logged.notices ++ following.notices, following.result⟩

instance : MonadLift (Except ε) (Logged ε) := ⟨fun result => ⟨[], result⟩⟩

/-- Give a notice. -/
def notify (notice : Notice) : Logged ε Unit := ⟨[notice], .ok ()⟩

/-- Give a notice if there is reason to. -/
def notifyIf (reason : Bool) (notice : Notice) : Logged ε Unit :=
  if reason then notify notice else pure ()

/-- Fail. -/
def fail (failure : ε) : Logged ε α := ⟨[], .error failure⟩

/-- Reword the failure. -/
def mapFailure (f : ε → δ) (logged : Logged ε α) : Logged δ α :=
  ⟨logged.notices, logged.result.mapError f⟩

end Logged

end CallSearch
