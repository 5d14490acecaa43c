/-
# CallSearch.MethodTree — what a method may call

The tree of a method stands for the sequences of calls its runs make.  The code is
typed, simplified and structured, the paths through the regions are enumerated,
and the paths are compressed into a tree.

The number of paths grows with the branches of a level, so a limit on the branches
can be set; methods above it are either left out or fail the whole analysis.
-/
import CallSearch.Code.Simplify
import CallSearch.Notice
import CallSearch.Path

namespace CallSearch

set_option autoImplicit false

/-- What to do with a method that branches more often than the limit. -/
inductive BranchLimitPolicy where
  /-- Leave the method out, so that calls to it stay unexpanded. -/
  | skip
  /-- Fail the whole analysis. -/
  | abort
deriving DecidableEq, Inhabited

/-- How programs are analysed. -/
structure AnalysisConfig where
  /-- The most branches a level of a method may have. -/
  branchLimit : Option Nat := some 50
  onBranchLimit : BranchLimitPolicy := .skip
  /-- Whether a method that calls itself counts as recursive. -/
  directRecursion : Bool := false
deriving Inhabited

namespace Method

/-- The regions of the simplified code of a method. -/
def regions (cls : Class) (method : Method) : Except Failure (List Region) := do
  Region.structured method.signature (Code.simplify (← method.typed cls))

/-- Refuse regions with more branches than the limit. -/
def checkBranches (method : Method) (limit : Option Nat) (regions : List Region) :
    Except Failure Unit :=
  match limit with
  | none => .ok ()
  | some limit =>
      let branches := Region.branchCount regions
      if limit < branches then .error (.tooManyBranches method.signature branches limit)
      else .ok ()

/-- The tree of the calls of a method, `none` for a method without code. -/
def tree? (cls : Class) (method : Method) (limit : Option Nat) :
    Except Failure (Option (Tree Invocation)) := do
  if method.code.isNone then return none
  let regions ← method.regions cls
  method.checkBranches limit regions
  return some (Path.tree (Region.paths regions))

end Method

/-- The trees of methods by their signature. -/
abbrev MethodTrees := Table Signature (Tree Invocation)

namespace MethodTrees

/-- Add the tree of one method, if it has one. -/
def addMethod (config : AnalysisConfig) (trees : MethodTrees) (cls : Class) (method : Method) :
    Logged Failure MethodTrees :=
  match method.tree? cls config.branchLimit with
  | .ok none => pure trees
  | .ok (some tree) => pure (trees.insert method.signature tree)
  | .error (.tooManyBranches signature branches limit) =>
      if config.onBranchLimit = .skip then do
        Logged.notify (.skipped signature branches limit)
        return trees
      else .fail (.tooManyBranches signature branches limit)
  | .error failure => .fail failure

/-- The trees of all methods with code, class by class.  Of several methods with one
signature the last that has a tree counts. -/
def ofClasses (config : AnalysisConfig) (classes : ClassTable) : Logged Failure MethodTrees :=
  classes.toList.foldlM
    (fun trees cls => cls.methods.foldlM (fun trees method => addMethod config trees cls method)
      trees)
    ∅

end MethodTrees

end CallSearch
