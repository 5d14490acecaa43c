/-
# CallSearch.Dispatch — the methods a call may land on

The candidates of a call are the methods filed for the class it is made on.  A call
resolves to the candidates its argument and result types fit, the closest match first.
Every fitting candidate is kept, even when an overload is more specific than another.
-/
import CallSearch.Dispatch.Table

namespace CallSearch

set_option autoImplicit false

/-- A program with its hierarchy and the methods its calls may land on. -/
structure Dispatch where
  classes : ClassTable
  hierarchy : Hierarchy
  table : DispatchTable

namespace Dispatch

def ofClasses (classes : ClassTable) : Dispatch :=
  let hierarchy := .ofClasses classes
  ⟨classes, hierarchy, .ofClasses classes hierarchy⟩

/-- The candidates of a call on a class, whatever its types, in the order of signatures. -/
def candidates (dispatch : Dispatch) (name : String) (shape : Signature) : List Signature :=
  (dispatch.table.filed (.ofShape name shape)).toList

/-- A candidate with the summed distances of the arguments from its parameters. -/
structure Match where
  distance : Nat
  target : Signature

instance : Ord Match := ⟨compareLex (compareOn Match.distance) (compareOn Match.target)⟩

/-- The summed distances of arguments from parameters; `none` if one is not assignable. -/
def argumentDistance (hierarchy : Hierarchy) : List String → List String → Option Nat
  | arg :: args, param :: params => do
      let first ← hierarchy.isA arg param
      let rest ← argumentDistance hierarchy args params
      return first + rest
  | _, _ => some 0

/-- The candidate as a match, if the types of the call fit.  A static call stays on its
class, and a result that is dropped fits any. -/
def match? (dispatch : Dispatch) (call : Invocation) (candidate : Signature) : Option Match := do
  if call.kind = .static ∧ candidate.owner ≠ call.callee.owner then none
  let distance ← argumentDistance dispatch.hierarchy call.callee.params candidate.params
  if call.callee.result ≠ voidType then
    let _ ← dispatch.hierarchy.isA candidate.result call.callee.result
  return ⟨distance, candidate⟩

/-- The methods a call may land on, the closest match first. -/
def resolve (dispatch : Dispatch) (call : Invocation) : List Signature :=
  let candidates := dispatch.candidates call.callee.owner call.callee
  (sortAscending (candidates.filterMap (dispatch.match? call))).map Match.target

end Dispatch

end CallSearch
