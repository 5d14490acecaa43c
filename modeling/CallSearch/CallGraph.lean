/-
# CallSearch.CallGraph — which method calls which

The vertices of the call graph are the methods with a tree.  A method has an edge to
every method with a tree that one of the calls in its tree may land on.

A method is recursive when it lies on a cycle through another method; a method that
calls only itself counts on request.  Cycles are found by one search in depth: the
methods met are numbered, those whose component is still open stand on a stack, and
a method that reaches back to nothing met before it closes its component.
-/
import CallSearch.Dispatch
import CallSearch.MethodTree

namespace CallSearch

set_option autoImplicit false

/-- The methods each method calls. -/
structure CallGraph where
  edges : Table Signature (List Signature)

namespace CallGraph

/-- The call graph of some method trees. -/
def ofTrees (trees : MethodTrees) (dispatch : Dispatch) : CallGraph where
  edges := .ofList (trees.entries.map fun entry =>
    (entry.1, (entry.2.leaves.flatMap dispatch.resolve).filter trees.contains))

/-- The methods a method calls. -/
def targets (graph : CallGraph) (method : Signature) : List Signature :=
  (graph.edges.get? method).getD []

/-- Whether a method calls itself. -/
def callsItself (graph : CallGraph) (method : Signature) : Bool :=
  (graph.targets method).contains method

/-- A search for the cycles of a call graph. -/
structure Search where
  /-- How many methods were met before each method that was met. -/
  order : Table Signature Nat
  /-- The earliest place in the order that a method is known to reach back to. -/
  low : Table Signature Nat
  /-- The methods met whose component is still open, the last met first. -/
  stack : List Signature
  /-- The recursive methods found. -/
  recursive : List Signature

namespace Search

def empty : Search := ⟨∅, ∅, [], []⟩

/-- Meet a method. -/
def enter (search : Search) (method : Signature) : Search :=
  { search with
    order := search.order.insert method search.order.size
    low := search.low.insert method search.order.size
    stack := method :: search.stack }

/-- Let a method that was met reach back to a place in the order. -/
def lower (search : Search) (method : Signature) (place : Nat) : Search :=
  match search.low.get? method with
  | some low => { search with low := search.low.insert method (min low place) }
  | none => search

/-- Follow a call of a method to a target, with `dig` for a target that was not met. -/
def follow (dig : Signature → Search → Search) (method : Signature) (search : Search)
    (target : Signature) : Search :=
  if target = method then search
  else
    match search.order.get? target with
    | none =>
        let dug := dig target search
        match dug.low.get? target with
        | some place => dug.lower method place
        | none => dug
    | some place => if target ∈ search.stack then search.lower method place else search

/-- Close the component of a method, unless it reaches back to one met before it.  The
component is recursive if it has another member, or if `alone` says that the method counts by
itself. -/
def leave (search : Search) (method : Signature) (alone : Bool) : Search :=
  if search.low.get? method = search.order.get? method then
    let others := search.stack.takeWhile (· ≠ method)
    { search with
      stack := (search.stack.dropWhile (· ≠ method)).tail
      recursive :=
        if others ≠ [] ∨ alone then method :: others ++ search.recursive else search.recursive }
  else search

end Search

/-- Search from a method that was not met, at most `depth` calls deep. -/
def dig (graph : CallGraph) (directRecursion : Bool) : Nat → Signature → Search → Search
  | 0, _, search => search
  | depth + 1, method, search =>
      let followed := (graph.targets method).foldl
        (Search.follow (graph.dig directRecursion depth) method) (search.enter method)
      followed.leave method (directRecursion && graph.callsItself method)

/-- The recursive methods among those reached from a method, in the order of signatures.  The
methods being searched from are distinct, so the number of methods bounds the depth. -/
def recursiveFrom (graph : CallGraph) (directRecursion : Bool) (root : Signature) :
    List Signature :=
  sortUnique (graph.dig directRecursion graph.edges.size root .empty).recursive

end CallGraph

/-- The call by which a virtual machine enters a method. -/
def entryCall (entryPoint : Signature) : Invocation :=
  { kind := .static, callee := entryPoint, literals := [], locator := none }

/-- The method with a tree that an entry point names. -/
def resolveEntry (trees : MethodTrees) (dispatch : Dispatch) (entryPoint : Signature) :
    Except Failure Signature :=
  match dispatch.resolve (entryCall entryPoint) with
  | root :: _ =>
      if trees.contains root then .ok root else .error (.entryPointNotFound entryPoint)
  | [] => .error (.entryPointNotFound entryPoint)

/-- The recursive methods reached from an entry point. -/
def recursiveMethods (trees : MethodTrees) (dispatch : Dispatch) (directRecursion : Bool)
    (entryPoint : Signature) : Except Failure (List Signature) := do
  let root ← resolveEntry trees dispatch entryPoint
  return (CallGraph.ofTrees trees dispatch).recursiveFrom directRecursion root

end CallSearch
