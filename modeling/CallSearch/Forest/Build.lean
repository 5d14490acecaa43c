/-
# CallSearch.Forest.Build — expanding calls

Starting from the entry points, every call is replaced by the methods it may land
on, and those are expanded in turn unless they are being expanded already.  A
finished body is stored under its key and used again.

The context of a node is that of its parent; below a node without context a
recursive method is its own context.
-/
import CallSearch.CallGraph
import CallSearch.Forest
import CallSearch.Tree.Normal

namespace CallSearch.Forest

set_option autoImplicit false

/-- What an expansion looks up. -/
structure Source where
  trees : MethodTrees
  dispatch : Dispatch
  recursive : List Signature

/-- The bodies finished so far, and the number of the body of each key. -/
structure Arena where
  numbers : Table NodeKey Nat
  bodies : List (Tree CallItem)

namespace Arena

def empty : Arena := ⟨∅, []⟩

/-- Store the body of a key. -/
def push (arena : Arena) (key : NodeKey) (body : Tree CallItem) : Arena :=
  ⟨arena.numbers.insert key arena.bodies.length, arena.bodies ++ [body]⟩

end Arena

namespace Source

/-- The context of a method below a node with some context. -/
def contextOf (source : Source) (context : Option Signature) (callee : Signature) :
    Option Signature :=
  context.or (if source.recursive.contains callee then some callee else none)

/-- The tree of a call: the methods it may land on, each expanded by `expand` unless it has
no tree or is being expanded; the bare call when it lands nowhere. -/
def callTree (source : Source) (expanding : List Signature) (context : Option Signature)
    (expand : Invocation → Option Signature → StateM Arena CallNode) (call : Invocation) :
    StateM Arena (Tree CallItem) := do
  let targets := source.dispatch.resolve call
  if targets.isEmpty then return .leaf (.invoked call)
  let alternatives ← targets.mapM fun target => do
    let bound := call.retarget target
    if expanding.contains target || !source.trees.contains target then
      return Tree.leaf (CallItem.invoked bound)
    else return Tree.leaf (CallItem.call (← expand bound (source.contextOf context target)))
  return (Tree.alt alternatives).normalize

/-- The node of a call, with its body expanded at most `depth` calls deep. -/
def node (source : Source) :
    Nat → List Signature → Invocation → Option Signature → StateM Arena CallNode
  | depth, expanding, call, context => do
      let key : NodeKey := ⟨call.callee, context⟩
      match (← get).numbers.get? key with
      | some body => return ⟨call, context, body⟩
      | none =>
          let body ←
            match depth, source.trees.get? call.callee with
            | depth + 1, some tree => do
                let expanding := call.callee :: expanding
                let expanded ← tree.flatMapM
                  (source.callTree expanding context (source.node depth expanding))
                pure expanded.normalize
            | _, _ => pure .empty
          let number := (← get).bodies.length
          modify (·.push key body)
          return ⟨call, context, number⟩

end Source

/-- The call trees of some entry points.  The methods being expanded are distinct, so the
number of trees bounds the depth. -/
def build (config : AnalysisConfig) (trees : MethodTrees) (dispatch : Dispatch)
    (entryPoints : List Signature) : Logged Failure Forest := do
  let roots ← entryPoints.mapM (resolveEntry trees dispatch ·)
  let graph := CallGraph.ofTrees trees dispatch
  let recursive := sortUnique (roots.flatMap (graph.recursiveFrom config.directRecursion))
  Logged.notify (.recursiveMethods recursive.length)
  let source : Source := ⟨trees, dispatch, recursive⟩
  let expandRoots : StateM Arena (List CallNode) := roots.mapM fun root =>
    source.node trees.size [] (entryCall root) (source.contextOf none root)
  let (nodes, arena) := expandRoots.run .empty
  return ⟨nodes, arena.bodies⟩

end CallSearch.Forest
