/-
# CallSearch.Forest — call trees with shared bodies

The call tree of an entry point expands every call to the tree of the method it
lands on.  A call that is not expanded (its target has no code, or is being expanded
around it) stays as an `invoked` leaf.

The body of a call depends on its callee and on its recursion context, the outermost
recursive method around it.  Bodies stand in one list and call nodes refer to them
by number, so that nodes with the same callee and context share one body.
-/
import CallSearch.Invocation
import CallSearch.Tree

namespace CallSearch

set_option autoImplicit false

/-- What the body of a call node depends on. -/
structure NodeKey where
  callee : Signature
  context : Option Signature
deriving DecidableEq, Inhabited

namespace NodeKey

instance : Ord NodeKey := ⟨compareLex (compareOn callee) (compareOn context)⟩

instance : Std.TransOrd NodeKey :=
  inferInstanceAs (Std.TransCmp (compareLex (compareOn callee) (compareOn context)))

instance : Std.LawfulEqOrd NodeKey where
  compare_self := Std.ReflCmp.compare_self
  eq_of_compare {a b} h := by
    have parts : (compare a.callee b.callee).then (compare a.context b.context) = .eq := h
    simp only [Ordering.then_eq_eq, Std.LawfulEqCmp.compare_eq_iff_eq] at parts
    cases a
    cases b
    simpa using parts

end NodeKey

/-- A call whose callee is expanded. -/
structure CallNode where
  /-- The call, bound to the method it lands on. -/
  call : Invocation
  /-- The recursive method the call is expanded under. -/
  context : Option Signature
  /-- The number of the body. -/
  body : Nat
deriving DecidableEq, Inhabited

namespace CallNode

instance : Ord CallNode :=
  ⟨compareLex (compareOn call) (compareLex (compareOn context) (compareOn body))⟩

/-- The method the call lands on. -/
def callee (node : CallNode) : Signature := node.call.callee

/-- What the body depends on. -/
def key (node : CallNode) : NodeKey := ⟨node.callee, node.context⟩

end CallNode

/-- A leaf of a body. -/
inductive CallItem where
  /-- A call that is not expanded. -/
  | invoked (call : Invocation)
  /-- A call that is expanded. -/
  | call (node : CallNode)
deriving DecidableEq, Inhabited

namespace CallItem

/-- Calls that are not expanded come first. -/
def order : CallItem → CallItem → Ordering
  | .invoked a, .invoked b => compare a b
  | .invoked _, .call _ => .lt
  | .call _, .invoked _ => .gt
  | .call a, .call b => compare a b

instance : Ord CallItem := ⟨order⟩

/-- The call itself. -/
def invocation : CallItem → Invocation
  | .invoked site => site
  | .call node => node.call

/-- The node of a call that is expanded. -/
def node? : CallItem → Option CallNode
  | .invoked _ => none
  | .call node => some node

end CallItem

/-- Call trees over one list of bodies. -/
structure Forest where
  roots : List CallNode
  bodies : List (Tree CallItem)
deriving Inhabited

namespace Forest

/-- The body of a node, if there is one with its number. -/
def body? (forest : Forest) (node : CallNode) : Option (Tree CallItem) := forest.bodies[node.body]?

/-- The body of a node, empty if there is none. -/
def body (forest : Forest) (node : CallNode) : Tree CallItem := (forest.body? node).getD .empty

/-- The expanded calls directly in the body of a node. -/
def children (forest : Forest) (node : CallNode) : List CallNode :=
  (forest.body node).leaves.filterMap CallItem.node?

/-- The number of call nodes written in the roots and bodies.  No chain of nodes with
different keys is longer. -/
def nodeCount (forest : Forest) : Nat :=
  forest.roots.length
    + (forest.bodies.map fun body => (body.leaves.filterMap CallItem.node?).length).foldr (· + ·) 0

/-- The nodes met when pending nodes are taken one by one and the children of a node are put
in front, last child first, unless a node with its key was met before. -/
def visitsFrom (forest : Forest) : Nat → List NodeKey → List CallNode → List CallNode
  | 0, _, _ => []
  | _ + 1, _, [] => []
  | steps + 1, met, node :: pending =>
      if met.contains node.key then node :: visitsFrom forest steps met pending
      else
        node :: visitsFrom forest steps (node.key :: met)
          ((forest.children node).reverse ++ pending)

/-- Every node met on the way from the roots, last root first.  Each key puts its children
in front once, and neither keys nor children outnumber the nodes. -/
def visits (forest : Forest) : List CallNode :=
  let count := forest.nodeCount
  visitsFrom forest (count + count * count) [] forest.roots.reverse

end Forest

end CallSearch
