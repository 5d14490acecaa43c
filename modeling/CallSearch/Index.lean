/-
# CallSearch.Index — everything a search needs

An index holds the call trees of some entry points and the summary of each of their
nodes.  `Index.validate` tells whether these belong together: the trees are those of
the entry points, and every node that can be reached has a body and a summary.
-/
import CallSearch.EntryPoint
import CallSearch.Forest.Build
import CallSearch.Summary

namespace CallSearch

set_option autoImplicit false

/-- Call trees with the summaries of their nodes. -/
structure Index where
  entryPoints : List Signature
  forest : Forest
  summaries : SummaryTable
deriving Inhabited

namespace Index

/-- Analyse a program from some entry points. -/
def build (config : AnalysisConfig) (classes : ClassTable) (entryPoints : List Signature) :
    Logged Failure Index := do
  let trees ← MethodTrees.ofClasses config classes
  let forest ← Forest.build config trees (.ofClasses classes) entryPoints
  let summaries := forest.summaries
  Logged.notify (.indexed entryPoints.length forest.bodies.length summaries.size)
  return ⟨entryPoints, forest, summaries⟩

/-- What is wrong with a single node: its body is missing, or else its summary. -/
def nodeFault? (index : Index) (node : CallNode) : Option IndexFault :=
  if (index.forest.body? node).isNone then some (.missingBody node.body node.callee)
  else if !index.summaries.contains node.key then some (.missingSummary node.callee)
  else none

/-- What is wrong with the roots: their number, or else the first that is not the tree of its
entry point. -/
def rootFault? (index : Index) : Option IndexFault :=
  let roots := index.forest.roots
  if index.entryPoints.length != roots.length then
    some (.rootCount index.entryPoints.length roots.length)
  else
    (index.entryPoints.zip roots).findSome? fun (entryPoint, root) =>
      if entryPoint != root.callee then some (.rootMismatch root.callee entryPoint) else none

/-- The first fault of an index, the roots first and then the nodes in the order they are
met. -/
def fault? (index : Index) : Option IndexFault :=
  index.rootFault?.or (index.forest.visits.findSome? index.nodeFault?)

/-- Check that call trees and summaries belong together. -/
def validate (index : Index) : Except Failure Unit :=
  match index.fault? with
  | some fault => .error (.inconsistentIndex fault)
  | none => .ok ()

/-- The keys of all nodes, in increasing order. -/
def nodeKeys (index : Index) : List NodeKey :=
  sortUnique (index.forest.visits.map CallNode.key)

/-- The methods whose bodies are expanded. -/
def methods (index : Index) : List Signature := sortUnique (index.nodeKeys.map NodeKey.callee)

/-- The string literals any entry point may pass on. -/
def literals (index : Index) : List String :=
  sortUnique (index.summaries.values.flatMap fun summary => summary.literals.toList)

end Index

end CallSearch
