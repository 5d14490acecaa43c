/-
# CallSearch.Excerpt.Cut — call trees cut at a depth

Cutting a call node at a depth keeps that many levels of calls, the node itself
being the first; calls beyond are left as they stand.  `Forest.shallowestCut?` finds
the least depth at which a query is fulfilled.

Bodies are cut once for each callee, context and remaining depth.
-/
import CallSearch.Excerpt
import CallSearch.Query

namespace CallSearch.Forest

set_option autoImplicit false

/-- The bodies cut so far, and whether a call node was cut off. -/
structure Cutting where
  bodies : List ((NodeKey × Nat) × Tree ExcerptItem)
  deeper : Bool

/-- The body of a node with a number of levels of calls below it. -/
def cutBody (forest : Forest) : Nat → CallNode → StateM Cutting (Tree ExcerptItem)
  | below, node => do
      let key := (node.key, below + 1)
      match (← get).bodies.lookup key with
      | some body => return body
      | none =>
          let body ← (forest.body node).mapM fun item =>
            match item with
            | .invoked call => pure (ExcerptItem.invoked call)
            | .call child =>
                match below with
                | 0 => do
                    modify fun cutting => { cutting with deeper := true }
                    return .invoked child.call
                | below + 1 => do
                    let body ← forest.cutBody below child
                    return .call child.call child.context (below + 1) body
          modify fun cutting => { cutting with bodies := (key, body) :: cutting.bodies }
          return body

/-- A node cut at a depth, and whether call nodes were cut off. -/
structure Cut where
  excerpt : Excerpt
  hasDeeper : Bool

/-- A node cut at a depth, which counts as 1 if it is 0. -/
def cut (forest : Forest) (node : CallNode) (depth : Nat) : Cut :=
  let below := depth - 1
  let (body, cutting) := (forest.cutBody below node).run ⟨[], false⟩
  ⟨⟨node.call, node.context, below + 1, body⟩, cutting.deeper⟩

/-- The first of some increasing depths at which the cut fulfils a query. -/
def shallowestFrom (forest : Forest) (node : CallNode) (query : Query) :
    Nat → Nat → ExcerptItem.Memo → Option Excerpt
  | 0, _, _ => none
  | depths + 1, depth, memo =>
      let cut := forest.cut node depth
      let (summary, memo) := cut.excerpt.summarize.run memo
      if query.isFulfilledBy summary then some cut.excerpt
      else if cut.hasDeeper then forest.shallowestFrom node query depths (depth + 1) memo
      else none

/-- The shallowest cut of a node that fulfils a query, no deeper than allowed.  A cut as deep
as there are nodes leaves nothing out. -/
def shallowestCut? (forest : Forest) (node : CallNode) (query : Query) (maxDepth : Option Nat) :
    Option Excerpt :=
  forest.shallowestFrom node query (maxDepth.getD (forest.nodeCount + 1)) 1 []

end CallSearch.Forest
