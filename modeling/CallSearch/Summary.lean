/-
# CallSearch.Summary — what a call node may reach

The summary of a call node holds every method its body may call, at any depth, and
every string literal passed on the way.  The literals of the call itself belong to
its caller.
-/
import CallSearch.Forest
import CallSearch.Sorted
import CallSearch.Table

namespace CallSearch

set_option autoImplicit false

/-- Methods called and literals passed. -/
structure Summary where
  callees : SortedSet Signature
  literals : SortedSet String
deriving Inhabited

namespace Summary

instance : EmptyCollection Summary := ⟨⟨∅, ∅⟩⟩

/-- What either summary holds. -/
def union (a b : Summary) : Summary := ⟨a.callees ∪ b.callees, a.literals ∪ b.literals⟩

instance : Union Summary := ⟨union⟩

/-- What some calls show by themselves. -/
def ofCalls (calls : List Invocation) : Summary :=
  ⟨.ofList (calls.map Invocation.callee), .ofList (calls.flatMap Invocation.literals)⟩

/-- Whether one summary holds no more than another. -/
def subset (a b : Summary) : Bool := a.callees.subset b.callees && a.literals.subset b.literals

end Summary

/-- The summaries of call nodes by their key. -/
abbrev SummaryTable := Table NodeKey Summary

namespace Forest

/-- The summary of a node, stored when it is complete.  `around` holds the keys being
summarized around it; met again, they add nothing. -/
def summarizeNode (forest : Forest) :
    Nat → List NodeKey → CallNode → StateM SummaryTable Summary
  | depth, around, node => do
      let key := node.key
      match (← get).get? key with
      | some summary => return summary
      | none =>
          if around.contains key then return ∅
          match depth with
          | 0 => return ∅
          | depth + 1 =>
              let summary ← (forest.body node).leaves.foldlM
                (fun summary item =>
                  match item with
                  | .invoked call => pure (summary ∪ .ofCalls [call])
                  | .call child => do
                      let reached ← forest.summarizeNode depth (key :: around) child
                      pure (summary ∪ .ofCalls [child.call] ∪ reached))
                ∅
              modify (·.insert key summary)
              return summary

/-- The summaries of every node met on the way from the roots. -/
def summaries (forest : Forest) : SummaryTable :=
  let summarizeRoots : StateM SummaryTable Unit :=
    forest.roots.forM fun root => do
      let _ ← forest.summarizeNode (forest.nodeCount + 1) [] root
  (summarizeRoots.run ∅).2

end Forest

end CallSearch
