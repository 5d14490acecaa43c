/-
# CallSearch.Excerpt.Prune — the part of an excerpt that answers a query

A call contributes to a query when one of its types, its method or one of its
literals matches a word.  Pruning drops every call that does not contribute and has
nothing left below it; a call that contributes by itself alone is left without its
body.  The root always stays.

What contributes is recorded on the way: `Contribution` tells what matched, in the
root and in everything below it.  A type or a method name recorded before is not
matched again, and of a body met before the outcome is used again.
-/
import CallSearch.Excerpt
import CallSearch.Query
import CallSearch.Tree.Normal

namespace CallSearch

set_option autoImplicit false

namespace SortedSet

variable {α : Type} [Ord α] [Std.TransOrd α]

/-- Add an item that is accepted, given the set as it is, and note that there was one. -/
def addIf (accepts : SortedSet α → α → Bool) (state : Bool × SortedSet α) (item : α) :
    Bool × SortedSet α :=
  if accepts state.2 item then (true, state.2.insert item) else state

/-- Add the items that are accepted, each given the set as it is when its turn comes, and tell
whether there are any. -/
def addAccepted (accepts : SortedSet α → α → Bool) (set : SortedSet α) (items : List α) :
    Bool × SortedSet α :=
  items.foldl (addIf accepts) (false, set)

end SortedSet

/-- What matched a query. -/
structure Contribution where
  types : SortedSet String
  methodNames : SortedSet String
  literals : SortedSet String
  /-- The methods that matched field by field, and not by their name alone. -/
  callees : SortedSet Signature
deriving Inhabited

namespace Contribution

instance : EmptyCollection Contribution := ⟨⟨∅, ∅, ∅, ∅⟩⟩

/-- Record the types of a method that match, and whether there are any. -/
def recordTypes (query : Query) (callee : Signature) : StateM Contribution Bool := fun noted =>
  let result := noted.types.addAccepted
    (fun types type => types.contains type || query.matchesType type) callee.types
  (result.1, { noted with types := result.2 })

/-- Record a method that matches, by its name if that matches by itself, and whether it does. -/
def recordMethod (query : Query) (callee : Signature) : StateM Contribution Bool := fun noted =>
  if noted.methodNames.contains callee.name then (true, noted)
  else if query.matchesMethod callee then
    if query.matchesMethodName callee.name then
      (true, { noted with methodNames := noted.methodNames.insert callee.name })
    else (true, { noted with callees := noted.callees.insert callee })
  else (false, noted)

/-- Record the literals that match, and whether there are any. -/
def recordLiterals (query : Query) (literals : List String) : StateM Contribution Bool := fun noted =>
  let result := noted.literals.addAccepted (fun _ => query.matchesLiteral) literals
  (result.1, { noted with literals := result.2 })

/-- Record what a call contributes to a query, and whether it contributes anything. -/
def record (query : Query) (call : Invocation) : StateM Contribution Bool := do
  let byType ← recordTypes query call.callee
  let byMethod ← recordMethod query call.callee
  let byLiteral ← recordLiterals query call.literals
  return byType || byMethod || byLiteral

end Contribution

/-- What was found while pruning: what contributed, and of the bodies met, newest first, what is
left of them. -/
structure Pruning where
  contribution : Contribution
  bodies : List (Tree ExcerptItem × Option (Tree ExcerptItem))

namespace ExcerptItem

/-- Record what a call contributes while pruning. -/
def record (query : Query) (site : Invocation) : StateM Pruning Bool := do
  let pruning ← get
  let (contributes, contribution) := (Contribution.record query site).run pruning.contribution
  set { pruning with contribution }
  return contributes

/-- What was left of a body met before, or the canonical form of what pruning it leaves. -/
def pruneBody (body : Tree ExcerptItem) (prune : StateM Pruning (Option (Tree ExcerptItem))) :
    StateM Pruning (Option (Tree ExcerptItem)) := do
  match (← get).bodies.find? fun entry => orderTree entry.1 body == .eq with
  | some entry => return entry.2
  | none =>
      let kept := (← prune).map Tree.normalize
      modify fun pruning => { pruning with bodies := (body, kept) :: pruning.bodies }
      return kept

/-- A tree of the trees kept, if there are any. -/
def keep? (build : List (Tree ExcerptItem) → Tree ExcerptItem) (kept : List (Tree ExcerptItem)) :
    Option (Tree ExcerptItem) :=
  if kept.isEmpty then none else some (build kept)

mutual

/-- What is left of an item. -/
def prune (query : Query) : ExcerptItem → StateM Pruning (Option ExcerptItem)
  | .invoked site => do
      let contributes ← record query site
      return if contributes then some (.invoked site) else none
  | .call site context depth body => do
      let contributes ← record query site
      match ← pruneBody body (pruneTree query body) with
      | some body => return some (.call site context depth body)
      | none => return if contributes then some (.invoked site) else none

/-- What is left of a tree, before it is brought into normal form. -/
def pruneTree (query : Query) : Tree ExcerptItem → StateM Pruning (Option (Tree ExcerptItem))
  | .leaf item => return (← item.prune query).map .leaf
  | .seq parts => return keep? .seq (← pruneTrees query parts)
  | .alt parts => return keep? .alt (← pruneTrees query parts)

/-- What is left of some trees. -/
def pruneTrees (query : Query) :
    List (Tree ExcerptItem) → StateM Pruning (List (Tree ExcerptItem))
  | [] => return []
  | part :: rest => do
      let first ← pruneTree query part
      let others ← pruneTrees query rest
      return first.toList ++ others

end

end ExcerptItem

namespace Excerpt

/-- The part of an excerpt that contributes to a query, and what it contributes, its outermost
call included. -/
def prune (query : Query) (excerpt : Excerpt) : Excerpt × Contribution :=
  let pruning : StateM Pruning (Option (Tree ExcerptItem)) := do
    let _ ← ExcerptItem.record query excerpt.call
    ExcerptItem.pruneBody excerpt.body (ExcerptItem.pruneTree query excerpt.body)
  let (body, found) := pruning.run ⟨∅, []⟩
  ({ excerpt with body := body.getD .empty }, found.contribution)

/-- The part of an excerpt that contributes to a query. -/
def pruned (query : Query) (excerpt : Excerpt) : Excerpt := (excerpt.prune query).1

/-- What an excerpt contributes to a query. -/
def contribution (query : Query) (excerpt : Excerpt) : Contribution := (excerpt.prune query).2

end Excerpt

end CallSearch
