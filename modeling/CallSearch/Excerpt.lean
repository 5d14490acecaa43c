/-
# CallSearch.Excerpt — parts of call trees by themselves

An excerpt is a call node with its body written out down to some depth.  Calls that
are not expanded, or that lie beyond the depth, stand there as `invoked` items.

The summary of an excerpt holds the calls inside it and nothing that lies beyond.
It is computed with a memo over callee, context and depth, which in excerpts of one
forest determine the body; `Excerpt.pathSummary` computes it from the calls alone.
-/
import CallSearch.Summary

namespace CallSearch

set_option autoImplicit false

/-- An item of the body of an excerpt. -/
inductive ExcerptItem where
  /-- A call whose callee is not shown. -/
  | invoked (call : Invocation)
  /-- A call with its context, the levels of calls kept and the body of its callee. -/
  | call (site : Invocation) (context : Option Signature) (depth : Nat) (body : Tree ExcerptItem)
deriving Inhabited

/-- A call node with its body down to some depth. -/
structure Excerpt where
  call : Invocation
  /-- The recursive method the call is expanded under. -/
  context : Option Signature
  /-- The levels of calls kept, the node itself included. -/
  depth : Nat
  body : Tree ExcerptItem
deriving Inhabited

namespace ExcerptItem

/-! ## Order -/

mutual

/-- Calls whose callee is not shown come first; the others compare by call, context, depth
and body. -/
def order : ExcerptItem → ExcerptItem → Ordering
  | .invoked a, .invoked b => compare a b
  | .invoked _, .call .. => .lt
  | .call .., .invoked _ => .gt
  | .call site context depth body, .call site' context' depth' body' =>
      (compare site site').then ((compare context context').then
        ((compare depth depth').then (orderTree body body')))

/-- The order of trees of items. -/
def orderTree : Tree ExcerptItem → Tree ExcerptItem → Ordering
  | .leaf a, .leaf b => order a b
  | .leaf _, .seq _ => .lt
  | .leaf _, .alt _ => .lt
  | .seq _, .leaf _ => .gt
  | .seq as, .seq bs => orderTrees as bs
  | .seq _, .alt _ => .lt
  | .alt _, .leaf _ => .gt
  | .alt _, .seq _ => .gt
  | .alt as, .alt bs => orderTrees as bs

/-- The order of lists of trees of items. -/
def orderTrees : List (Tree ExcerptItem) → List (Tree ExcerptItem) → Ordering
  | [], [] => .eq
  | [], _ :: _ => .lt
  | _ :: _, [] => .gt
  | a :: as, b :: bs => (orderTree a b).then (orderTrees as bs)

end

instance : Ord ExcerptItem := ⟨order⟩

/-! ## Calls -/

mutual

/-- The call of an item and all calls below it, from left to right. -/
def calls : ExcerptItem → List Invocation
  | .invoked site => [site]
  | .call site _ _ body => site :: callsOfTree body

/-- The calls of a tree of items. -/
def callsOfTree : Tree ExcerptItem → List Invocation
  | .leaf item => item.calls
  | .seq parts => callsOfTrees parts
  | .alt parts => callsOfTrees parts

/-- The calls of trees of items. -/
def callsOfTrees : List (Tree ExcerptItem) → List Invocation
  | [] => []
  | part :: rest => callsOfTree part ++ callsOfTrees rest

end

/-! ## Summaries -/

/-- The summaries found so far, by callee, context and depth. -/
abbrev Memo := List ((NodeKey × Nat) × Summary)

/-- Use the summary found before, or find it and keep it. -/
def remember (key : NodeKey × Nat) (find : StateM Memo Summary) : StateM Memo Summary := do
  match (← get).lookup key with
  | some summary => return summary
  | none =>
      let summary ← find
      modify ((key, summary) :: ·)
      return summary

mutual

/-- What an item shows: its call and what is below it. -/
def summarize : ExcerptItem → StateM Memo Summary
  | .invoked site => return .ofCalls [site]
  | .call site context depth body => do
      let below ← remember (⟨site.callee, context⟩, depth) (summarizeTree body)
      return .ofCalls [site] ∪ below

/-- What the items of a tree show. -/
def summarizeTree : Tree ExcerptItem → StateM Memo Summary
  | .leaf item => item.summarize
  | .seq parts => summarizeTrees parts
  | .alt parts => summarizeTrees parts

/-- What the items of some trees show. -/
def summarizeTrees : List (Tree ExcerptItem) → StateM Memo Summary
  | [] => return ∅
  | part :: rest => do
      let first ← summarizeTree part
      let others ← summarizeTrees rest
      return first ∪ others

end

/-! ## Contexts -/

mutual

/-- The same item without contexts, here and below. -/
def withoutContexts : ExcerptItem → ExcerptItem
  | .invoked site => .invoked site
  | .call site _ depth body => .call site none depth (treeWithoutContexts body)

/-- The same tree without contexts. -/
def treeWithoutContexts : Tree ExcerptItem → Tree ExcerptItem
  | .leaf item => .leaf item.withoutContexts
  | .seq parts => .seq (treesWithoutContexts parts)
  | .alt parts => .alt (treesWithoutContexts parts)

/-- The same trees without contexts. -/
def treesWithoutContexts : List (Tree ExcerptItem) → List (Tree ExcerptItem)
  | [] => []
  | part :: rest => treeWithoutContexts part :: treesWithoutContexts rest

end

end ExcerptItem

namespace Excerpt

/-- The method the call lands on. -/
def callee (excerpt : Excerpt) : Signature := excerpt.call.callee

/-- Callee and context. -/
def key (excerpt : Excerpt) : NodeKey := ⟨excerpt.callee, excerpt.context⟩

/-- The excerpt as an item. -/
def toItem (excerpt : Excerpt) : ExcerptItem :=
  .call excerpt.call excerpt.context excerpt.depth excerpt.body

/-- The calls below the root. -/
def calls (excerpt : Excerpt) : List Invocation := ExcerptItem.callsOfTree excerpt.body

/-- What is inside the excerpt, using and keeping the summaries of its nodes. -/
def summarize (excerpt : Excerpt) : StateM ExcerptItem.Memo Summary :=
  ExcerptItem.remember (excerpt.key, excerpt.depth) (ExcerptItem.summarizeTree excerpt.body)

/-- What is inside the excerpt. -/
def summary (excerpt : Excerpt) : Summary := (excerpt.summarize.run []).1

/-- What is inside the excerpt, call by call.  Nodes of one callee, context and depth may
differ, as they do in paths. -/
def pathSummary (excerpt : Excerpt) : Summary := .ofCalls excerpt.calls

/-- The same excerpt without contexts. -/
def withoutContexts (excerpt : Excerpt) : Excerpt :=
  { excerpt with context := none, body := ExcerptItem.treeWithoutContexts excerpt.body }

/-- The same excerpt without the place of its outermost call, which is that of whatever caller
the node was found under. -/
def withoutCaller (excerpt : Excerpt) : Excerpt :=
  { excerpt with call := excerpt.call.withoutLocator }

end Excerpt

end CallSearch
