/-
# CallSearch.Search — where a query is fulfilled

A call node answers a query when its summary fulfils the query and the summary of
no node below it does.  A search finds these nodes and shows them in one of three
forms: by their signature, as their shallowest cut that fulfils the query, or as
the paths through that cut that do.
-/
import CallSearch.Excerpt.Cut
import CallSearch.Excerpt.Paths
import CallSearch.Excerpt.Prune
import CallSearch.Index

namespace CallSearch

set_option autoImplicit false

/-- The form of the matches. -/
inductive OutputForm where
  /-- Signatures of the matching methods. -/
  | signature
  /-- The shallowest cut of each. -/
  | treecut
  /-- The paths through that cut. -/
  | path
deriving DecidableEq, Inhabited

/-- How to search. -/
structure SearchConfig where
  /-- The greatest depth of a cut. -/
  maxDepth : Option Nat := some 5
  form : OutputForm := .path
deriving Inhabited

/-- A method that matches, with its excerpts and what matched in each. -/
structure Hit where
  callee : Signature
  excerpts : List (Excerpt × Contribution)
deriving Inhabited

/-- The result of a search. -/
structure Outcome where
  hits : List Hit
  /-- The number of nodes without a cut within the greatest depth. -/
  beyondMaxDepth : Nat
  /-- The number of cuts without a path. -/
  withoutPaths : Nat
deriving Inhabited

namespace Forest

/-- The keys searched and the nodes found so far. -/
structure Descent where
  searched : List NodeKey
  found : List CallNode

/-- Find the lowest nodes that pass a test, from a node that passes it.  A node whose key was
searched before is left alone. -/
def descend (forest : Forest) (passes : CallNode → Bool) : Nat → CallNode → StateM Descent Unit
  | 0, _ => return ()
  | depth + 1, node => do
      if (← get).searched.contains node.key then return ()
      modify fun descent => { descent with searched := node.key :: descent.searched }
      let below := (forest.children node).filter passes
      below.forM (forest.descend passes depth)
      if below.isEmpty then
        modify fun descent => { descent with found := descent.found ++ [node] }

/-- The nodes that pass a test while none of their children does, in the order they are
found.  Only nodes that pass are searched below. -/
def lowest (forest : Forest) (passes : CallNode → Bool) : List CallNode :=
  let roots := forest.roots.filter passes
  ((roots.forM (forest.descend passes (forest.nodeCount + 1))).run ⟨[], []⟩).2.found

end Forest

namespace Index

/-- Whether the summary of a node fulfils a query. -/
def fulfils (index : Index) (query : Query) (node : CallNode) : Bool :=
  (index.summaries.get? node.key).any query.isFulfilledBy

/-- The nodes that answer a query. -/
def matching (index : Index) (query : Query) : List CallNode :=
  index.forest.lowest (index.fulfils query)

/-- Of several excerpts of one callee the first, in the order of callees. -/
def firstOfCallee (excerpts : List Excerpt) : List Excerpt :=
  (sortUnique (excerpts.map Excerpt.callee)).filterMap fun callee =>
    excerpts.find? fun excerpt => excerpt.callee == callee

/-- What a test gives for some items, and the number of those for which it gives nothing. -/
def collect {α β : Type} (test : α → Option β) : List α → List β × Nat
  | [] => ([], 0)
  | item :: items =>
      let (given, without) := collect test items
      match test item with
      | some result => (result :: given, without)
      | none => (given, without + 1)

/-- The hit of a cut in the form asked for, if it has one. -/
def hit? (query : Query) (form : OutputForm) (cut : Excerpt) : Option Hit :=
  let excerpts := if form = .path then cut.paths query else [cut]
  if excerpts.isEmpty then none
  else some ⟨cut.callee, excerpts.map fun excerpt =>
    (excerpt.pruned query, excerpt.contribution query)⟩

/-- Search for a query. -/
def search (index : Index) (query : Query) (config : SearchConfig) : Outcome :=
  let nodes := index.matching query
  match config.form with
  | .signature => ⟨(sortUnique (nodes.map CallNode.callee)).map fun callee => ⟨callee, []⟩, 0, 0⟩
  | form =>
      let (cuts, beyondMaxDepth) := collect
        (fun node => index.forest.shallowestCut? node query config.maxDepth) nodes
      let shown := firstOfCallee (cuts.map fun cut => cut.withoutCaller.withoutContexts)
      let (hits, withoutPaths) := collect (hit? query form) shown
      ⟨hits, beyondMaxDepth, withoutPaths⟩

end Index

end CallSearch
