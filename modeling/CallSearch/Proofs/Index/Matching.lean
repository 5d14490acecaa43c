/-
# CallSearch.Proofs.Index.Matching — the nodes that answer a query

In an index that was built a node shows all that the nodes in its body show, so its
summary fulfils whatever theirs do.  Hence the search for the nodes that answer a query
is exact: it finds the lowest nodes whose summary fulfils it, each key once
(`matching_exact`), and their methods in increasing order are what a search by signature
lists.
-/
import CallSearch.Proofs.Forest.Lowest
import CallSearch.Proofs.Index.Sharing
import CallSearch.Proofs.Query
import CallSearch.Search

namespace CallSearch

set_option autoImplicit false

open Relation

namespace Forest

/-- A node shows what the nodes in its body show. -/
theorem Expansion.shows_of_child {source : Source} {forest : Forest} {arena : Arena}
    (expansion : Expansion source forest arena) {parent child : CallNode}
    (reachable : forest.Reachable parent) (mem : child ∈ forest.children parent)
    {call : Invocation} (shows : arena.Shows child.key call) : arena.Shows parent.key call := by
  have has := expansion.hasBody (expansion.number reachable.mem_nodes)
  obtain ⟨item, listed, node⟩ := List.mem_filterMap.1 mem
  cases item with
  | invoked call => cases node
  | call other =>
      cases node
      exact (Arena.shows_iff has).2 ⟨_, listed, Or.inr ⟨child, rfl, shows⟩⟩

end Forest

namespace Index

variable {config : AnalysisConfig} {classes : ClassTable} {entryPoints : List Signature}
  {index : Index}

/-- The call trees of an index that was built are an expansion, and its summaries are theirs. -/
theorem exists_expansion_of_build (h : (build config classes entryPoints).result = .ok index) :
    ∃ source arena, Forest.Expansion source index.forest arena ∧
      index.summaries = index.forest.summaries := by
  obtain ⟨trees, found, h⟩ := Logged.result_bind.1 h
  obtain ⟨forest, built, h⟩ := Logged.result_bind.1 h
  obtain ⟨-, -, h⟩ := Logged.result_bind.1 h
  obtain rfl := Logged.result_pure.1 h
  obtain ⟨recursive, arena, expansion⟩ :=
    Forest.exists_expansion (MethodTrees.feasible_ofClasses found) built
  exact ⟨_, arena, expansion, rfl⟩

section Fulfils

variable {source : Forest.Source} {arena : Forest.Arena}
  (expansion : Forest.Expansion source index.forest arena)
  (summaries : index.summaries = index.forest.summaries) (query : Query)

include expansion summaries

/-- A reachable node fulfils a query if the calls it shows do. -/
theorem fulfils_iff {node : CallNode} (reachable : index.forest.Reachable node) :
    index.fulfils query node = true ↔
      ∀ pattern ∈ query.patterns, ∃ call, arena.Shows node.key call ∧
        pattern.matchesCall call = true := by
  obtain ⟨summary, found, holds⟩ := expansion.exists_summary reachable.mem_nodes
  rw [fulfils, summaries, found, Option.any_some, query.isFulfilledBy_iff holds]

theorem fulfils_of_child (parent child : CallNode) (reachable : index.forest.Reachable parent)
    (mem : child ∈ index.forest.children parent) (fulfilled : index.fulfils query child = true) :
    index.fulfils query parent = true := by
  rw [fulfils_iff expansion summaries query (reachable.child mem)] at fulfilled
  rw [fulfils_iff expansion summaries query reachable]
  intro pattern listed
  obtain ⟨call, shown, matched⟩ := fulfilled pattern listed
  exact ⟨call, expansion.shows_of_child reachable mem shown, matched⟩

/-- Below a node that fulfils a query, or at the node itself, there is a lowest one that does. -/
theorem exists_lowest {node : CallNode} (reachable : index.forest.Reachable node)
    (fulfilled : index.fulfils query node = true) :
    ∃ lowest, index.forest.IsLowest (index.fulfils query) lowest ∧
      ReflTransGen index.forest.Child node lowest := by
  induction number : node.body using Nat.strong_induction_on generalizing node with
  | h number ih =>
      cases below : index.forest.passing (index.fulfils query) node with
      | nil =>
          exact ⟨node, (Forest.isLowest_iff (fulfils_of_child expansion summaries query)).2
            ⟨reachable, fulfilled, below⟩, .refl⟩
      | cons child rest =>
          obtain ⟨mem, passed⟩ := Forest.mem_passing.1 (below ▸ List.mem_cons_self)
          obtain ⟨lowest, isLowest, path⟩ := ih child.body
            (number ▸ expansion.body_lt reachable mem) (reachable.child mem) passed rfl
          exact ⟨lowest, isLowest, .head mem path⟩

end Fulfils

/-- The nodes found for a query are the reachable nodes that fulfil it while no node below them
does, each key once, and a search by signature lists exactly their methods, in increasing
order. -/
theorem matching_exact (h : (build config classes entryPoints).result = .ok index)
    (query : Query) (maxDepth : Option Nat) :
    ((index.matching query).map CallNode.key).Nodup ∧
      (∀ node ∈ index.matching query, index.forest.IsLowest (index.fulfils query) node) ∧
      (∀ node, index.forest.IsLowest (index.fulfils query) node →
        ∃ found ∈ index.matching query, found.key = node.key) ∧
      let outcome := index.search query ⟨maxDepth, .signature⟩
      (outcome.hits.map Hit.callee).Pairwise (fun a b => compare a b = .lt) ∧
        (∀ callee, callee ∈ outcome.hits.map Hit.callee ↔
          ∃ node, index.forest.IsLowest (index.fulfils query) node ∧ node.callee = callee) ∧
        (∀ hit ∈ outcome.hits, hit.excerpts.isEmpty = true) ∧
        outcome.beyondMaxDepth = 0 ∧ outcome.withoutPaths = 0 := by
  obtain ⟨source, arena, expansion, summaries⟩ := exists_expansion_of_build h
  obtain ⟨distinct, sound, complete⟩ := Forest.lowest_exact
    (fulfils_of_child expansion summaries query) expansion.sharesBodies
  have complete' : ∀ node, index.forest.IsLowest (index.fulfils query) node →
      ∃ found ∈ index.matching query, found.key = node.key := fun node lowest =>
    List.mem_map.1 (complete node lowest)
  have listed : (index.search query ⟨maxDepth, .signature⟩).hits.map Hit.callee =
      sortUnique ((index.matching query).map CallNode.callee) := by
    simp [search, Function.comp_def]
  refine ⟨distinct, sound, complete', ?_, fun callee => ?_, fun hit mem => ?_, rfl, rfl⟩
  · rw [listed]
    exact sortUnique_pairwise _
  · rw [listed, mem_sortUnique, List.mem_map]
    constructor
    · rintro ⟨node, mem, rfl⟩
      exact ⟨node, sound node mem, rfl⟩
    · rintro ⟨node, lowest, rfl⟩
      obtain ⟨found, mem, same⟩ := complete' node lowest
      exact ⟨found, mem, congrArg NodeKey.callee same⟩
  · obtain ⟨callee, -, rfl⟩ := List.mem_map.1 mem
    rfl

/-- A method and another that calls it. -/
def sampleLogging : ClassTable :=
  .ofList [sampleClass [sampleDefinition "main" [.invoke (sampleSite "log" [])],
    sampleDefinition "log" []]]

/-- The method that calls the one searched for is found, though both are entered. -/
theorem matching_sampleLogging :
    ∃ index query, (build {} sampleLogging [sampleMethod "log", sampleMethod "main"]).result =
      .ok index ∧ Query.compile false ["m.log"] = .ok query ∧
      (∃ node, index.forest.IsLowest (index.fulfils query) node ∧
        node.callee = sampleMethod "main") ∧
      (index.search query ⟨none, .signature⟩).hits.map Hit.callee = [sampleMethod "main"] := by
  obtain ⟨index, built, searched⟩ := Logged.exists_ok_of_map (show
    (build {} sampleLogging [sampleMethod "log", sampleMethod "main"]).result.toOption.map
      (fun index => (Query.compile false ["m.log"]).toOption.map fun query =>
        (index.search query ⟨none, .signature⟩).hits.map Hit.callee) =
      some (some [sampleMethod "main"]) by cbv)
  obtain ⟨query, compiled, listed⟩ := Logged.exists_ok_of_map searched
  obtain ⟨-, -, -, -, exact, -⟩ := matching_exact built query none
  refine ⟨index, query, built, compiled, (exact (sampleMethod "main")).1 ?_, listed⟩
  rw [listed]
  exact List.mem_singleton_self _

end Index

end CallSearch
