/-
# CallSearch.Proofs.Index.Paths — when a search for paths reports nothing

A search for paths looks at the lowest nodes whose summary fulfils the query, at the first
of them for each method, and at the shallowest cut of each that fulfils the query.  What it
reports nothing about is therefore narrower than what can happen:

* a node above the lowest ones may combine the ways through several of them;
* more depth may show on one way what the shallowest cut shows on two;
* another context of the same method may leave other calls unexpanded.

Within these limits no way is missed: `no_ways_of_no_hits`.
-/
import CallSearch.Proofs.Excerpt.Ways
import CallSearch.Proofs.Index.Hits
import CallSearch.Proofs.Index.Matching
import CallSearch.Proofs.Index.Validate

namespace CallSearch

set_option autoImplicit false

open Relation

namespace Forest

/-! ## What is shown and what is written out -/

variable {forest : Forest}

/-- The calls on a way through the body of a node are shown at some depth. -/
theorem Way.exists_mem_callsWithin {items : List CallItem} {calls : List Invocation}
    (way : forest.Way items calls) {node : CallNode}
    (listed : ∀ item ∈ items, item ∈ (forest.body node).leaves) :
    ∀ call ∈ calls, ∃ below, call ∈ forest.callsWithin below node := by
  induction way generalizing node with
  | nil => simp
  | invoked _ ih =>
      obtain ⟨here, behind⟩ := List.forall_mem_cons.1 listed
      exact List.forall_mem_cons.2 ⟨⟨0, mem_callsWithin_zero.2 ⟨_, here, rfl⟩⟩, ih behind⟩
  | call inside _ _ ihInner ih =>
      obtain ⟨here, behind⟩ := List.forall_mem_cons.1 listed
      rw [List.cons_append]
      refine List.forall_mem_cons.2 ⟨⟨0, mem_callsWithin_zero.2 ⟨_, here, rfl⟩⟩, fun call mem => ?_⟩
      rcases List.mem_append.1 mem with mem | mem
      · obtain ⟨below, shown⟩ :=
          ihInner (fun _ there => Tree.mem_leaves_of_mem_language inside there) call mem
        exact ⟨below + 1, mem_callsWithin_succ.2 (Or.inr ⟨_, mem_children_of_leaf here, shown⟩)⟩
      · exact ih behind call mem

section Shows

variable {source : Source} {arena : Arena} (expansion : Expansion source forest arena)

include expansion

/-- A node shows the calls in its body. -/
theorem Expansion.shows_of_leaf {node : CallNode} (reachable : forest.Reachable node)
    {item : CallItem} (mem : item ∈ (forest.body node).leaves) :
    arena.Shows node.key item.invocation :=
  (Arena.shows_iff (expansion.hasBody (expansion.number reachable.mem_nodes))).2
    ⟨item, mem, Or.inl rfl⟩

/-- A node shows the calls that are written out at some depth. -/
theorem Expansion.shows_iff {node : CallNode} (reachable : forest.Reachable node)
    {call : Invocation} :
    arena.Shows node.key call ↔ ∃ below, call ∈ forest.callsWithin below node := by
  constructor
  · rintro ⟨other, body, item, path, has, mem, rfl⟩
    generalize same : node.key = key at path
    induction path using ReflTransGen.head_induction_on generalizing node with
    | refl =>
        subst same
        obtain rfl := has.unique (expansion.hasBody (expansion.number reachable.mem_nodes))
        exact ⟨0, mem_callsWithin_zero.2 ⟨item, mem, rfl⟩⟩
    | head link _ ih =>
        subst same
        obtain ⟨body', has', child, listed, rfl⟩ := link
        obtain rfl := has'.unique (expansion.hasBody (expansion.number reachable.mem_nodes))
        have inside := mem_children_of_leaf listed
        obtain ⟨below, shown⟩ := ih (reachable.child inside) rfl
        exact ⟨below + 1, mem_callsWithin_succ.2 (Or.inr ⟨child, inside, shown⟩)⟩
  · rintro ⟨below, mem⟩
    induction below generalizing node with
    | zero =>
        obtain ⟨item, listed, rfl⟩ := mem_callsWithin_zero.1 mem
        exact expansion.shows_of_leaf reachable listed
    | succ below ih =>
        rcases mem_callsWithin_succ.1 mem with ⟨item, listed, rfl⟩ | ⟨child, inside, mem⟩
        · exact expansion.shows_of_leaf reachable listed
        · exact expansion.shows_of_child reachable inside (ih (reachable.child inside) mem)

end Shows

end Forest

namespace Index

variable {config : AnalysisConfig} {classes : ClassTable} {entryPoints : List Signature}
  {index : Index}

section Fulfils

variable {source : Forest.Source} {arena : Forest.Arena}
  (expansion : Forest.Expansion source index.forest arena)
  (summaries : index.summaries = index.forest.summaries) {query : Query}

include expansion summaries

/-- The summary of a node fulfils a query if what is written out at some depth does. -/
theorem fulfils_iff_fulfilledWithin {node : CallNode} (reachable : index.forest.Reachable node) :
    index.fulfils query node = true ↔
      index.forest.FulfilledWithin query node index.forest.nodeCount := by
  rw [fulfils_iff expansion summaries query reachable, Forest.FulfilledWithin,
    query.isFulfilledBy_iff (Summary.of_calls _)]
  refine forall₂_congr fun pattern _ => exists_congr fun call => and_congr_left fun _ => ?_
  rw [expansion.shows_iff reachable]
  constructor
  · rintro ⟨below, mem⟩
    exact Forest.callsWithin_nodeCount reachable mem
  · exact fun mem => ⟨_, mem⟩

/-- A node with a way that fulfils a query fulfils it. -/
theorem fulfils_of_hasWay {node : CallNode} (reachable : index.forest.Reachable node)
    (way : index.forest.HasWay query node) : index.fulfils query node = true := by
  obtain ⟨items, inside, calls, way, fulfilled⟩ := way
  rw [fulfils_iff_fulfilledWithin expansion summaries reachable]
  refine query.isFulfilledBy_mono (Summary.of_calls calls) (Summary.of_calls _)
    (fun call mem => ?_) fulfilled
  obtain ⟨below, shown⟩ := way.exists_mem_callsWithin
    (fun _ here => Tree.mem_leaves_of_mem_language inside here) call mem
  exact Forest.callsWithin_nodeCount reachable shown

/-- Without a greatest depth every node that fulfils a query has a shallowest cut. -/
theorem exists_shallowestCut? {node : CallNode} (reachable : index.forest.Reachable node)
    (fulfilled : index.fulfils query node = true) :
    ∃ least, index.forest.ShallowestAt query node least ∧
      index.forest.shallowestCut? node query none =
        some (index.forest.unfolded least node) := by
  obtain ⟨least, -, shallowest⟩ := Forest.FulfilledWithin.exists_shallowestAt reachable
    ((fulfils_iff_fulfilledWithin expansion summaries reachable).1 fulfilled)
  exact ⟨least, shallowest, (Forest.shallowestCut?_eq_some_iff expansion.sharesBodies reachable).2
    ⟨least, by simp, shallowest, rfl⟩⟩

/-- At or below a node with a way that fulfils a query some node is found. -/
theorem exists_found_of_hasWay {node : CallNode} (reachable : index.forest.Reachable node)
    (way : index.forest.HasWay query node) :
    ∃ lowest, ReflTransGen index.forest.Child node lowest ∧
      ∃ found ∈ index.matching query, found.key = lowest.key := by
  obtain ⟨lowest, isLowest, path⟩ := exists_lowest expansion summaries query reachable
    (fulfils_of_hasWay expansion summaries reachable way)
  have complete := (Forest.lowest_exact (fulfils_of_child expansion summaries query)
    expansion.sharesBodies).2.2
  exact ⟨lowest, path, List.mem_map.1 (complete lowest isLowest)⟩

/-- Without a greatest depth every node that is found has a shallowest cut. -/
theorem exists_shallowestCut?_of_mem {node : CallNode} (mem : node ∈ index.matching query) :
    index.forest.Reachable node ∧ ∃ least, index.forest.shallowestCut? node query none =
      some (index.forest.unfolded least node) := by
  have lowest := (Forest.lowest_exact (fulfils_of_child expansion summaries query)
    expansion.sharesBodies).2.1 node mem
  obtain ⟨least, -, shallowest⟩ :=
    exists_shallowestCut? expansion summaries lowest.reachable lowest.passed
  exact ⟨lowest.reachable, least, shallowest⟩

end Fulfils

/-! ## What is reported -/

theorem paths_eq_nil_of_hit? {query : Query} {cut : Excerpt} (noHit : hit? query .path cut = none) :
    cut.paths query = [] := by
  rw [hit?] at noHit
  simpa using noHit

section Shown

variable {source : Forest.Source} {arena : Forest.Arena}
  (expansion : Forest.Expansion source index.forest arena)
  (summaries : index.summaries = index.forest.summaries) {query : Query}

include expansion summaries

/-- A search that finds a node looks at some cut. -/
theorem shownCuts_ne_nil {node : CallNode} (mem : node ∈ index.matching query) :
    index.shownCuts query none ≠ [] := by
  cases matching : index.matching query with
  | nil =>
      rw [matching] at mem
      cases mem
  | cons first rest =>
      obtain ⟨-, least, shallowest⟩ := exists_shallowestCut?_of_mem expansion summaries
        (matching ▸ List.mem_cons_self : first ∈ index.matching query)
      exact List.ne_nil_of_mem (mem_shownCuts
        (show _ = [] ++ first :: rest from matching) (by simp) shallowest)

end Shown

/-- If a search for paths without a greatest depth has no hit, then:

* if it left out no cut for want of a path, no reachable node has a way that fulfils the query;
* a reachable node with such a way has a node that was found below it, or was found itself;
* the shallowest cut of a node that was found, and found before all others of its method, has no
  way that fulfils the query, and neither has the node if the cut leaves no node out. -/
theorem no_ways_of_no_hits (h : (build config classes entryPoints).result = .ok index)
    (query : Query) (noHits : (index.search query ⟨none, .path⟩).hits = []) :
    ((index.search query ⟨none, .path⟩).withoutPaths = 0 →
        ∀ node, index.forest.Reachable node → ¬index.forest.HasWay query node) ∧
      (∀ node, index.forest.Reachable node → index.forest.HasWay query node →
        ∃ lowest, ReflTransGen index.forest.Child node lowest ∧
          ∃ found ∈ index.matching query, found.key = lowest.key) ∧
      ∀ before node after, index.matching query = before ++ node :: after →
        (∀ other ∈ before, other.callee ≠ node.callee) →
        ∃ depth, index.forest.shallowestCut? node query none =
            some (index.forest.cut node depth).excerpt ∧
          ¬(index.forest.cut node depth).excerpt.HasWay query ∧
          ((index.forest.cut node depth).hasDeeper = false → ¬index.forest.HasWay query node) := by
  obtain ⟨source, arena, expansion, summaries⟩ := exists_expansion_of_build h
  have shares := expansion.sharesBodies
  have noPaths : ∀ cut ∈ index.shownCuts query none, cut.paths query = [] := fun cut mem => by
    rw [search_eq _ (by decide)] at noHits
    exact paths_eq_nil_of_hit? (List.filterMap_eq_nil_iff.1 noHits cut mem)
  refine ⟨fun noCuts node reachable way => ?_,
    fun node reachable way => exists_found_of_hasWay expansion summaries reachable way,
    fun before node after found first => ?_⟩
  · obtain ⟨_, -, found, mem, -⟩ := exists_found_of_hasWay expansion summaries reachable way
    refine shownCuts_ne_nil expansion summaries mem (List.length_eq_zero_iff.1 ?_)
    rw [← length_paths, noHits, noCuts]
    rfl
  · obtain ⟨reachable, least, shallowest⟩ := exists_shallowestCut?_of_mem expansion summaries
      (found ▸ List.mem_append_right _ List.mem_cons_self : node ∈ index.matching query)
    have shown := mem_shownCuts found first shallowest
    have noWay : ¬(index.forest.unfolded least node).HasWay query := fun way =>
      Excerpt.paths_ne_nil way.shown (noPaths _ shown)
    refine ⟨least + 1, ?_, ?_, fun whole way => ?_⟩
    · rw [Forest.cut_excerpt shares reachable, shallowest]
    · rwa [Forest.cut_excerpt shares reachable]
    · rw [← Bool.not_eq_true, Forest.cut_hasDeeper_iff shares reachable] at whole
      exact noWay (way.unfolded whole)

/-! ### A way through two nodes -/

/-- A method that either gets or puts, and one that calls it, gets and puts. -/
def sampleEither : ClassTable :=
  .ofList [sampleClass
    [sampleDefinition "one" [.control (.condBranch "else" none), .invoke (sampleSite "get" []),
        .control (.ret none), .control (.label "else"), .invoke (sampleSite "put" [])],
      sampleDefinition "run" [.invoke (sampleSite "one" []), .invoke (sampleSite "get" []),
        .invoke (sampleSite "put" [])]]]

def sampleEitherTrees : MethodTrees :=
  .ofList [
    (sampleMethod "one", .alt [.leaf (sampleCallIn "one" "get" 0),
      .leaf (sampleCallIn "one" "put" 1)]),
    (sampleMethod "run", .seq [.leaf (sampleCallIn "run" "one" 0),
      .leaf (sampleCallIn "run" "get" 1), .leaf (sampleCallIn "run" "put" 2)])]

/-- The node of the method that either gets or puts. -/
def sampleEitherNode : CallNode := ⟨sampleCallIn "run" "one" 0, none, 0⟩

/-- The call tree of the method that calls it. -/
def sampleEitherForest : Forest where
  roots := [sampleNode "run" 1]
  bodies := [
    .alt [.leaf (.invoked (sampleCallIn "one" "get" 0)),
      .leaf (.invoked (sampleCallIn "one" "put" 1))],
    .seq [.leaf (.call sampleEitherNode), .leaf (.invoked (sampleCallIn "run" "get" 1)),
      .leaf (.invoked (sampleCallIn "run" "put" 2))]]

def sampleEitherIndex : Index where
  entryPoints := [sampleMethod "run"]
  forest := sampleEitherForest
  summaries := sampleEitherForest.summaries

/-- The calls on a way through the call tree that gets first. -/
def sampleEitherCalls : List Invocation :=
  [sampleCallIn "run" "one" 0, sampleCallIn "one" "get" 0, sampleCallIn "run" "get" 1,
    sampleCallIn "run" "put" 2]

set_option maxRecDepth 2000 in
theorem build_sampleEither :
    (build {} sampleEither [sampleMethod "run"]).result = .ok sampleEitherIndex := by
  have trees : (MethodTrees.ofClasses {} sampleEither).result = .ok sampleEitherTrees := by cbv
  have forest : (Forest.build {} sampleEitherTrees (.ofClasses sampleEither)
      [sampleMethod "run"]).result = .ok sampleEitherForest := by cbv
  exact Logged.result_bind.2 ⟨_, trees, Logged.result_bind.2 ⟨_, forest, rfl⟩⟩

/-- A search for getting and putting finds the node that does either, and shows no path. -/
theorem search_sampleEither :
    ∃ query, Query.compile false ["m.g", "m.p"] = .ok query ∧
      (sampleEitherIndex.search query ⟨none, .path⟩).hits = [] ∧
      sampleEitherIndex.matching query = [sampleEitherNode] ∧
      query.isFulfilledBy (.ofCalls sampleEitherCalls) = true := by
  obtain ⟨query, compiled, searched⟩ := Logged.exists_ok_of_map (show
    (Query.compile false ["m.g", "m.p"]).toOption.map (fun query =>
      ((sampleEitherIndex.search query ⟨none, .path⟩).hits.isEmpty,
        sampleEitherIndex.matching query, query.isFulfilledBy (.ofCalls sampleEitherCalls))) =
      some (true, [sampleEitherNode], true) by cbv)
  obtain ⟨hits, found⟩ := Prod.mk.inj searched
  obtain ⟨found, fulfilled⟩ := Prod.mk.inj found
  exact ⟨query, compiled, List.isEmpty_iff.1 hits, found, fulfilled⟩

/-- The node that either gets or puts has no way that does both. -/
theorem no_ways_sampleEither :
    ∃ index query, (build {} sampleEither [sampleMethod "run"]).result = .ok index ∧
      Query.compile false ["m.g", "m.p"] = .ok query ∧
      (index.search query ⟨none, .path⟩).hits = [] ∧
      index.matching query = [sampleEitherNode] ∧
      ∃ depth, ¬(index.forest.cut sampleEitherNode depth).excerpt.HasWay query := by
  obtain ⟨query, compiled, noHits, found, -⟩ := search_sampleEither
  obtain ⟨-, -, shown⟩ := no_ways_of_no_hits build_sampleEither query noHits
  obtain ⟨depth, -, noWay, -⟩ := shown [] sampleEitherNode [] found (by simp)
  exact ⟨_, query, build_sampleEither, compiled, noHits, found, depth, noWay⟩

/-- The node above it has a way that does both, though nothing is reported. -/
theorem hasWay_sampleEither :
    ∃ index query, (build {} sampleEither [sampleMethod "run"]).result = .ok index ∧
      Query.compile false ["m.g", "m.p"] = .ok query ∧
      (index.search query ⟨none, .path⟩).hits = [] ∧
      ∃ node, index.forest.Reachable node ∧ index.forest.HasWay query node := by
  obtain ⟨query, compiled, noHits, -, fulfilled⟩ := search_sampleEither
  refine ⟨_, query, build_sampleEither, compiled, noHits, sampleNode "run" 1,
    Forest.reachable_root List.mem_cons_self, [.call sampleEitherNode,
      .invoked (sampleCallIn "run" "get" 1), .invoked (sampleCallIn "run" "put" 2)], ?_,
    sampleEitherCalls, ?_, fulfilled⟩
  · have body : sampleEitherIndex.forest.body (sampleNode "run" 1) = .ofPath [_, _, _] := rfl
    rw [body, Tree.language_ofPath]
    exact Set.mem_singleton _
  · have inside : [.invoked (sampleCallIn "one" "get" 0)] ∈
        (sampleEitherIndex.forest.body sampleEitherNode).language := by
      have body : sampleEitherIndex.forest.body sampleEitherNode = .alt [_, _] := rfl
      rw [body, Tree.language_alt, Tree.mem_languageAlt]
      exact ⟨_, List.mem_cons_self, Set.mem_singleton _⟩
    exact .call inside (.invoked .nil) (.invoked (.invoked .nil))

end Index

end CallSearch
