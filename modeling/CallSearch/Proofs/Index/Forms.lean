/-
# CallSearch.Proofs.Index.Forms — every form accounts for every match

All forms of a search start from the nodes that answer the query.  A node has a cut that
fulfils it unless the greatest depth is too small, one cut of each method is shown, and
pruning keeps what the query asks for.  So without a greatest depth the cuts are those of
the methods listed by signature, and the paths, with the cuts that have none, are as many;
more depth loses no method; and whatever is reported fulfils the query: `forms_account`.
-/
import CallSearch.Proofs.Excerpt.Paths
import CallSearch.Proofs.Excerpt.Prune
import CallSearch.Proofs.Index.Paths

namespace CallSearch

set_option autoImplicit false

namespace Index

variable {index : Index} {query : Query} {maxDepth : Option Nat}

/-! ## The methods of the cuts -/

/-- The cuts shown are those of the methods with a node that has one. -/
theorem map_callee_shownCuts : (index.shownCuts query maxDepth).map Excerpt.callee =
    sortUnique (((index.matching query).filter fun node =>
      (index.forest.shallowestCut? node query maxDepth).isSome).map CallNode.callee) := by
  rw [shownCuts, map_callee_firstOfCallee]
  congr 1
  induction index.matching query with
  | nil => rfl
  | cons node rest ih =>
      rw [List.filterMap_cons, List.filter_cons]
      cases shallowest : index.forest.shallowestCut? node query maxDepth with
      | none => exact ih
      | some cut =>
          have callee : cut.callee = node.callee := Forest.callee_of_shallowestCut? shallowest
          exact congrArg₂ List.cons callee ih

theorem hit?_treecut (cut : Excerpt) : hit? query .treecut cut =
    some ⟨cut.callee, [(cut.pruned query, cut.contribution query)]⟩ := rfl

/-- A search for cuts reports every cut shown. -/
theorem map_callee_treecut : (index.search query ⟨maxDepth, .treecut⟩).hits.map Hit.callee =
    (index.shownCuts query maxDepth).map Excerpt.callee := by
  rw [search_eq .treecut (by decide)]
  simp only [List.map_filterMap, hit?_treecut, Option.map_some, List.filterMap_eq_map']

/-- A search for cuts reports the methods with a node that has a cut. -/
theorem mem_callees_of_treecut_iff {callee : Signature} :
    callee ∈ (index.search query ⟨maxDepth, .treecut⟩).hits.map Hit.callee ↔
      ∃ node ∈ index.matching query, node.callee = callee ∧
        ∃ cut, index.forest.shallowestCut? node query maxDepth = some cut := by
  rw [map_callee_treecut, map_callee_shownCuts, mem_sortUnique, List.mem_map]
  simp only [List.mem_filter, Option.isSome_iff_exists, and_assoc]
  exact exists_congr fun node => and_congr_right fun _ => and_comm

/-! ## What is reported -/

/-- What is reported of a cut is what is left of it, or of one of its paths. -/
theorem exists_of_mem_excerpts {form : OutputForm} {cut : Excerpt} {hit : Hit}
    (isHit : hit? query form cut = some hit) {excerpt : Excerpt × Contribution}
    (mem : excerpt ∈ hit.excerpts) :
    ∃ shown, (shown = cut ∨ shown ∈ cut.paths query) ∧ excerpt.1 = shown.pruned query := by
  rw [hit?] at isHit
  simp only [Option.ite_none_left_eq_some, Option.some.injEq] at isHit
  obtain ⟨-, rfl⟩ := isHit
  obtain ⟨shown, listed, rfl⟩ := List.mem_map.1 mem
  refine ⟨shown, ?_, rfl⟩
  split at listed
  · exact Or.inr listed
  · exact Or.inl (List.mem_singleton.1 listed)

section Built

variable {source : Forest.Source} {arena : Forest.Arena}
  (expansion : Forest.Expansion source index.forest arena)
  (summaries : index.summaries = index.forest.summaries)

include expansion summaries

/-- A cut shown fulfils the query. -/
theorem isFulfilledBy_of_mem_shownCuts {shown : Excerpt}
    (mem : shown ∈ index.shownCuts query maxDepth) :
    query.isFulfilledBy shown.pathSummary = true := by
  obtain ⟨before, node, after, cut, found, -, shallowest, rfl⟩ := mem_shownCuts_iff.1 mem
  obtain ⟨reachable, -⟩ := exists_shallowestCut?_of_mem expansion summaries
    (found ▸ List.mem_append_right _ List.mem_cons_self : node ∈ index.matching query)
  obtain ⟨least, -, ⟨fulfilled, -⟩, rfl⟩ :=
    (Forest.shallowestCut?_eq_some_iff expansion.sharesBodies reachable).1 shallowest
  rw [Excerpt.pathSummary, Excerpt.calls_withoutContexts]
  exact fulfilled

/-- Whatever is reported fulfils the query. -/
theorem isFulfilledBy_of_mem_hits {form : OutputForm} {hit : Hit}
    (mem : hit ∈ (index.search query ⟨maxDepth, form⟩).hits) {excerpt : Excerpt × Contribution}
    (listed : excerpt ∈ hit.excerpts) : query.isFulfilledBy excerpt.1.pathSummary = true := by
  have fulfilled : ∀ {form : OutputForm},
      hit ∈ (index.shownCuts query maxDepth).filterMap (hit? query form) →
      query.isFulfilledBy excerpt.1.pathSummary = true := by
    intro form mem
    obtain ⟨cut, inside, isHit⟩ := List.mem_filterMap.1 mem
    obtain ⟨shown, isShown, same⟩ := exists_of_mem_excerpts isHit listed
    rw [same]
    refine Excerpt.isFulfilledBy_pruned ?_
    rcases isShown with rfl | isPath
    · exact isFulfilledBy_of_mem_shownCuts expansion summaries inside
    · exact Excerpt.isFulfilledBy_of_mem_paths isPath
  cases form with
  | signature =>
      obtain ⟨callee, -, rfl⟩ := List.mem_map.1 mem
      cases listed
  | treecut => exact fulfilled (search_eq .treecut (by decide) ▸ mem)
  | path => exact fulfilled (search_eq .path (by decide) ▸ mem)

/-- Without a greatest depth every node that is found has a cut. -/
theorem isSome_shallowestCut?_of_mem {node : CallNode} (mem : node ∈ index.matching query) :
    (index.forest.shallowestCut? node query none).isSome = true := by
  obtain ⟨-, least, shallowest⟩ := exists_shallowestCut?_of_mem expansion summaries mem
  rw [shallowest]
  rfl

/-- Without a greatest depth the cuts shown are those of the methods listed by signature. -/
theorem map_callee_shownCuts_none : (index.shownCuts query none).map Excerpt.callee =
    (index.search query ⟨maxDepth, .signature⟩).hits.map Hit.callee := by
  have all : ∀ node ∈ index.matching query,
      (index.forest.shallowestCut? node query none).isSome = true := fun _ =>
    isSome_shallowestCut?_of_mem expansion summaries
  rw [map_callee_shownCuts, List.filter_eq_self.2 all]
  change _ = ((sortUnique ((index.matching query).map CallNode.callee)).map fun callee =>
    (⟨callee, []⟩ : Hit)).map Hit.callee
  rw [List.map_map]
  exact (List.map_id _).symm

/-- More depth loses no method. -/
theorem mem_callees_of_treecut_mono {bound more : Nat} (le : bound ≤ more) {callee : Signature}
    (mem : callee ∈ (index.search query ⟨some bound, .treecut⟩).hits.map Hit.callee) :
    callee ∈ (index.search query ⟨some more, .treecut⟩).hits.map Hit.callee := by
  obtain ⟨node, found, callee, cut, shallowest⟩ := mem_callees_of_treecut_iff.1 mem
  obtain ⟨reachable, -⟩ := exists_shallowestCut?_of_mem expansion summaries found
  obtain ⟨least, within, least', rfl⟩ :=
    (Forest.shallowestCut?_eq_some_iff expansion.sharesBodies reachable).1 shallowest
  have less : least < bound := within bound rfl
  have shallowest' : index.forest.shallowestCut? node query (some more) =
      some (index.forest.unfolded least node) := by
    refine (Forest.shallowestCut?_eq_some_iff expansion.sharesBodies reachable).2
      ⟨least, ?_, least', rfl⟩
    rintro _ ⟨⟩
    omega
  exact mem_callees_of_treecut_iff.2 ⟨node, found, callee, _, shallowest'⟩

end Built

/-- In an index that was built, for every query:

* without a greatest depth no match is left out for want of depth, the methods of the cuts are those
  listed by signature, and as many cuts have a path or are counted as having none;
* a method with a cut within some depth has one within any greater depth;
* whatever is reported fulfils the whole query after pruning. -/
theorem forms_account {config : AnalysisConfig} {classes : ClassTable}
    {entryPoints : List Signature} {index : Index}
    (h : (build config classes entryPoints).result = .ok index) (query : Query) :
    (∀ form, (index.search query ⟨none, form⟩).beyondMaxDepth = 0) ∧
      (∀ maxDepth, (index.search query ⟨none, .treecut⟩).hits.map Hit.callee =
        (index.search query ⟨maxDepth, .signature⟩).hits.map Hit.callee) ∧
      (∀ maxDepth, (index.search query ⟨none, .path⟩).hits.length +
          (index.search query ⟨none, .path⟩).withoutPaths =
        (index.search query ⟨maxDepth, .signature⟩).hits.length) ∧
      (∀ bound more, bound ≤ more →
        ∀ callee ∈ (index.search query ⟨some bound, .treecut⟩).hits.map Hit.callee,
          callee ∈ (index.search query ⟨some more, .treecut⟩).hits.map Hit.callee) ∧
      ∀ maxDepth form, ∀ hit ∈ (index.search query ⟨maxDepth, form⟩).hits,
        ∀ excerpt ∈ hit.excerpts, query.isFulfilledBy excerpt.1.pathSummary = true := by
  obtain ⟨source, arena, expansion, summaries⟩ := exists_expansion_of_build h
  refine ⟨fun form => ?_, fun maxDepth => ?_, fun maxDepth => ?_,
    fun bound more le callee => mem_callees_of_treecut_mono expansion summaries le,
    fun maxDepth form hit mem excerpt => isFulfilledBy_of_mem_hits expansion summaries mem⟩
  · have none : ((index.matching query).countP fun node =>
        (index.forest.shallowestCut? node query none).isNone) = 0 := by
      refine List.countP_eq_zero.2 fun node mem isNone => ?_
      rw [← Option.not_isSome, isSome_shallowestCut?_of_mem expansion summaries mem] at isNone
      cases isNone
    cases form with
    | signature => rfl
    | treecut => rw [search_eq _ (by decide), none]
    | path => rw [search_eq _ (by decide), none]
  · rw [map_callee_treecut, map_callee_shownCuts_none expansion summaries]
  · have same : ((index.shownCuts query none).map Excerpt.callee).length =
        ((index.search query ⟨maxDepth, .signature⟩).hits.map Hit.callee).length :=
      congrArg List.length (map_callee_shownCuts_none expansion summaries)
    rw [length_paths]
    rwa [List.length_map, List.length_map] at same

/-- The node that gets on one side and puts on the other has a cut and no path: it is a hit of one
form and counted by the other. -/
theorem forms_account_sampleEither :
    ∃ index query, (build {} sampleEither [sampleMethod "run"]).result = .ok index ∧
      Query.compile false ["m.g", "m.p"] = .ok query ∧
      (index.search query ⟨none, .treecut⟩).hits.map Hit.callee = [sampleMethod "one"] ∧
      (index.search query ⟨none, .path⟩).hits = [] ∧
      (index.search query ⟨none, .path⟩).withoutPaths = 1 := by
  obtain ⟨query, compiled, noHits, found, -⟩ := search_sampleEither
  obtain ⟨-, callees, count, -⟩ := forms_account build_sampleEither query
  have listed : (sampleEitherIndex.search query ⟨none, .signature⟩).hits =
      [⟨sampleMethod "one", []⟩] := by
    change (sortUnique ((sampleEitherIndex.matching query).map CallNode.callee)).map
      (fun callee => (⟨callee, []⟩ : Hit)) = _
    rw [found, List.map_singleton, sortUnique_eq_self (List.pairwise_singleton _ _)]
    rfl
  refine ⟨_, query, build_sampleEither, compiled, ?_, noHits, ?_⟩
  · rw [callees none, listed]
    rfl
  · have total := count none
    rwa [noHits, listed, List.length_nil, Nat.zero_add] at total

end Index

end CallSearch
