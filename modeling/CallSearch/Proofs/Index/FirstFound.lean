/-
# CallSearch.Proofs.Index.FirstFound — nodes of one method in several contexts

A node within a recursion leaves calls unexpanded that a node of the same method in another
context expands, so their shallowest cuts may differ.  A search shows the cut of the node
that was found first, and of the others nothing.  A method with a cut that has a path may so
be without a hit, but only where a cut of another of its nodes came first and has none:
`path_hits_exact`.
-/
import CallSearch.Proofs.Index.Paths
import CallSearch.Proofs.Index.Sharing

namespace CallSearch

set_option autoImplicit false

namespace Index

/-- Keys that are distinct are so on either side of a node. -/
theorem context_ne_of_nodup {before after : List CallNode} {first node : CallNode}
    (distinct : ((before ++ first :: after).map CallNode.key).Nodup) (mem : node ∈ after)
    (same : first.callee = node.callee) : first.context ≠ node.context := by
  intro context
  have keys : first.key = node.key := congrArg₂ NodeKey.mk same context
  rw [List.map_append, List.map_cons] at distinct
  have apart := (List.nodup_cons.1 (List.nodup_append.1 distinct).2.1).1
  exact apart (keys ▸ List.mem_map_of_mem mem)

/-- If a node has a cut, some node of its method is the first that has one. -/
theorem exists_first_cut {index : Index} {query : Query} {maxDepth : Option Nat} {node : CallNode}
    {cut : Excerpt} (mem : node ∈ index.matching query)
    (shallowest : index.forest.shallowestCut? node query maxDepth = some cut) :
    ∃ before first after cut', index.matching query = before ++ first :: after ∧
      first.callee = node.callee ∧
      (∀ other ∈ before, other.callee = node.callee →
        index.forest.shallowestCut? other query maxDepth = none) ∧
      index.forest.shallowestCut? first query maxDepth = some cut' := by
  let decides (other : CallNode) : Bool := other.callee == node.callee &&
    (index.forest.shallowestCut? other query maxDepth).isSome
  have decides_iff : ∀ other, decides other = true ↔ other.callee = node.callee ∧
      ∃ cut, index.forest.shallowestCut? other query maxDepth = some cut := by
    intro other
    rw [Bool.and_eq_true, beq_iff_eq, Option.isSome_iff_exists]
  obtain ⟨first, found⟩ : ∃ first, (index.matching query).find? decides = some first :=
    Option.isSome_iff_exists.1
      (List.find?_isSome.2 ⟨node, mem, (decides_iff node).2 ⟨rfl, cut, shallowest⟩⟩)
  obtain ⟨decided, before, after, split, others⟩ := List.find?_eq_some_iff_append.1 found
  obtain ⟨same, cut', shallowest'⟩ := (decides_iff first).1 decided
  refine ⟨before, first, after, cut', split, same, fun other listed callee => ?_, shallowest'⟩
  refine Option.eq_none_iff_forall_ne_some.2 fun cut isCut => ?_
  have undecided : ¬decides other = true := by simpa using others other listed
  exact undecided ((decides_iff other).2 ⟨callee, cut, isCut⟩)

/-- A search for paths has a hit for a method if, of its nodes that are found, the first with a
cut no deeper than allowed has one with a path.  So a node with such a cut has a hit for its
method, unless another node of the method, in another context, is found before it and the first of
these with a cut has one without a path. -/
theorem path_hits_exact {config : AnalysisConfig} {classes : ClassTable}
    {entryPoints : List Signature} {index : Index}
    (h : (build config classes entryPoints).result = .ok index) (query : Query)
    (maxDepth : Option Nat) :
    (∀ callee, callee ∈ (index.search query ⟨maxDepth, .path⟩).hits.map Hit.callee ↔
        ∃ before node after cut, index.matching query = before ++ node :: after ∧
          node.callee = callee ∧
          (∀ other ∈ before, other.callee = callee →
            index.forest.shallowestCut? other query maxDepth = none) ∧
          index.forest.shallowestCut? node query maxDepth = some cut ∧ cut.paths query ≠ []) ∧
      ∀ node ∈ index.matching query, ∀ cut,
        index.forest.shallowestCut? node query maxDepth = some cut → cut.paths query ≠ [] →
        node.callee ∈ (index.search query ⟨maxDepth, .path⟩).hits.map Hit.callee ∨
          ∃ before first after cut', index.matching query = before ++ first :: after ∧
            node ∈ after ∧ first.callee = node.callee ∧ first.context ≠ node.context ∧
            (∀ other ∈ before, other.callee = node.callee →
              index.forest.shallowestCut? other query maxDepth = none) ∧
            index.forest.shallowestCut? first query maxDepth = some cut' ∧
            cut'.paths query = [] := by
  obtain ⟨source, arena, expansion, summaries⟩ := exists_expansion_of_build h
  obtain ⟨distinct, -⟩ := Forest.lowest_exact (fulfils_of_child expansion summaries query)
    expansion.sharesBodies
  refine ⟨fun callee => mem_callees_of_paths_iff, fun node mem cut shallowest paths => ?_⟩
  obtain ⟨before, first, after, cut', split, same, none, shallowest'⟩ :=
    exists_first_cut mem shallowest
  -- The first node of the method with a cut decides.
  by_cases noPath : cut'.paths query = []
  · have behind : node ∈ after := by
      rcases List.mem_append.1 (split ▸ mem) with early | late
      · have missing := none node early rfl
        rw [shallowest] at missing
        cases missing
      · refine (List.mem_cons.1 late).resolve_left ?_
        rintro rfl
        cases shallowest.symm.trans shallowest'
        exact paths noPath
    have apart : first.context ≠ node.context :=
      context_ne_of_nodup (by rw [← split]; exact distinct) behind same
    exact Or.inr ⟨before, first, after, cut', split, behind, same, apart, none, shallowest', noPath⟩
  · exact Or.inl (mem_callees_of_paths_iff.2
      ⟨before, first, after, cut', split, same, none, shallowest', noPath⟩)

/-! ### A path that is not shown -/

theorem search_sampleCrossing :
    ∃ query, Query.compile false ["m.x", "m.y"] = .ok query ∧
      (sampleCrossingIndex.search query ⟨none, .path⟩).hits = [] ∧
      sampleCrossingIndex.matching query = [sampleCrossingInner, sampleCrossingOuter] ∧
      ∃ cut, sampleCrossingForest.shallowestCut? sampleCrossingOuter query none = some cut ∧
        cut.paths query ≠ [] := by
  obtain ⟨query, compiled, searched⟩ := Logged.exists_ok_of_map (show
    (Query.compile false ["m.x", "m.y"]).toOption.map (fun query =>
      ((sampleCrossingIndex.search query ⟨none, .path⟩).hits.isEmpty,
        sampleCrossingIndex.matching query,
        (sampleCrossingForest.shallowestCut? sampleCrossingOuter query none).map fun cut =>
          (cut.paths query).isEmpty)) =
      some (true, [sampleCrossingInner, sampleCrossingOuter], some false) by cbv)
  obtain ⟨hits, found⟩ := Prod.mk.inj searched
  obtain ⟨found, paths⟩ := Prod.mk.inj found
  obtain ⟨cut, shallowest, some⟩ := Option.map_eq_some_iff.1 paths
  exact ⟨query, compiled, List.isEmpty_iff.1 hits, found, cut, shallowest,
    List.isEmpty_eq_false_iff.1 some⟩

/-- The node of `b` as an entry point has a path, and `b` has no hit, since its node below `a` is
found first. -/
theorem path_hits_sampleCrossing :
    ∃ index query, (build {} sampleCrossing [loneMethod "a", loneMethod "b"]).result = .ok index ∧
      Query.compile false ["m.x", "m.y"] = .ok query ∧
      sampleCrossingOuter ∈ index.matching query ∧
      ∃ before first after cut', index.matching query = before ++ first :: after ∧
        sampleCrossingOuter ∈ after ∧ first.callee = sampleCrossingOuter.callee ∧
        first.context ≠ sampleCrossingOuter.context ∧
        index.forest.shallowestCut? first query none = some cut' ∧ cut'.paths query = [] := by
  obtain ⟨query, compiled, noHits, found, cut, shallowest, paths⟩ := search_sampleCrossing
  have mem : sampleCrossingOuter ∈ sampleCrossingIndex.matching query :=
    found ▸ List.mem_cons_of_mem _ (List.mem_singleton_self _)
  obtain ⟨-, lost⟩ := path_hits_exact build_sampleCrossing query none
  rcases lost sampleCrossingOuter mem cut shallowest paths with hit | shadowed
  · rw [noHits] at hit
    cases hit
  · obtain ⟨before, first, after, cut', split, behind, same, apart, -, shallowest', noPath⟩ :=
      shadowed
    exact ⟨_, query, build_sampleCrossing, compiled, mem, before, first, after, cut', split, behind,
      same, apart, shallowest', noPath⟩

/-- A node that is found has a shallowest cut with a path, and its method has no hit. -/
theorem exists_path_without_hit :
    ∃ index query, (build {} sampleCrossing [loneMethod "a", loneMethod "b"]).result = .ok index ∧
      Query.compile false ["m.x", "m.y"] = .ok query ∧
      ∃ node ∈ index.matching query, ∃ cut,
        index.forest.shallowestCut? node query none = some cut ∧ cut.paths query ≠ [] ∧
        node.callee ∉ (index.search query ⟨none, .path⟩).hits.map Hit.callee := by
  obtain ⟨query, compiled, noHits, found, cut, shallowest, paths⟩ := search_sampleCrossing
  refine ⟨_, query, build_sampleCrossing, compiled, sampleCrossingOuter,
    found ▸ List.mem_cons_of_mem _ (List.mem_singleton_self _), cut, shallowest, paths, ?_⟩
  rw [noHits]
  exact List.not_mem_nil

end Index

end CallSearch
