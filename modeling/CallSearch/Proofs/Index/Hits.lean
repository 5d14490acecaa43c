/-
# CallSearch.Proofs.Index.Hits — one cut of each method

A search that shows more than signatures cuts every node it finds at its shallowest depth,
and keeps of the cuts of one method the first.  So what is shown of a method is the cut of
the first node of the method that has one within the greatest depth (`mem_shownCuts_iff`),
and a search for paths has a hit for the method if that cut has a path
(`mem_callees_of_paths_iff`).
-/
import CallSearch.Proofs.Excerpt.Contexts
import CallSearch.Search

namespace CallSearch

set_option autoImplicit false

namespace Forest

variable {forest : Forest} {node : CallNode} {query : Query}

theorem callee_of_shallowestFrom {depths depth : Nat} {memo : ExcerptItem.Memo} {cut : Excerpt}
    (found : forest.shallowestFrom node query depths depth memo = some cut) :
    cut.callee = node.callee := by
  induction depths generalizing depth memo with
  | zero => cases found
  | succ depths ih =>
      obtain ⟨summary, memo', run⟩ :
          ∃ summary memo', (forest.cut node depth).excerpt.summarize.run memo = (summary, memo') :=
        ⟨_, _, rfl⟩
      rw [shallowestFrom_succ run] at found
      split_ifs at found
      · cases found
        rfl
      · exact ih found

/-- A cut is one of the method of its node. -/
theorem callee_of_shallowestCut? {maxDepth : Option Nat} {cut : Excerpt}
    (found : forest.shallowestCut? node query maxDepth = some cut) : cut.callee = node.callee :=
  callee_of_shallowestFrom found

end Forest

namespace Index

/-! ## Results and what is without -/

section Collect

variable {α β : Type} {test test' : α → Option β} {items : List α}

theorem collect_eq (test : α → Option β) (items : List α) : collect test items =
    (items.filterMap test, items.countP fun item => (test item).isNone) := by
  induction items with
  | nil => rfl
  | cons item items ih =>
      rw [collect, ih]
      cases given : test item <;> simp [given]

theorem collect_congr (same : ∀ item ∈ items, test item = test' item) :
    collect test items = collect test' items := by
  rw [collect_eq, collect_eq, List.filterMap_congr same,
    List.countP_congr fun item mem => by rw [same item mem]]

/-- Every item is among those with a result or among those without. -/
theorem length_collect (test : α → Option β) (items : List α) :
    (collect test items).1.length + (collect test items).2 = items.length := by
  induction items with
  | nil => rfl
  | cons item items ih =>
      rw [collect, List.length_cons, ← ih]
      cases test item <;> simp only [List.length_cons] <;> omega

end Collect

/-! ## The first of each method -/

/-- The first excerpt of a method is kept, and no other. -/
theorem mem_firstOfCallee_iff {excerpts : List Excerpt} {excerpt : Excerpt} :
    excerpt ∈ firstOfCallee excerpts ↔ ∃ before after,
      excerpts = before ++ excerpt :: after ∧ ∀ other ∈ before, other.callee ≠ excerpt.callee := by
  rw [firstOfCallee, List.mem_filterMap]
  constructor
  · rintro ⟨callee, -, found⟩
    obtain ⟨same, before, after, split, others⟩ := List.find?_eq_some_iff_append.1 found
    obtain rfl : excerpt.callee = callee := eq_of_beq same
    exact ⟨before, after, split, fun other mem => by simpa using others other mem⟩
  · rintro ⟨before, after, rfl, others⟩
    refine ⟨excerpt.callee, mem_sortUnique.2 ?_, ?_⟩
    · exact List.mem_map_of_mem (List.mem_append_right _ List.mem_cons_self)
    · exact List.find?_eq_some_iff_append.2
        ⟨beq_self_eq_true _, before, after, rfl, fun other mem => by simpa using others other mem⟩

/-- One excerpt of each method is kept. -/
theorem map_callee_firstOfCallee (excerpts : List Excerpt) :
    (firstOfCallee excerpts).map Excerpt.callee = sortUnique (excerpts.map Excerpt.callee) := by
  rw [firstOfCallee, List.map_filterMap]
  have each : ∀ callee ∈ sortUnique (excerpts.map Excerpt.callee),
      (excerpts.find? fun excerpt => excerpt.callee == callee).map Excerpt.callee =
        some callee := by
    intro callee mem
    obtain ⟨excerpt, listed, rfl⟩ := List.mem_map.1 (mem_sortUnique.1 mem)
    cases found : excerpts.find? fun other => other.callee == excerpt.callee with
    | none => exact absurd (beq_self_eq_true _) (List.find?_eq_none.1 found excerpt listed)
    | some first => exact congrArg some (eq_of_beq (List.find?_some found :))
  rw [List.filterMap_congr each, List.filterMap_some]

/-! ## The cuts that are shown -/

variable {index : Index} {query : Query} {maxDepth : Option Nat}

/-- The cuts a search looks at. -/
def shownCuts (index : Index) (query : Query) (maxDepth : Option Nat) : List Excerpt :=
  firstOfCallee (((index.matching query).filterMap fun node =>
    index.forest.shallowestCut? node query maxDepth).map fun cut =>
      cut.withoutCaller.withoutContexts)

/-- What is shown of a method is the cut of the first node of the method that has one. -/
theorem mem_shownCuts_iff {shown : Excerpt} : shown ∈ index.shownCuts query maxDepth ↔
    ∃ before node after cut, index.matching query = before ++ node :: after ∧
      (∀ other ∈ before, other.callee = node.callee →
        index.forest.shallowestCut? other query maxDepth = none) ∧
      index.forest.shallowestCut? node query maxDepth = some cut ∧
      shown = cut.withoutCaller.withoutContexts := by
  rw [shownCuts, mem_firstOfCallee_iff, List.map_filterMap]
  constructor
  · rintro ⟨before, after, split, others⟩
    obtain ⟨first, rest, found, rfl, last⟩ := List.filterMap_eq_append_iff.1 split
    obtain ⟨skipped, node, after, rfl, none, isCut, -⟩ := List.filterMap_eq_cons_iff.1 last
    obtain ⟨cut, shallowest, rfl⟩ := Option.map_eq_some_iff.1 isCut
    refine ⟨first ++ skipped, node, after, cut, by rw [found, List.append_assoc],
      fun other mem same => ?_, shallowest, rfl⟩
    rcases List.mem_append.1 mem with early | late
    · refine Option.eq_none_iff_forall_ne_some.2 fun cut' shallowest' => ?_
      refine others cut'.withoutCaller.withoutContexts
        (List.mem_filterMap.2 ⟨other, early, Option.map_eq_some_iff.2 ⟨cut', shallowest', rfl⟩⟩) ?_
      have callee : cut.callee = node.callee := Forest.callee_of_shallowestCut? shallowest
      have callee' : cut'.callee = other.callee := Forest.callee_of_shallowestCut? shallowest'
      exact callee'.trans (same.trans callee.symm)
    · exact Option.map_eq_none_iff.1 (none other late)
  · rintro ⟨before, node, after, cut, found, first, shallowest, rfl⟩
    rw [found, List.filterMap_append, List.filterMap_cons, shallowest, Option.map_some]
    refine ⟨_, _, rfl, fun other mem same => ?_⟩
    obtain ⟨earlier, listed, isCut⟩ := List.mem_filterMap.1 mem
    obtain ⟨cut', shallowest', rfl⟩ := Option.map_eq_some_iff.1 isCut
    have callee : cut.callee = node.callee := Forest.callee_of_shallowestCut? shallowest
    have callee' : cut'.callee = earlier.callee := Forest.callee_of_shallowestCut? shallowest'
    have none := first earlier listed (callee'.symm.trans (Eq.trans same callee))
    rw [none] at shallowest'
    cases shallowest'

/-- The cut of a node that is found before all others of its method is looked at. -/
theorem mem_shownCuts {before after : List CallNode} {node : CallNode}
    (found : index.matching query = before ++ node :: after)
    (first : ∀ other ∈ before, other.callee ≠ node.callee) {cut : Excerpt}
    (shallowest : index.forest.shallowestCut? node query maxDepth = some cut) :
    cut.withoutCaller.withoutContexts ∈ index.shownCuts query maxDepth :=
  mem_shownCuts_iff.2 ⟨before, node, after, cut, found,
    fun other mem same => absurd same (first other mem), shallowest, rfl⟩

/-! ## Hits -/

/-- A search that shows more than signatures looks at the cuts, and counts the nodes that have none
within the greatest depth and the cuts that have no hit. -/
theorem search_eq (form : OutputForm) (more : form ≠ .signature) :
    index.search query ⟨maxDepth, form⟩ =
      ⟨(index.shownCuts query maxDepth).filterMap (hit? query form),
        (index.matching query).countP fun node =>
          (index.forest.shallowestCut? node query maxDepth).isNone,
        (index.shownCuts query maxDepth).countP fun cut => (hit? query form cut).isNone⟩ := by
  cases form with
  | signature => exact absurd rfl more
  | treecut | path =>
      rw [search]
      simp only [collect_eq]
      rfl

/-- The cuts shown of a search for paths have hits or are counted. -/
theorem length_paths : (index.search query ⟨maxDepth, .path⟩).hits.length +
    (index.search query ⟨maxDepth, .path⟩).withoutPaths =
      (index.shownCuts query maxDepth).length := by
  have counted := length_collect (hit? query .path) (index.shownCuts query maxDepth)
  rw [collect_eq] at counted
  rw [search_eq _ (by decide)]
  exact counted

/-- A cut has a hit among paths if it has a path. -/
theorem exists_hit?_path_iff {cut : Excerpt} {callee : Signature} :
    (∃ hit, hit? query .path cut = some hit ∧ hit.callee = callee) ↔
      cut.callee = callee ∧ cut.paths query ≠ [] := by
  rw [hit?, if_pos rfl]
  cases none : cut.paths query <;> simp

/-- A method is among the hits of a search for paths if the first node of the method that has a
cut has one with a path. -/
theorem mem_callees_of_paths_iff {callee : Signature} :
    callee ∈ (index.search query ⟨maxDepth, .path⟩).hits.map Hit.callee ↔
      ∃ before node after cut, index.matching query = before ++ node :: after ∧
        node.callee = callee ∧
        (∀ other ∈ before, other.callee = callee →
          index.forest.shallowestCut? other query maxDepth = none) ∧
        index.forest.shallowestCut? node query maxDepth = some cut ∧ cut.paths query ≠ [] := by
  rw [search_eq _ (by decide), List.mem_map]
  constructor
  · rintro ⟨hit, mem, rfl⟩
    obtain ⟨shown, listed, isHit⟩ := List.mem_filterMap.1 mem
    obtain ⟨same, paths⟩ := exists_hit?_path_iff.1 ⟨hit, isHit, rfl⟩
    obtain ⟨before, node, after, cut, found, first, shallowest, rfl⟩ :=
      mem_shownCuts_iff.1 listed
    have callee : node.callee = hit.callee :=
      (Forest.callee_of_shallowestCut? shallowest).symm.trans same
    exact ⟨before, node, after, cut, found, callee,
      fun other mem same => first other mem (same.trans callee.symm), shallowest,
      mt (cut.paths_shown_eq_nil_iff query).2 paths⟩
  · rintro ⟨before, node, after, cut, found, rfl, first, shallowest, paths⟩
    have callee : cut.callee = node.callee := Forest.callee_of_shallowestCut? shallowest
    have shown : cut.withoutCaller.withoutContexts.callee = node.callee := callee
    obtain ⟨hit, isHit, same⟩ := exists_hit?_path_iff.2
      ⟨shown, mt (cut.paths_shown_eq_nil_iff query).1 paths⟩
    exact ⟨hit, List.mem_filterMap.2 ⟨_, mem_shownCuts_iff.2
      ⟨before, node, after, cut, found, first, shallowest, rfl⟩, isHit⟩, same⟩

end Index

end CallSearch
