/-
# CallSearch.Proofs.Index.Validate — indexes that are accepted

An index is consistent when its roots are the entry points and every node that can be
reached has a body and a summary.  Every consistent index is accepted.  The converse
holds where nodes with one callee and context have one body: `validate` follows one node
of each key, so another that names a body of its own stands for nothing that was looked
at (`validate_sampleHidden`).

In a consistent index nothing depends on what stands behind the last body: with any more
bodies the nodes met, the summaries, the cuts and the results of a search are the same
(`validate_exact`).
-/
import CallSearch.Proofs.Excerpt.Shallowest
import CallSearch.Proofs.Forest.Lowest
import CallSearch.Proofs.Forest.Visits
import CallSearch.Proofs.Index
import CallSearch.Proofs.Index.Hits
import Mathlib.Data.List.Forall2

namespace CallSearch

set_option autoImplicit false

namespace Forest

variable {forest other : Forest}

/-! ## Summaries of forests that agree -/

theorem summarizeNode_eq_of_around {depth : Nat} {around : List NodeKey} {node : CallNode}
    {table : SummaryTable} (fresh : table.get? node.key = none) (inside : node.key ∈ around) :
    forest.summarizeNode depth around node table = (∅, table) := by
  unfold summarizeNode
  simp only [bind, StateT.bind, get, getThe, MonadStateOf.get, StateT.get, pure, fresh]
  rw [if_pos (by simpa using inside)]
  rfl

/-- Forests that agree give a node the same summary, with a depth for the keys that are not being
summarized around it. -/
theorem summarizeNode_eq_of_agrees (agrees : forest.Agrees other) {depth depth' : Nat}
    {around : List NodeKey} {node : CallNode} (reachable : forest.Reachable node)
    (distinct : around.Nodup) (known : ∀ key ∈ around, ∃ node, forest.Reachable node ∧ node.key = key)
    (enough : forest.nodeCount < depth + around.length)
    (enough' : other.nodeCount < depth' + around.length) :
    other.summarizeNode depth' around node = forest.summarizeNode depth around node := by
  induction depth generalizing depth' around node with
  | zero =>
      have := length_keys_le distinct known
      omega
  | succ depth ih =>
      cases depth' with
      | zero =>
          have := length_keys_le distinct fun key mem => by
            obtain ⟨node, reachable, same⟩ := known key mem
            exact ⟨node, agrees.reachable_iff.2 reachable, same⟩
          omega
      | succ depth' =>
          funext table
          cases fresh : table.get? node.key with
          | some summary => rw [summarizeNode_eq_of_get? fresh, summarizeNode_eq_of_get? fresh]
          | none =>
              by_cases inside : node.key ∈ around
              · rw [summarizeNode_eq_of_around fresh inside, summarizeNode_eq_of_around fresh inside]
              · have below : ∀ child, .call child ∈ (forest.body node).leaves →
                    other.summarizeNode depth' (node.key :: around) child =
                      forest.summarizeNode depth (node.key :: around) child := fun child mem =>
                  ih (reachable.child (mem_children_of_leaf mem))
                    (List.nodup_cons.2 ⟨inside, distinct⟩)
                    (List.forall_mem_cons.2 ⟨⟨node, reachable, rfl⟩, known⟩)
                    (by rw [List.length_cons]; omega) (by rw [List.length_cons]; omega)
                have added : ∀ item ∈ (forest.body node).leaves, ∀ summary,
                    addItem (other.summarizeNode depth' (node.key :: around)) summary item =
                      addItem (forest.summarizeNode depth (node.key :: around)) summary item := by
                  intro item mem summary
                  cases item with
                  | invoked call => rfl
                  | call child => rw [addItem, addItem, below child mem]
                rw [summarizeNode_eq_of_fresh fresh inside, summarizeNode_eq_of_fresh fresh inside,
                  agrees.body node reachable, foldlM_congr added]

theorem summaries_eq_of_agrees (agrees : forest.Agrees other) :
    other.summaries = forest.summaries := by
  have each : ∀ root ∈ forest.roots, other.summarizeNode (other.nodeCount + 1) [] root =
      forest.summarizeNode (forest.nodeCount + 1) [] root := fun root mem =>
    summarizeNode_eq_of_agrees agrees (reachable_root mem) List.nodup_nil (by simp) (by simp)
      (by simp)
  have all := forM_congr fun root mem => congrArg
    (fun summarize : StateM SummaryTable Summary => do let _ ← summarize) (each root mem)
  rw [summaries, summaries, agrees.roots]
  exact congrArg (fun run : StateM SummaryTable Unit => (run.run ∅).2) all

end Forest

namespace Index

variable {index : Index}

/-- The roots are those of the entry points, and every node that can be reached has a body and a
summary. -/
structure IsConsistent (index : Index) : Prop where
  roots : index.entryPoints = index.forest.roots.map CallNode.callee
  bodies : ∀ node, index.forest.Reachable node → (index.forest.body? node).isSome = true
  summaries : ∀ node, index.forest.Reachable node → index.summaries.contains node.key = true

theorem rootFault?_eq_none_iff :
    index.rootFault? = none ↔ index.entryPoints = index.forest.roots.map CallNode.callee := by
  rw [rootFault?]
  by_cases lengths : index.entryPoints.length = index.forest.roots.length
  · rw [if_neg (by simpa using lengths), List.findSome?_eq_none_iff]
    have pairs : index.entryPoints = index.forest.roots.map CallNode.callee ↔
        List.Forall₂ (fun entryPoint root => entryPoint = CallNode.callee root)
          index.entryPoints index.forest.roots := by
      rw [← List.forall₂_eq_eq_eq, List.forall₂_map_right_iff]
    rw [pairs, List.forall₂_iff_zip]
    simp [lengths]
  · rw [if_pos (by simpa using lengths)]
    simp only [reduceCtorEq, false_iff]
    exact fun same => lengths (by rw [same, List.length_map])

theorem nodeFault?_eq_none_iff {node : CallNode} : index.nodeFault? node = none ↔
    (index.forest.body? node).isSome = true ∧ index.summaries.contains node.key = true := by
  rw [nodeFault?]
  cases index.forest.body? node <;> cases index.summaries.contains node.key <;> simp

theorem validate_eq_ok_iff : index.validate = .ok () ↔
    index.entryPoints = index.forest.roots.map CallNode.callee ∧
      ∀ node ∈ index.forest.visits, (index.forest.body? node).isSome = true ∧
        index.summaries.contains node.key = true := by
  have faultless : index.validate = .ok () ↔ index.fault? = none := by
    rw [validate]
    cases index.fault? <;> simp
  rw [faultless, fault?, Option.or_eq_none_iff, rootFault?_eq_none_iff, List.findSome?_eq_none_iff]
  simp only [nodeFault?_eq_none_iff]

/-- Consistent indexes are accepted. -/
theorem IsConsistent.validate (h : index.IsConsistent) : index.validate = .ok () :=
  validate_eq_ok_iff.2 ⟨h.roots, fun node mem =>
    have reachable := Forest.reachable_of_mem_visits mem
    ⟨h.bodies node reachable, h.summaries node reachable⟩⟩

/-- Where nodes with one key have one body, an index that is accepted is consistent. -/
theorem isConsistent_of_validate (shares : index.forest.SharesBodies)
    (accepted : index.validate = .ok ()) : index.IsConsistent := by
  obtain ⟨roots, met⟩ := validate_eq_ok_iff.1 accepted
  have all := fun node reachable => met node ((Forest.mem_visits_iff shares).2 reachable)
  exact ⟨roots, fun node reachable => (all node reachable).1,
    fun node reachable => (all node reachable).2⟩

/-- Forests that agree are searched with the same result. -/
theorem search_eq_of_agrees {forest : Forest} (agrees : index.forest.Agrees forest)
    (shares : index.forest.SharesBodies) (query : Query) (config : SearchConfig) :
    ({ index with forest } : Index).search query config = index.search query config := by
  have matching : ({ index with forest } : Index).matching query = index.matching query :=
    Forest.lowest_eq_of_agrees agrees _
  have cuts : collect (fun node => forest.shallowestCut? node query config.maxDepth)
        (index.matching query) =
      collect (fun node => index.forest.shallowestCut? node query config.maxDepth)
        (index.matching query) :=
    collect_congr fun node mem => Forest.shallowestCut?_eq_of_agrees agrees shares
      (Forest.reachable_of_mem_lowest shares mem) query config.maxDepth
  rw [search, search]
  simp only [matching, cuts]

/-- Every consistent index is accepted.  Where nodes with one callee and context have one body,
only consistent indexes are accepted, and what is met, summarized, cut and found in them does not
depend on what stands behind the last body. -/
theorem validate_exact (index : Index) :
    (index.IsConsistent → index.validate = .ok ()) ∧
      (index.forest.SharesBodies → index.validate = .ok () →
        index.IsConsistent ∧ ∀ more : List (Tree CallItem),
          (index.forest.withMore more).visits = index.forest.visits ∧
          (index.forest.withMore more).summaries = index.forest.summaries ∧
          (∀ node, index.forest.Reachable node → ∀ depth,
            (index.forest.withMore more).cut node depth = index.forest.cut node depth) ∧
          ∀ query config, ({ index with forest := index.forest.withMore more } : Index).search
            query config = index.search query config) := by
  refine ⟨IsConsistent.validate, fun shares accepted => ?_⟩
  have consistent := isConsistent_of_validate shares accepted
  refine ⟨consistent, fun more => ?_⟩
  have agrees := Forest.agrees_withMore consistent.bodies more
  exact ⟨Forest.visits_eq_of_agrees agrees, Forest.summaries_eq_of_agrees agrees,
    fun node reachable depth => Forest.cut_eq_of_agrees agrees shares reachable depth,
    search_eq_of_agrees agrees shares⟩

/-- A node without context. -/
def sampleNode (name : String) (body : Nat) : CallNode :=
  ⟨entryCall (sampleMethod name), none, body⟩

/-- A method that is an entry point twice, with one body, and calls another. -/
def sampleShared : Index where
  entryPoints := [sampleMethod "run", sampleMethod "run"]
  forest :=
    { roots := [sampleNode "run" 1, sampleNode "run" 1]
      bodies := [.seq [], .leaf (.call (sampleNode "log" 0))] }
  summaries := .ofList [(⟨sampleMethod "run", none⟩, ⟨.ofList [sampleMethod "log"], ∅⟩),
    (⟨sampleMethod "log", none⟩, ∅)]

/-- The shared body is searched as it stands, whatever is behind it. -/
theorem validate_sampleShared :
    sampleShared.forest.SharesBodies ∧ sampleShared.validate = .ok () ∧
      sampleShared.IsConsistent ∧
      ∀ more query config, ({ sampleShared with
        forest := sampleShared.forest.withMore more } : Index).search query config =
          sampleShared.search query config := by
  have numbers : ∀ node ∈ sampleShared.forest.nodes, ∀ other ∈ sampleShared.forest.nodes,
      node.key = other.key → node.body = other.body := by decide +kernel
  have shares : sampleShared.forest.SharesBodies := fun node other reachable reachable' =>
    numbers node reachable.mem_nodes other reachable'.mem_nodes
  have accepted : sampleShared.validate = .ok () := by
    refine validate_eq_ok_iff.2 ⟨by decide +kernel, ?_⟩
    decide +kernel
  obtain ⟨consistent, same⟩ := (validate_exact sampleShared).2 shares accepted
  exact ⟨shares, accepted, consistent, fun more => (same more).2.2.2⟩

/-- A method that is an entry point twice, the second time without its calls, one of which names a
body there is not. -/
def sampleHidden : Index where
  entryPoints := [sampleMethod "run", sampleMethod "run"]
  forest :=
    { roots := [sampleNode "run" 1, sampleNode "run" 0]
      bodies := [.seq [], .leaf (.call (sampleNode "f" 2))] }
  summaries := .ofList [(⟨sampleMethod "run", none⟩, ∅)]

/-- An index may be accepted though a node that can be reached has no body. -/
theorem validate_sampleHidden :
    sampleHidden.validate = .ok () ∧ ∃ node, sampleHidden.forest.Reachable node ∧
      sampleHidden.forest.body? node = none ∧ sampleHidden.summaries.contains node.key = false := by
  have root : sampleHidden.forest.Reachable (sampleNode "run" 1) :=
    Forest.reachable_root List.mem_cons_self
  exact ⟨validate_eq_ok_iff.2 ⟨by decide +kernel, by decide +kernel⟩, sampleNode "f" 2,
    root.child (List.mem_singleton_self _), rfl, by decide +kernel⟩

end Index

end CallSearch
