/-
# CallSearch.Proofs.Index.Cuts — trying depth after depth

The shallowest cut is found by trying depths in order until a cut fulfils the query, leaves no
node out, or the next depth is not allowed.  `Forest.Tries` is this loop without a bound on its
rounds.  In call trees that are built the nodes of a body have smaller numbers than the body,
so there are fewer levels of calls below a node than there are bodies (`Expansion.lt_nodeCount`):
the loop ends, and with the result computed (`Expansion.tries_iff`).

What the result is follows from the cuts being call trees written out, and their summaries
those of the calls in them: `Forest.shallowestCut_exact`.
-/
import CallSearch.Proofs.Index.FirstFound

namespace CallSearch

set_option autoImplicit false

open Relation

namespace Forest

/-! ## The loop -/

/-- Trying the depths from some depth on, with the summaries kept so far, ends with a result. -/
inductive Tries (forest : Forest) (node : CallNode) (query : Query) (maxDepth : Option Nat) :
    Nat → ExcerptItem.Memo → Option Excerpt → Prop
  /-- The depth is not allowed. -/
  | beyond {bound depth : Nat} {memo : ExcerptItem.Memo} :
      maxDepth = some bound → bound < depth → Tries forest node query maxDepth depth memo none
  /-- The cut fulfils the query. -/
  | found {depth : Nat} {memo : ExcerptItem.Memo} :
      (∀ bound, maxDepth = some bound → depth ≤ bound) →
      query.isFulfilledBy ((forest.cut node depth).excerpt.summarize.run memo).1 = true →
      Tries forest node query maxDepth depth memo (some (forest.cut node depth).excerpt)
  /-- It does not, and leaves no node out. -/
  | whole {depth : Nat} {memo : ExcerptItem.Memo} :
      (∀ bound, maxDepth = some bound → depth ≤ bound) →
      ¬query.isFulfilledBy ((forest.cut node depth).excerpt.summarize.run memo).1 = true →
      ¬(forest.cut node depth).hasDeeper = true →
      Tries forest node query maxDepth depth memo none
  /-- It does not, and leaves some node out. -/
  | deeper {depth : Nat} {memo : ExcerptItem.Memo} {result : Option Excerpt} :
      (∀ bound, maxDepth = some bound → depth ≤ bound) →
      ¬query.isFulfilledBy ((forest.cut node depth).excerpt.summarize.run memo).1 = true →
      (forest.cut node depth).hasDeeper = true →
      Tries forest node query maxDepth (depth + 1)
        ((forest.cut node depth).excerpt.summarize.run memo).2 result →
      Tries forest node query maxDepth depth memo result

variable {forest : Forest} {node : CallNode} {query : Query} {maxDepth : Option Nat}

/-- The loop has one result. -/
theorem Tries.unique {depth : Nat} {memo : ExcerptItem.Memo} {result other : Option Excerpt}
    (h : forest.Tries node query maxDepth depth memo result)
    (h' : forest.Tries node query maxDepth depth memo other) : result = other := by
  induction h with
  | beyond capped less =>
      cases h' with
      | beyond => rfl
      | found within | whole within | deeper within =>
          exact absurd (within _ capped) (Nat.not_le_of_lt less)
  | found within fulfilled =>
      cases h' with
      | beyond capped less => exact absurd (within _ capped) (Nat.not_le_of_lt less)
      | found => rfl
      | whole _ unfulfilled | deeper _ unfulfilled => exact absurd fulfilled unfulfilled
  | whole within unfulfilled shown =>
      cases h' with
      | beyond => rfl
      | found _ fulfilled => exact absurd fulfilled unfulfilled
      | whole => rfl
      | deeper _ _ more => exact absurd more shown
  | deeper within unfulfilled more _ ih =>
      cases h' with
      | beyond capped less => exact absurd (within _ capped) (Nat.not_le_of_lt less)
      | found _ fulfilled => exact absurd fulfilled unfulfilled
      | whole _ _ shown => exact absurd more shown
      | deeper _ _ _ rest => exact ih rest

section Built

variable {source : Source} {arena : Arena} (expansion : Expansion source forest arena)

include expansion

/-! ## Nodes of call trees -/

/-- Every key with a body is that of a reachable node. -/
theorem Expansion.exists_reachable {key : NodeKey} (stored : arena.Stored key) :
    ∃ node, forest.Reachable node ∧ node.key = key := by
  obtain ⟨root, listed, path⟩ := expansion.linked key stored
  induction path with
  | refl => exact ⟨root, reachable_root listed, rfl⟩
  | tail before link ih =>
      obtain ⟨body, has, child, here, rfl⟩ := link
      obtain ⟨parent, reachable, rfl⟩ := ih has.stored
      have number := expansion.number reachable.mem_nodes
      obtain rfl := has.unique (expansion.hasBody number)
      exact ⟨child, reachable.child (mem_children_of_leaf here), rfl⟩

/-- Every node of the call trees is reachable. -/
theorem Expansion.reachable_of_mem (mem : node ∈ forest.nodes) : forest.Reachable node := by
  rcases mem_nodes.1 mem with root | ⟨body, listed, here⟩
  · exact reachable_root root
  · rw [expansion.bodies] at listed
    obtain ⟨number, inside, found⟩ := List.getElem_of_mem listed
    obtain ⟨key, numbered⟩ := expansion.sound.numbered number inside
    have has : arena.HasBody key body :=
      ⟨number, numbered, List.getElem?_eq_some_iff.2 ⟨inside, found⟩⟩
    obtain ⟨parent, reachable, rfl⟩ := expansion.exists_reachable has.stored
    obtain rfl := has.unique (expansion.hasBody (expansion.number reachable.mem_nodes))
    exact reachable.child (mem_children_of_leaf here)

/-- The levels of calls below a node do not outnumber the bodies stored before its own. -/
theorem Expansion.le_body {steps : Nat} (reachable : forest.Reachable node)
    (below : forest.HasBelow steps node) : steps ≤ node.body := by
  induction steps generalizing node with
  | zero => exact Nat.zero_le _
  | succ steps ih =>
      obtain ⟨other, path⟩ := below
      obtain ⟨child, mem, path⟩ := steps_succ_iff.1 path
      have inside : steps ≤ child.body := ih (reachable.child mem) ⟨other, path⟩
      have less : child.body < node.body := expansion.body_lt reachable mem
      omega

/-- There are fewer levels of calls below a node than there are nodes. -/
theorem Expansion.lt_nodeCount {steps : Nat} (reachable : forest.Reachable node)
    (below : forest.HasBelow steps node) : steps < forest.nodeCount := by
  have levels : steps ≤ node.body := expansion.le_body reachable below
  have stored := expansion.sound.lt_length (expansion.number reachable.mem_nodes)
  rw [← expansion.bodies] at stored
  have bodies : forest.bodies.length ≤ forest.nodeCount := expansion.length_bodies_le
  omega

/-! ## The loop ends -/

/-- Trying a number of depths is the loop, if no more depths are allowed or the levels of calls
are used up by then. -/
theorem Expansion.tries_shallowestFrom (reachable : forest.Reachable node) {depths below : Nat}
    (memo : ExcerptItem.Memo) (capped : ∀ bound, maxDepth = some bound → below + depths = bound)
    (enough : maxDepth = none → forest.nodeCount ≤ below + depths)
    (levels : forest.HasBelow below node) :
    forest.Tries node query maxDepth (below + 1) memo
      (forest.shallowestFrom node query depths (below + 1) memo) := by
  induction depths generalizing below memo with
  | zero =>
      rw [shallowestFrom]
      cases maxDepth with
      | none =>
          have less : below < forest.nodeCount := expansion.lt_nodeCount reachable levels
          exact absurd (enough rfl) (Nat.not_le_of_lt less)
      | some bound =>
          have last : below = bound := capped bound rfl
          exact .beyond rfl (by omega)
  | succ depths ih =>
      have within : ∀ bound, maxDepth = some bound → below + 1 ≤ bound := by
        intro bound same
        have total := capped bound same
        omega
      rw [shallowestFrom_succ rfl]
      split
      · next fulfilled => exact .found within fulfilled
      · next unfulfilled =>
        split
        · next more =>
          have deeper : forest.HasBelow (below + 1) node :=
            (cut_hasDeeper_iff expansion.sharesBodies reachable below).1 more
          refine .deeper within unfulfilled more (ih _ (fun bound same => ?_) (fun none => ?_) deeper)
          · have total := capped bound same
            omega
          · have total := enough none
            omega
        · next shown => exact .whole within unfulfilled shown

/-- The loop from the first depth on ends, with the shallowest cut. -/
theorem Expansion.tries_iff (reachable : forest.Reachable node) {result : Option Excerpt} :
    forest.Tries node query maxDepth 1 [] result ↔
      result = forest.shallowestCut? node query maxDepth := by
  have ends : forest.Tries node query maxDepth 1 []
      (forest.shallowestCut? node query maxDepth) := by
    rw [shallowestCut?]
    refine expansion.tries_shallowestFrom reachable [] (fun bound same => ?_) (fun none => ?_)
      ⟨node, .zero node⟩
    · rw [same, Option.getD_some, Nat.zero_add]
    · rw [none, Option.getD_none]
      omega
  constructor
  · exact fun other => other.unique ends
  · rintro rfl
    exact ends

/-! ## Its result -/

/-- Without a greatest depth there is a shallowest cut if the summary of the node fulfils the
query. -/
theorem Expansion.isSome_shallowestCut? (reachable : forest.Reachable node) :
    (forest.shallowestCut? node query none).isSome = true ↔
      (forest.summaries.get? node.key).any query.isFulfilledBy = true := by
  -- Entry points play no part here.
  let index : Index := ⟨[], forest, forest.summaries⟩
  have grown : Expansion source index.forest arena := expansion
  have fulfils : index.fulfils query node = true ↔
      forest.FulfilledWithin query node forest.nodeCount :=
    Index.fulfils_iff_fulfilledWithin grown rfl reachable
  change _ ↔ index.fulfils query node = true
  constructor
  · intro some
    obtain ⟨cut, shallowest⟩ := Option.isSome_iff_exists.1 some
    obtain ⟨least, -, ⟨fulfilled, -⟩, -⟩ :=
      (shallowestCut?_eq_some_iff expansion.sharesBodies reachable).1 shallowest
    exact fulfils.2 (fulfilled.of_calls fun _ => callsWithin_nodeCount reachable)
  · intro fulfilled
    obtain ⟨least, -, shallowest⟩ :=
      Index.exists_shallowestCut? grown rfl reachable fulfilled
    exact Option.isSome_iff_exists.2 ⟨_, shallowest⟩

end Built

/-- What fewer levels show, more levels show. -/
theorem mem_callsWithin_mono {below more : Nat} (le : below ≤ more) {call : Invocation}
    (mem : call ∈ forest.callsWithin below node) : call ∈ forest.callsWithin more node := by
  obtain ⟨steps, few, other, path, shown⟩ := mem_callsWithin.1 mem
  exact mem_callsWithin.2 ⟨steps, few.trans le, other, path, shown⟩

/-- There is no shallowest cut if no cut that is allowed fulfils the query. -/
theorem shallowestCut?_eq_none_iff (shares : forest.SharesBodies)
    (reachable : forest.Reachable node) :
    forest.shallowestCut? node query maxDepth = none ↔
      ∀ below, (∀ bound, maxDepth = some bound → below < bound) →
        ¬forest.FulfilledWithin query node below := by
  constructor
  · intro none below within fulfilled
    obtain ⟨least, -, shallowest⟩ := fulfilled.exists_shallowestAt reachable
    have le : least ≤ below := Nat.le_of_not_lt fun less => shallowest.2 below less fulfilled
    have found : forest.shallowestCut? node query maxDepth = some (forest.unfolded least node) :=
      (shallowestCut?_eq_some_iff shares reachable).2
        ⟨least, fun bound same => Nat.lt_of_le_of_lt le (within bound same), shallowest, rfl⟩
    rw [none] at found
    cases found
  · intro unfulfilled
    refine Option.eq_none_iff_forall_ne_some.2 fun cut found => ?_
    obtain ⟨least, within, shallowest, -⟩ := (shallowestCut?_eq_some_iff shares reachable).1 found
    exact unfulfilled least within shallowest.1

/-- In call trees that are built, for every node of them:

* trying depth after depth ends, with the shallowest cut;
* this is the node written out to the least depth allowed at which the calls written out fulfil
  the query, and there is none if they do at no depth that is allowed;
* without a greatest depth there is one if the summary of the node fulfils the query;
* what is written out at some depth is also written out at greater depths. -/
theorem shallowestCut_exact {config config' : AnalysisConfig} {classes : ClassTable}
    {trees : MethodTrees} {dispatch : Dispatch} {entryPoints : List Signature} {forest : Forest}
    (analysed : (MethodTrees.ofClasses config classes).result = .ok trees)
    (built : (build config' trees dispatch entryPoints).result = .ok forest) {node : CallNode}
    (mem : node ∈ forest.nodes) (query : Query) (maxDepth : Option Nat) :
    (∀ result, forest.Tries node query maxDepth 1 [] result ↔
        result = forest.shallowestCut? node query maxDepth) ∧
      (∀ excerpt, forest.shallowestCut? node query maxDepth = some excerpt ↔
        ∃ below, (∀ bound, maxDepth = some bound → below + 1 ≤ bound) ∧
          query.isFulfilledBy (forest.unfolded below node).pathSummary = true ∧
          (∀ less < below, ¬query.isFulfilledBy (forest.unfolded less node).pathSummary = true) ∧
          excerpt = forest.unfolded below node) ∧
      (forest.shallowestCut? node query maxDepth = none ↔
        ∀ below, (∀ bound, maxDepth = some bound → below + 1 ≤ bound) →
          ¬query.isFulfilledBy (forest.unfolded below node).pathSummary = true) ∧
      (∃ summary, forest.summaries.get? node.key = some summary ∧
        ((forest.shallowestCut? node query none).isSome = true ↔
          query.isFulfilledBy summary = true)) ∧
      ∀ below more, below ≤ more → (forest.unfolded below node).pathSummary.subset
        (forest.unfolded more node).pathSummary = true := by
  obtain ⟨recursive, arena, expansion⟩ :=
    exists_expansion (MethodTrees.feasible_ofClasses analysed) built
  have reachable : forest.Reachable node := expansion.reachable_of_mem mem
  have shares : forest.SharesBodies := expansion.sharesBodies
  refine ⟨fun result => expansion.tries_iff reachable, fun excerpt => ?_,
    shallowestCut?_eq_none_iff shares reachable, ?_, fun below more le => ?_⟩
  · rw [shallowestCut?_eq_some_iff shares reachable]
    exact exists_congr fun below => and_congr_right fun _ => and_assoc
  · obtain ⟨summary, found, -⟩ := expansion.exists_summary mem
    refine ⟨summary, found, ?_⟩
    rw [expansion.isSome_shallowestCut? reachable, found, Option.any_some]
  · exact Summary.subset_ofCalls fun call => mem_callsWithin_mono le

/-! ### A call on the second level -/

open Index (sampleCrossing sampleCrossingTrees sampleCrossingForest ofClasses_sampleCrossing
  build_sampleCrossingTrees)

/-- A call that `b` makes below `a` is found at depth two, and not at depth one. -/
theorem shallowestCut_exact_sampleCrossing :
    (MethodTrees.ofClasses {} sampleCrossing).result = .ok sampleCrossingTrees ∧
      (build {} sampleCrossingTrees (.ofClasses sampleCrossing)
        [loneMethod "a", loneMethod "b"]).result = .ok sampleCrossingForest ∧
      ∃ root ∈ sampleCrossingForest.nodes, root.callee = loneMethod "a" ∧
      ∃ query, Query.compile false ["m.y"] = .ok query ∧
        sampleCrossingForest.Tries root query (some 1) 1 [] none ∧
        ∃ cut, cut.depth = 2 ∧ sampleCrossingForest.Tries root query none 1 [] (some cut) := by
  let root : CallNode := ⟨entryCall (loneMethod "a"), some (loneMethod "a"), 2⟩
  have mem : root ∈ sampleCrossingForest.nodes := mem_nodes.2 (Or.inl List.mem_cons_self)
  obtain ⟨query, compiled, cuts⟩ := Logged.exists_ok_of_map (show
    (Query.compile false ["m.y"]).toOption.map (fun query =>
      ((sampleCrossingForest.shallowestCut? root query (some 1)).isNone,
        (sampleCrossingForest.shallowestCut? root query none).map Excerpt.depth)) =
      some (true, some 2) by cbv)
  obtain ⟨capped, uncapped⟩ := Prod.mk.inj cuts
  obtain ⟨cut, found, depth⟩ := Option.map_eq_some_iff.1 uncapped
  obtain ⟨tries, -⟩ := shallowestCut_exact ofClasses_sampleCrossing build_sampleCrossingTrees mem
    query (some 1)
  obtain ⟨tries', -⟩ := shallowestCut_exact ofClasses_sampleCrossing build_sampleCrossingTrees mem
    query none
  exact ⟨ofClasses_sampleCrossing, build_sampleCrossingTrees, root, mem, rfl, query, compiled,
    (tries _).2 (Option.isNone_iff_eq_none.1 capped).symm, cut, depth, (tries' _).2 found.symm⟩

end Forest

end CallSearch
