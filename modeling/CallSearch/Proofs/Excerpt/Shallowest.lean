/-
# CallSearch.Proofs.Excerpt.Shallowest — the shallowest cut that fulfils a query

The memo of summaries is kept from one depth to the next; where nodes with one key have
one body it holds the summaries of what is written out (`settles_summarize_unfold`).

What is written out shows the calls of the nodes up to the depth, and a node below
another is so by no more steps than there are nodes.  So once no node is left out, more
depth shows nothing more, and without a greatest depth the search is not given up before
(`shallowestCut?_eq_some_iff`).
-/
import CallSearch.Proofs.Excerpt.Items
import CallSearch.Proofs.Excerpt.Unfold
import CallSearch.Proofs.Index.Sharing
import CallSearch.Proofs.Query

namespace CallSearch

set_option autoImplicit false

theorem Summary.ofCalls_nil : Summary.ofCalls [] = ∅ :=
  (of_calls []).unique (of_empty.congr fun call => by simp)

theorem Summary.ofCalls_append (calls others : List Invocation) :
    Summary.ofCalls calls ∪ Summary.ofCalls others = Summary.ofCalls (calls ++ others) :=
  (((of_calls calls).union (of_calls others)).congr fun call => by simp).unique
    (of_calls (calls ++ others))

namespace ExcerptItem

/-! ## Summaries with a memo -/

/-- Starting from a good memo, the result is the summary of some calls and the memo stays good. -/
def Settles (good : Memo → Prop) (summarize : StateM Memo Summary) (calls : List Invocation) :
    Prop :=
  ∀ memo, good memo → (summarize memo).1 = .ofCalls calls ∧ good (summarize memo).2

variable {good : Memo → Prop}

/-- Using the memo is right if it holds nothing else under the key and may be given the summary. -/
theorem settles_remember {key : NodeKey × Nat} {find : StateM Memo Summary}
    {calls : List Invocation} (found : Settles good find calls)
    (kept : ∀ memo, good memo → ∀ summary, memo.lookup key = some summary →
      summary = .ofCalls calls)
    (keep : ∀ memo, good memo → good ((key, .ofCalls calls) :: memo)) :
    Settles good (remember key find) calls := by
  intro memo start
  unfold remember
  simp only [bind, StateT.bind, get, getThe, MonadStateOf.get, StateT.get, pure]
  cases known : memo.lookup key with
  | some summary => exact ⟨kept memo start summary known, start⟩
  | none =>
      obtain ⟨result, after⟩ := found memo start
      refine ⟨result, ?_⟩
      change good ((key, (find memo).1) :: (find memo).2)
      rw [result]
      exact keep _ after

theorem settles_call {site : Invocation} {context : Option Signature} {depth : Nat}
    {body : Tree ExcerptItem}
    (below : Settles good (remember (⟨site.callee, context⟩, depth) (summarizeTree body))
      (callsOfTree body)) :
    Settles good (ExcerptItem.call site context depth body).summarize
      (ExcerptItem.call site context depth body).calls := by
  intro memo start
  obtain ⟨result, after⟩ := below memo start
  rw [summarize, calls]
  refine ⟨?_, after⟩
  change Summary.ofCalls [site] ∪ (remember (⟨site.callee, context⟩, depth)
    (summarizeTree body) memo).1 = _
  rw [result, Summary.ofCalls_append, List.singleton_append]

mutual

/-- What holds of the items of a tree holds of the tree. -/
theorem settles_summarizeTree : (tree : Tree ExcerptItem) →
    (∀ item ∈ tree.leaves, Settles good item.summarize item.calls) →
    Settles good (summarizeTree tree) (callsOfTree tree)
  | .leaf item, each => by
      rw [summarizeTree, callsOfTree]
      exact each item (by simp [Tree.leaves])
  | .seq parts, each => by
      rw [summarizeTree, callsOfTree]
      exact settles_summarizeTrees parts (by simpa only [Tree.leaves] using each)
  | .alt parts, each => by
      rw [summarizeTree, callsOfTree]
      exact settles_summarizeTrees parts (by simpa only [Tree.leaves] using each)

theorem settles_summarizeTrees : (parts : List (Tree ExcerptItem)) →
    (∀ item ∈ Tree.leavesOfAll parts, Settles good item.summarize item.calls) →
    Settles good (summarizeTrees parts) (callsOfTrees parts)
  | [], _ => by
      rw [summarizeTrees, callsOfTrees]
      exact fun memo start => ⟨Summary.ofCalls_nil.symm, start⟩
  | part :: rest, each => by
      simp only [Tree.leavesOfAll, List.mem_append] at each
      rw [summarizeTrees, callsOfTrees]
      intro memo start
      obtain ⟨first, between⟩ :=
        settles_summarizeTree part (fun item mem => each item (Or.inl mem)) memo start
      obtain ⟨others, after⟩ :=
        settles_summarizeTrees rest (fun item mem => each item (Or.inr mem)) _ between
      refine ⟨?_, after⟩
      change (summarizeTree part memo).1 ∪
        (summarizeTrees rest (summarizeTree part memo).2).1 = _
      rw [first, others, Summary.ofCalls_append]

end

end ExcerptItem

namespace Forest

variable {forest : Forest}

/-- The calls of a node with a number of levels of calls below it. -/
def callsWithin (forest : Forest) (below : Nat) (node : CallNode) : List Invocation :=
  ExcerptItem.callsOfTree (forest.unfold below node)

/-- The summaries kept are those of their keys written out. -/
def RightMemo (forest : Forest) (memo : ExcerptItem.Memo) : Prop :=
  ∀ key below summary, memo.lookup (key, below + 1) = some summary →
    ∀ node, forest.Reachable node → node.key = key →
      summary = .ofCalls (forest.callsWithin below node)

section Memo

variable (shares : forest.SharesBodies)

include shares

/-- The summary of a node written out may be kept. -/
theorem settles_remember_unfold {node : CallNode} (reachable : forest.Reachable node)
    {below : Nat} (each : ∀ item ∈ (forest.unfold below node).leaves,
      ExcerptItem.Settles forest.RightMemo item.summarize item.calls) :
    ExcerptItem.Settles forest.RightMemo
      (ExcerptItem.remember (node.key, below + 1)
        (ExcerptItem.summarizeTree (forest.unfold below node)))
      (forest.callsWithin below node) := by
  refine ExcerptItem.settles_remember (ExcerptItem.settles_summarizeTree _ each)
    (fun memo right summary found => right _ _ _ found node reachable rfl)
    fun memo right key depth summary found other reachable' sameKey => ?_
  rw [List.lookup_cons] at found
  split at found
  · next same =>
    simp only [beq_iff_eq, Prod.mk.injEq, Nat.add_right_cancel_iff] at same
    obtain ⟨rfl, rfl⟩ := same
    cases found
    rw [callsWithin, callsWithin, unfold_congr (shares other node reachable' reachable sameKey)]
  · exact right key depth summary found other reachable' sameKey

/-- What is written out is summarized as it should be, here and below. -/
theorem settles_summarize_unfold {node : CallNode} (reachable : forest.Reachable node)
    (below : Nat) : ∀ item ∈ (forest.unfold below node).leaves,
      ExcerptItem.Settles forest.RightMemo item.summarize item.calls := by
  have bare : ∀ call, ExcerptItem.Settles forest.RightMemo (ExcerptItem.invoked call).summarize
      (ExcerptItem.invoked call).calls := by
    intro call memo right
    rw [ExcerptItem.summarize, ExcerptItem.calls]
    exact ⟨rfl, right⟩
  induction below generalizing node with
  | zero =>
      intro item mem
      rw [unfold, Tree.leaves_map] at mem
      obtain ⟨leaf, -, rfl⟩ := List.mem_map.1 mem
      cases leaf <;> exact bare _
  | succ below ih =>
      intro item mem
      rw [unfold, Tree.leaves_map] at mem
      obtain ⟨leaf, listed, rfl⟩ := List.mem_map.1 mem
      cases leaf with
      | invoked call => exact bare call
      | call child =>
          have inside := reachable.child (mem_children_of_leaf listed)
          exact ExcerptItem.settles_call (settles_remember_unfold shares inside (ih inside))

theorem settles_unfolded {node : CallNode} (reachable : forest.Reachable node) (below : Nat) :
    ExcerptItem.Settles forest.RightMemo (forest.unfolded below node).summarize
      (forest.callsWithin below node) :=
  settles_remember_unfold shares reachable (settles_summarize_unfold shares reachable below)

end Memo

/-! ## Calls written out -/

theorem mem_callsWithin_leaf {below : Nat} {node : CallNode} {call : Invocation} :
    call ∈ forest.callsWithin below node ↔
      ∃ item ∈ (forest.body node).leaves, call ∈ (forest.unfoldItem below item).calls := by
  rw [callsWithin, ExcerptItem.callsOfTree_eq, unfold, Tree.leaves_map, List.mem_flatMap]
  simp only [List.mem_map, exists_exists_and_eq_and]

theorem mem_callsWithin_zero {node : CallNode} {call : Invocation} :
    call ∈ forest.callsWithin 0 node ↔
      ∃ item ∈ (forest.body node).leaves, item.invocation = call := by
  rw [mem_callsWithin_leaf]
  refine exists_congr fun item => and_congr_right fun _ => ?_
  cases item <;> exact List.mem_singleton.trans eq_comm

/-- With one more level a node shows what the nodes in its body show. -/
theorem mem_callsWithin_succ {below : Nat} {node : CallNode} {call : Invocation} :
    call ∈ forest.callsWithin (below + 1) node ↔
      (∃ item ∈ (forest.body node).leaves, item.invocation = call) ∨
        ∃ child ∈ forest.children node, call ∈ forest.callsWithin below child := by
  have step : ∀ child, call ∈ (forest.unfoldItem (below + 1) (.call child)).calls ↔
      child.call = call ∨ call ∈ forest.callsWithin below child := by
    intro child
    rw [unfoldItem_call, ExcerptItem.calls, List.mem_cons, eq_comm]
    rfl
  rw [mem_callsWithin_leaf]
  constructor
  · rintro ⟨item, mem, here⟩
    cases item with
    | invoked other => exact Or.inl ⟨_, mem, (List.mem_singleton.1 here).symm⟩
    | call child =>
        exact ((step child).1 here).imp (fun same => ⟨_, mem, same⟩)
          fun inside => ⟨child, mem_children_of_leaf mem, inside⟩
  · rintro (⟨item, mem, rfl⟩ | ⟨child, listed, inside⟩)
    · refine ⟨item, mem, ?_⟩
      cases item with
      | invoked call => exact List.mem_singleton_self _
      | call child => exact (step child).2 (Or.inl rfl)
    · obtain ⟨leaf, mem, isNode⟩ := List.mem_filterMap.1 listed
      cases leaf with
      | invoked call => cases isNode
      | call node =>
          cases isNode
          exact ⟨_, mem, (step child).2 (Or.inr inside)⟩

/-- What is written out shows the calls in the bodies of the nodes up to the depth. -/
theorem mem_callsWithin {below : Nat} {node : CallNode} {call : Invocation} :
    call ∈ forest.callsWithin below node ↔
      ∃ steps ≤ below, ∃ other, Steps forest.children steps node other ∧
        ∃ item ∈ (forest.body other).leaves, item.invocation = call := by
  induction below generalizing node with
  | zero =>
      rw [mem_callsWithin_zero]
      constructor
      · exact fun shown => ⟨0, Nat.le_refl 0, node, .zero node, shown⟩
      · rintro ⟨steps, le, other, path, shown⟩
        obtain rfl := Nat.le_zero.1 le
        obtain rfl := steps_zero.1 path
        exact shown
  | succ below ih =>
      rw [mem_callsWithin_succ]
      constructor
      · rintro (shown | ⟨child, mem, inside⟩)
        · exact ⟨0, Nat.zero_le _, node, .zero node, shown⟩
        · obtain ⟨steps, le, other, path, shown⟩ := ih.1 inside
          exact ⟨steps + 1, Nat.succ_le_succ le, other,
            steps_succ_iff.2 ⟨child, mem, path⟩, shown⟩
      · rintro ⟨steps, le, other, path, shown⟩
        cases steps with
        | zero =>
            obtain rfl := steps_zero.1 path
            exact Or.inl shown
        | succ steps =>
            obtain ⟨child, listed, path⟩ := steps_succ_iff.1 path
            exact Or.inr ⟨child, listed, ih.2 ⟨steps, Nat.le_of_succ_le_succ le, other, path, shown⟩⟩

/-- Where no node is left out, more depth shows nothing more. -/
theorem callsWithin_of_not_hasBelow {below more : Nat} {node : CallNode}
    (whole : ¬forest.HasBelow (below + 1) node) {call : Invocation}
    (mem : call ∈ forest.callsWithin more node) : call ∈ forest.callsWithin below node := by
  obtain ⟨steps, -, other, path, shown⟩ := mem_callsWithin.1 mem
  refine mem_callsWithin.2 ⟨steps, ?_, other, path, shown⟩
  by_contra less
  exact whole (path.exists_at (Nat.lt_of_not_le less))

/-- As many levels as there are nodes show everything. -/
theorem callsWithin_nodeCount {more : Nat} {node : CallNode} (reachable : forest.Reachable node)
    {call : Invocation} (mem : call ∈ forest.callsWithin more node) :
    call ∈ forest.callsWithin forest.nodeCount node := by
  obtain ⟨steps, -, other, path, shown⟩ := mem_callsWithin.1 mem
  obtain ⟨fewer, le, path⟩ := exists_steps_le reachable path
  exact mem_callsWithin.2 ⟨fewer, le, other, path, shown⟩

/-! ## The shallowest cut -/

/-- The calls up to some depth fulfil a query. -/
def FulfilledWithin (forest : Forest) (query : Query) (node : CallNode) (below : Nat) : Prop :=
  query.isFulfilledBy (.ofCalls (forest.callsWithin below node)) = true

/-- The calls up to some depth fulfil a query, and no fewer levels do. -/
def ShallowestAt (forest : Forest) (query : Query) (node : CallNode) (below : Nat) : Prop :=
  forest.FulfilledWithin query node below ∧
    ∀ less < below, ¬forest.FulfilledWithin query node less

theorem FulfilledWithin.of_calls {query : Query} {node : CallNode} {below more : Nat}
    (h : forest.FulfilledWithin query node below)
    (sub : ∀ call ∈ forest.callsWithin below node, call ∈ forest.callsWithin more node) :
    forest.FulfilledWithin query node more :=
  query.isFulfilledBy_mono (Summary.of_calls _) (Summary.of_calls _) sub h

theorem ShallowestAt.unique {query : Query} {node : CallNode} {below other : Nat}
    (h : forest.ShallowestAt query node below) (h' : forest.ShallowestAt query node other) :
    below = other := by
  by_contra apart
  rcases Nat.lt_or_gt_of_ne apart with less | less
  · exact h'.2 below less h.1
  · exact h.2 other less h'.1

/-- A query that is fulfilled at some depth is so at a shallowest, which is no greater than the
number of nodes. -/
theorem FulfilledWithin.exists_shallowestAt {query : Query} {node : CallNode}
    (reachable : forest.Reachable node) {below : Nat}
    (h : forest.FulfilledWithin query node below) :
    ∃ least ≤ forest.nodeCount, forest.ShallowestAt query node least := by
  classical
  have bounded : forest.FulfilledWithin query node forest.nodeCount :=
    h.of_calls fun _ => callsWithin_nodeCount reachable
  have some : ∃ below, forest.FulfilledWithin query node below := ⟨_, bounded⟩
  exact ⟨Nat.find some, Nat.find_min' some bounded, Nat.find_spec some,
    fun less before => Nat.find_min some before⟩

theorem shallowestFrom_succ {query : Query} {node : CallNode} {depths depth : Nat}
    {memo memo' : ExcerptItem.Memo} {summary : Summary}
    (run : (forest.cut node depth).excerpt.summarize.run memo = (summary, memo')) :
    forest.shallowestFrom node query (depths + 1) depth memo =
      if query.isFulfilledBy summary then some (forest.cut node depth).excerpt
      else if (forest.cut node depth).hasDeeper then
        forest.shallowestFrom node query depths (depth + 1) memo'
      else none := by
  rw [shallowestFrom]
  simp only [run]

section Shallowest

variable (shares : forest.SharesBodies) {query : Query} {node : CallNode}
  (reachable : forest.Reachable node)

include shares reachable

/-- Trying depth after depth, from one below which the query is not fulfilled, gives the
shallowest cut if it is among those tried. -/
theorem shallowestFrom_eq_some_iff {depths below : Nat} {memo : ExcerptItem.Memo}
    (right : forest.RightMemo memo)
    (before : ∀ less < below, ¬forest.FulfilledWithin query node less) {excerpt : Excerpt} :
    forest.shallowestFrom node query depths (below + 1) memo = some excerpt ↔
      ∃ least < below + depths, forest.ShallowestAt query node least ∧
        excerpt = forest.unfolded least node := by
  induction depths generalizing below memo with
  | zero =>
      simp only [shallowestFrom, reduceCtorEq, false_iff, not_exists, not_and]
      exact fun least less shallowest => absurd shallowest.1 (before least less)
  | succ depths ih =>
      obtain ⟨summary, right'⟩ := settles_unfolded shares reachable below memo right
      have run : (forest.cut node (below + 1)).excerpt.summarize.run memo =
          (.ofCalls (forest.callsWithin below node),
            ((forest.unfolded below node).summarize memo).2) := by
        rw [cut_excerpt shares reachable]
        exact Prod.ext summary rfl
      rw [shallowestFrom_succ run]
      split
      · next fulfilled =>
        rw [cut_excerpt shares reachable, Option.some.injEq]
        have here : forest.ShallowestAt query node below := ⟨fulfilled, before⟩
        constructor
        · rintro rfl
          exact ⟨below, by omega, here, rfl⟩
        · rintro ⟨least, -, shallowest, rfl⟩
          rw [here.unique shallowest]
      · next unfulfilled =>
        have before' : ∀ less < below + 1, ¬forest.FulfilledWithin query node less := by
          intro less lt
          by_cases last : less = below
          · exact last ▸ unfulfilled
          · exact before less (by omega)
        split
        · rw [ih right' before', Nat.add_right_comm, Nat.add_assoc]
        · next shown =>
          -- No node is left out, so the calls of any depth are those tried last.
          rw [cut_hasDeeper_iff shares reachable] at shown
          simp only [reduceCtorEq, false_iff, not_exists, not_and]
          exact fun least _ shallowest => absurd
            (shallowest.1.of_calls fun _ => callsWithin_of_not_hasBelow shown) unfulfilled

/-- The shallowest cut of a node is the node written out to the least depth at which its calls
fulfil the query, if that is no greater than allowed. -/
theorem shallowestCut?_eq_some_iff {maxDepth : Option Nat} {excerpt : Excerpt} :
    forest.shallowestCut? node query maxDepth = some excerpt ↔
      ∃ least, (∀ bound, maxDepth = some bound → least < bound) ∧
        forest.ShallowestAt query node least ∧ excerpt = forest.unfolded least node := by
  rw [shallowestCut?, shallowestFrom_eq_some_iff shares reachable (by rintro _ _ _ ⟨⟩)
    fun less lt => absurd lt (Nat.not_lt_zero less)]
  refine exists_congr fun least => ?_
  rw [Nat.zero_add]
  cases maxDepth with
  | some bound => simp
  | none =>
      simp only [Option.getD_none, reduceCtorEq, false_implies, implies_true, true_and,
        and_iff_right_iff_imp]
      rintro ⟨shallowest, -⟩
      obtain ⟨other, le, shallowest'⟩ := shallowest.1.exists_shallowestAt reachable
      rw [shallowest.unique shallowest']
      exact Nat.lt_succ_of_le le

end Shallowest

/-- Forests that agree have the same shallowest cuts. -/
theorem shallowestCut?_eq_of_agrees {other : Forest} (agrees : forest.Agrees other)
    (shares : forest.SharesBodies) {node : CallNode} (reachable : forest.Reachable node)
    (query : Query) (maxDepth : Option Nat) :
    other.shallowestCut? node query maxDepth = forest.shallowestCut? node query maxDepth := by
  have calls : ∀ below, other.callsWithin below node = forest.callsWithin below node := fun below => by
    rw [callsWithin, callsWithin, agrees.unfold below reachable]
  have shallowest : ∀ below, other.ShallowestAt query node below ↔
      forest.ShallowestAt query node below := fun below => by
    simp only [ShallowestAt, FulfilledWithin, calls]
  refine Option.ext fun excerpt => ?_
  rw [shallowestCut?_eq_some_iff (agrees.sharesBodies shares) (agrees.reachable_iff.2 reachable),
    shallowestCut?_eq_some_iff shares reachable]
  simp only [shallowest, unfolded, agrees.unfold _ reachable]

end Forest

end CallSearch
