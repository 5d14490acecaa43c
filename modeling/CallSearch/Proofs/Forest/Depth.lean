/-
# CallSearch.Proofs.Forest.Depth — expanding calls ends

A node asks for the nodes of the calls in its body, with its method added to those
being expanded; `Source.unrolled` is one round of this recursion.  Only methods with
trees are expanded, and none inside itself, so no round is started inside as many
others as there are trees: what stands in the place of the rounds below makes no
difference (`buildWith_unroll`).
-/
import CallSearch.Proofs.CallGraph.Depth
import CallSearch.Proofs.Forest.Build

namespace CallSearch.Forest

set_option autoImplicit false

namespace Source

/-- One round of the recursion of `node`, with `expand` in the place of the rounds inside it. -/
def unrolled (source : Source)
    (expand : List Signature → Invocation → Option Signature → StateM Arena CallNode)
    (expanding : List Signature) (call : Invocation) (context : Option Signature) :
    StateM Arena CallNode := do
  let key : NodeKey := ⟨call.callee, context⟩
  match (← get).numbers.get? key with
  | some body => return ⟨call, context, body⟩
  | none =>
      let body ←
        match source.trees.get? call.callee with
        | some tree => do
            let expanding := call.callee :: expanding
            let expanded ← tree.flatMapM (source.callTree expanding context (expand expanding))
            pure expanded.normalize
        | none => pure .empty
      let number := (← get).bodies.length
      modify (·.push key body)
      return ⟨call, context, number⟩

/-- Some rounds of the recursion of `node` inside each other, with `bottom` inside the last. -/
def unroll (source : Source)
    (bottom : List Signature → Invocation → Option Signature → StateM Arena CallNode) :
    Nat → List Signature → Invocation → Option Signature → StateM Arena CallNode
  | 0 => bottom
  | rounds + 1 => source.unrolled (source.unroll bottom rounds)

variable {source : Source}

theorem node_succ (depth : Nat) : source.node (depth + 1) = source.unrolled (source.node depth) := by
  funext expanding call context
  rw [node, unrolled]
  cases source.trees.get? call.callee <;> rfl

theorem node_eq_unroll (depth : Nat) : source.node depth = source.unroll (source.node 0) depth := by
  induction depth with
  | zero => rfl
  | succ depth ih => rw [node_succ, ih, unroll]

/-! ## Rounds that agree -/

section Congr

variable {expanding : List Signature} {context : Option Signature}

/-- The tree of a call depends on the expansion of the targets that are expanded alone. -/
theorem callTree_congr {expand other : Invocation → Option Signature → StateM Arena CallNode}
    {call : Invocation}
    (same : ∀ bound context, bound.callee ∉ expanding → source.trees.contains bound.callee = true →
      expand bound context = other bound context) :
    source.callTree expanding context expand call =
      source.callTree expanding context other call := by
  have alternatives : (source.dispatch.resolve call).mapM
        (source.alternative expanding context expand call) =
      (source.dispatch.resolve call).mapM (source.alternative expanding context other call) := by
    refine mapM_congr fun target _ => ?_
    by_cases bare : target ∈ expanding ∨ source.trees.contains target = false
    · rw [alternative_eq_of_bare bare, alternative_eq_of_bare bare]
    · obtain ⟨fresh, contained⟩ := not_or.1 bare
      rw [Bool.not_eq_false] at contained
      rw [alternative_eq_of_expanded fresh contained, alternative_eq_of_expanded fresh contained,
        same (call.retarget target) _ fresh contained]
  funext arena
  rw [callTree_eq, callTree_eq, alternatives]

theorem unrolled_congr
    {expand other : List Signature → Invocation → Option Signature → StateM Arena CallNode}
    {call : Invocation}
    (same : ∀ bound context, bound.callee ∉ call.callee :: expanding →
      source.trees.contains bound.callee = true →
      expand (call.callee :: expanding) bound context =
        other (call.callee :: expanding) bound context) :
    source.unrolled expand expanding call context =
      source.unrolled other expanding call context := by
  unfold unrolled
  cases source.trees.get? call.callee with
  | none => rfl
  | some tree =>
      simp only [tree.flatMapM_congr fun other _ => callTree_congr same]

end Congr

/-- With a round for every tree that is not being expanded, what is inside the last round is not
reached. -/
theorem unroll_congr
    (bottom other : List Signature → Invocation → Option Signature → StateM Arena CallNode)
    {rounds others : Nat} {expanding : List Signature} {call : Invocation}
    (enter : source.CanEnter expanding call.callee)
    (enough : source.trees.size ≤ rounds + expanding.length)
    (enough' : source.trees.size ≤ others + expanding.length) (context : Option Signature) :
    source.unroll bottom rounds expanding call context =
      source.unroll other others expanding call context := by
  have inside := enter.length_lt
  induction rounds generalizing others expanding call context with
  | zero => omega
  | succ rounds ih =>
      obtain ⟨others, rfl⟩ : ∃ n, others = n + 1 := ⟨others - 1, by omega⟩
      rw [unroll, unroll]
      refine unrolled_congr fun bound context fresh contains => ?_
      have enter' := enter.cons fresh contains
      exact ih enter' (by rw [List.length_cons]; omega) (by rw [List.length_cons]; omega) context
        enter'.length_lt

theorem unroll_eq_node
    (bottom : List Signature → Invocation → Option Signature → StateM Arena CallNode)
    {rounds : Nat} {expanding : List Signature} {call : Invocation}
    (enter : source.CanEnter expanding call.callee)
    (enough : source.trees.size ≤ rounds + expanding.length) (context : Option Signature) :
    source.unroll bottom rounds expanding call context =
      source.node source.trees.size expanding call context := by
  rw [node_eq_unroll]
  exact unroll_congr _ _ enter enough (Nat.le_add_right _ _) context

end Source

/-! ## Call trees of entry points -/

/-- The call trees of some entry points, with cycles searched for by `dig` and the nodes of roots
expanded by `expand`. -/
def buildWith (dig : CallGraph → Signature → CallGraph.Search → CallGraph.Search)
    (expand : Source → Invocation → Option Signature → StateM Arena CallNode)
    (trees : MethodTrees) (dispatch : Dispatch) (entryPoints : List Signature) :
    Logged Failure Forest := do
  let roots ← entryPoints.mapM (resolveEntry trees dispatch ·)
  let graph := CallGraph.ofTrees trees dispatch
  let recursive := sortUnique (roots.flatMap fun root =>
    sortUnique (dig graph root .empty).recursive)
  Logged.notify (.recursiveMethods recursive.length)
  let source : Source := ⟨trees, dispatch, recursive⟩
  let expandRoots : StateM Arena (List CallNode) := roots.mapM fun root =>
    expand source (entryCall root) (source.contextOf none root)
  let (nodes, arena) := expandRoots.run .empty
  return ⟨nodes, arena.bodies⟩

theorem build_eq_buildWith (config : AnalysisConfig) :
    build config = buildWith (fun graph => graph.dig config.directRecursion graph.edges.size)
      fun source => source.node source.trees.size [] :=
  rfl

/-- Building call trees ends: as many rounds of either recursion as there are trees give the call
trees, whatever is done in the place of further rounds. -/
theorem buildWith_unroll (config : AnalysisConfig)
    (deeper : Signature → CallGraph.Search → CallGraph.Search)
    (bottom : List Signature → Invocation → Option Signature → StateM Arena CallNode)
    {trees : MethodTrees} (dispatch : Dispatch) (entryPoints : List Signature) {rounds : Nat}
    (enough : trees.size ≤ rounds) :
    buildWith (fun graph => graph.unrollDig config.directRecursion deeper rounds)
        (fun source => source.unroll bottom rounds []) trees dispatch entryPoints =
      build config trees dispatch entryPoints := by
  rw [build_eq_buildWith]
  refine Logged.bind_congr fun roots found => ?_
  have contained := contains_of_mem_roots (Logged.forall₂_mapM found)
  have dug : ∀ root ∈ roots, (CallGraph.ofTrees trees dispatch).unrollDig config.directRecursion
        deeper rounds root .empty =
      (CallGraph.ofTrees trees dispatch).dig config.directRecursion
        (CallGraph.ofTrees trees dispatch).edges.size root .empty := fun root mem =>
    CallGraph.unrollDig_eq_dig CallGraph.mem_keys_of_edge _ deeper
      (CallGraph.size_edges_le.trans enough) (CallGraph.mem_keys_edges.2 (contained root mem))
  dsimp only
  rw [List.flatMap_congr fun root mem => by rw [dug root mem]]
  refine Logged.bind_congr fun _ _ => ?_
  rw [mapM_congr fun root mem => Source.unroll_eq_node bottom (.nil (contained root mem))
    (enough.trans (Nat.le_add_right _ _)) _]

end CallSearch.Forest
