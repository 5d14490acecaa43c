/-
# CallSearch.Proofs.Forest.Numbers — bodies are numbered by their keys

A body is stored when all its nodes have their numbers, so numbers go down from a
body to its nodes.  Nothing is stored under the key of a method while the method is
being expanded, so a key gets its number once (`Numbered`).  Expanding a call keeps
this whatever the trees are, and within a context it adds keys of that context only
(`Arena.GrowsIn`): `numbers_node`.  What holds of the bodies then holds of the call
trees of entry points, which get their contexts from the recursive methods found:
`build_invariant`.
-/
import CallSearch.Proofs.Forest.Depth
import CallSearch.Proofs.Forest.Shape

namespace CallSearch.Forest

set_option autoImplicit false

/-- The second arena extends the first, and what is new belongs to methods that were not being
expanded, and to the context around if there is one. -/
structure Arena.GrowsIn (expanding : List Signature) (context : Option Signature)
    (small large : Arena) : Prop where
  extend : small.Extends large
  added : ∀ key, large.Stored key → small.Stored key ∨
    key.callee ∉ expanding ∧ ∀ head, context = some head → key.context = some head

theorem Arena.GrowsIn.refl (expanding : List Signature) (context : Option Signature) (arena : Arena) :
    arena.GrowsIn expanding context arena :=
  ⟨.refl arena, fun _ stored => Or.inl stored⟩

theorem Arena.GrowsIn.trans {expanding : List Signature} {context : Option Signature}
    {first second third : Arena} (h : first.GrowsIn expanding context second)
    (h' : second.GrowsIn expanding context third) : first.GrowsIn expanding context third where
  extend := h.extend.trans h'.extend
  added key stored := (h'.added key stored).elim (h.added key) Or.inr

theorem Arena.GrowsIn.imp {expanding others : List Signature} {context other : Option Signature}
    {small large : Arena} (h : small.GrowsIn expanding context large)
    (sub : ∀ method ∈ others, method ∈ expanding)
    (within : ∀ head, other = some head → context = some head) :
    small.GrowsIn others other large where
  extend := h.extend
  added key stored := (h.added key stored).imp_right fun ⟨off, inside⟩ =>
    ⟨fun mem => off (sub _ mem), fun head same => inside head (within head same)⟩

/-- Nothing is stored for a method that is being expanded. -/
theorem Arena.GrowsIn.absent {expanding : List Signature} {context : Option Signature}
    {small large : Arena} (h : small.GrowsIn expanding context large) (key : NodeKey)
    (pending : key.callee ∈ expanding) (absent : small.numbers.get? key = none) :
    large.numbers.get? key = none := by
  refine Arena.not_stored_iff.1 fun stored => ?_
  rcases h.added key stored with old | ⟨off, -⟩
  · exact Arena.not_stored_iff.2 absent old
  · exact off pending

namespace Source

variable (source : Source)

/-- A node below a context has the number of its key, and the context it should have. -/
def IsChild (arena : Arena) (context : Option Signature) (node : CallNode) : Prop :=
  arena.numbers.get? node.key = some node.body ∧
    node.context = source.contextOf context node.callee

/-- What holds of the stored bodies at any time. -/
structure Numbered (arena : Arena) : Prop where
  stored : ∀ {key number}, arena.numbers.get? key = some number →
    ∃ body, arena.bodies[number]? = some body ∧
      ∀ node, .call node ∈ body.leaves → node.body < number ∧
        source.IsChild arena key.context node
  unique : ∀ {key other number}, arena.numbers.get? key = some number →
    arena.numbers.get? other = some number → key = other
  numbered : ∀ {number}, number < arena.bodies.length →
    ∃ key, arena.numbers.get? key = some number

/-- What the node of a call and the arena it leaves should be, while some methods are being
expanded. -/
structure IsNumbered (expanding : List Signature) (call : Invocation)
    (context : Option Signature) (before : Arena) (result : CallNode × Arena) : Prop where
  sameCall : result.1.call = call
  sameContext : result.1.context = context
  number : result.2.numbers.get? result.1.key = some result.1.body
  numbered : source.Numbered result.2
  grows : before.GrowsIn expanding context result.2

/-- What expanding a node should do while some methods are being expanded. -/
def Numbers (expanding : List Signature)
    (expand : Invocation → Option Signature → StateM Arena CallNode) : Prop :=
  ∀ call context arena, call.callee ∉ expanding → source.Numbered arena →
    source.IsNumbered expanding call context arena (expand call context arena)

variable {source}

theorem numbered_empty : source.Numbered Arena.empty where
  stored := by rintro _ _ ⟨⟩
  unique := by rintro _ _ _ ⟨⟩
  numbered inside := absurd inside (Nat.not_lt_zero _)

theorem IsChild.extend {small large : Arena} {context : Option Signature} {node : CallNode}
    (h : source.IsChild small context node) (more : small.Extends large) :
    source.IsChild large context node :=
  ⟨more.numbers h.1, h.2⟩

theorem Numbered.lt_length {arena : Arena} (h : source.Numbered arena) {key : NodeKey}
    {number : Nat} (found : arena.numbers.get? key = some number) :
    number < arena.bodies.length := by
  obtain ⟨body, here, -⟩ := h.stored found
  exact (List.getElem?_eq_some_iff.1 here).1

/-- Storing a finished body under a key that has none. -/
theorem Numbered.push {arena : Arena} (h : source.Numbered arena) {key : NodeKey}
    (fresh : arena.numbers.get? key = none) {body : Tree CallItem}
    (children : ∀ node, .call node ∈ body.leaves → source.IsChild arena key.context node) :
    source.Numbered (arena.push key body) := by
  have more := Arena.extends_push fresh body
  refine ⟨fun {other number} found => ?_, fun {other another number} found found' => ?_,
    fun {number} inside => ?_⟩
  · rw [Arena.get?_push] at found
    split at found
    · next same =>
      subst same
      cases found
      exact ⟨body, by simp [Arena.push], fun node mem =>
        ⟨h.lt_length (children node mem).1, (children node mem).extend more⟩⟩
    · obtain ⟨old, here, below⟩ := h.stored found
      exact ⟨old, more.bodies here, fun node mem =>
        ⟨(below node mem).1, (below node mem).2.extend more⟩⟩
  · rw [Arena.get?_push] at found found'
    split at found <;> split at found'
    · next same same' => rw [same, same']
    · cases found
      exact absurd (h.lt_length found') (Nat.lt_irrefl _)
    · cases found'
      exact absurd (h.lt_length found) (Nat.lt_irrefl _)
    · exact h.unique found found'
  · rw [Arena.push, List.length_append, List.length_singleton] at inside
    by_cases last : number = arena.bodies.length
    · exact ⟨key, by rw [Arena.get?_push, if_pos rfl, last]⟩
    · obtain ⟨other, found⟩ := h.numbered (Nat.lt_of_le_of_ne (Nat.le_of_lt_succ inside) last)
      exact ⟨other, more.numbers found⟩

/-! ## One call -/

/-- The effect of expanding calls, or the alternatives of a call, inside some methods and a
context. -/
def numberEffect (source : Source) (expanding : List Signature) (context : Option Signature)
    {α : Type} (shape : α → Tree CallItem) : Effect Arena α (Tree CallItem) CallItem where
  parts := Tree.leaves
  inv := source.Numbered
  step := fun small _ large => small.GrowsIn expanding context large
  idle := .refl expanding context
  append := .trans
  related := fun arena item part => part.map CallItem.unnumbered = shape item ∧
    ∀ node, .call node ∈ part.leaves → source.IsChild arena context node
  keep := fun ⟨same, children⟩ grows =>
    ⟨same, fun node mem => (children node mem).extend grows.extend⟩

variable {expanding : List Signature} {context : Option Signature}
  {expand : Invocation → Option Signature → StateM Arena CallNode}

theorem numbers_alternative (numbers : source.Numbers expanding expand) (call : Invocation)
    (target : Signature) :
    (source.numberEffect expanding context
        (alternativeShape source.trees expanding (source.contextOf context) call)).Holds
      (source.alternative expanding context expand call) target := by
  intro arena numbered
  by_cases bare : target ∈ expanding ∨ source.trees.contains target = false
  · rw [alternative_eq_of_bare bare]
    refine ⟨numbered, .refl expanding context arena, ?_, fun node mem => ?_⟩
    · rw [alternativeShape, if_pos bare]
      exact Tree.map_leaf _ _
    · change CallItem.call node ∈ (Tree.leaf (CallItem.invoked _)).leaves at mem
      simp [Tree.leaves] at mem
  · obtain ⟨fresh, contained⟩ := not_or.1 bare
    rw [Bool.not_eq_false] at contained
    rw [alternative_eq_of_expanded fresh contained]
    have all := numbers (call.retarget target) (source.contextOf context target) arena fresh numbered
    refine ⟨all.numbered, all.grows.imp (fun _ mem => mem) ?_, ?_, fun node mem => ?_⟩
    · rintro head rfl
      rfl
    · rw [alternativeShape, if_neg bare]
      refine (Tree.map_leaf _ _).trans ?_
      rw [CallItem.unnumbered, all.sameCall, all.sameContext]
    · change CallItem.call node ∈ (Tree.leaf (CallItem.call _)).leaves at mem
      rw [Tree.leaves, List.mem_singleton, CallItem.call.injEq] at mem
      subst mem
      refine ⟨all.number, ?_⟩
      rw [CallNode.callee, all.sameCall, all.sameContext]
      rfl

/-- Normalizing the parts that stand for some items. -/
theorem normalize_of_children {arena : Arena} {tree : Tree CallItem}
    (children : ∀ node, .call node ∈ tree.leaves → source.IsChild arena context node) :
    tree.normalize.map CallItem.unnumbered = (tree.map CallItem.unnumbered).normalize ∧
      ∀ node, .call node ∈ tree.normalize.leaves → source.IsChild arena context node :=
  ⟨(Arena.normalize_unnumbered fun _ mem node same => (children node (same ▸ mem)).1).symm,
    fun node mem => children node (Tree.mem_leaves_of_normalize mem)⟩

theorem numbers_callTree (numbers : source.Numbers expanding expand) (call : Invocation) :
    (source.numberEffect expanding context
        (callShape source.trees source.dispatch expanding (source.contextOf context))).Holds
      (source.callTree expanding context expand) call := by
  intro arena numbered
  rw [callTree_eq, numberEffect]
  dsimp only
  rw [callShape]
  by_cases nowhere : source.dispatch.resolve call = []
  · rw [if_pos nowhere, if_pos nowhere]
    exact ⟨numbered, .refl expanding context arena, Tree.map_leaf _ _,
      fun node mem => by simp [Tree.leaves] at mem⟩
  · rw [if_neg nowhere, if_neg nowhere]
    have each : ∀ target ∈ source.dispatch.resolve call, (source.numberEffect expanding context
        (alternativeShape source.trees expanding (source.contextOf context) call)).Holds
          (source.alternative expanding context expand call) target :=
      fun target _ => numbers_alternative numbers call target
    obtain ⟨numbered', grows, all⟩ := Effect.mapM _ each numbered
    generalize (source.dispatch.resolve call).mapM
      (source.alternative expanding context expand call) arena = run at numbered' grows all ⊢
    have shapes : List.Forall₂ (· = ·) _ _ := List.forall₂_map_left_iff.2
      (List.forall₂_map_right_iff.2 (all.imp fun _ _ related => related.1).flip)
    rw [List.forall₂_eq_eq_eq] at shapes
    have below : ∀ node, .call node ∈ (Tree.alt run.1).leaves →
        source.IsChild run.2 context node := by
      intro node mem
      obtain ⟨part, listed, here⟩ := Tree.mem_leaves_alt.1 mem
      obtain ⟨target, -, -, children⟩ := exists_left_of_mem all listed
      exact children node here
    obtain ⟨same, children⟩ := normalize_of_children below
    refine ⟨numbered', grows, same.trans ?_, children⟩
    rw [Tree.map_alt, shapes]

/-- Expanding the body of a method, which is then known up to numbers. -/
theorem numbers_body (context : Option Signature) (numbers : source.Numbers expanding expand) (tree : Tree Invocation)
    {arena : Arena} (numbered : source.Numbered arena) :
    let result := tree.flatMapM (source.callTree expanding context expand) arena
    source.Numbered result.2 ∧ arena.GrowsIn expanding context result.2 ∧
      result.1.normalize.map CallItem.unnumbered =
        bodyShape source.trees source.dispatch expanding (source.contextOf context) tree ∧
      ∀ node, .call node ∈ result.1.normalize.leaves → source.IsChild result.2 context node := by
  obtain ⟨numbered', grows, expands⟩ := Tree.expands_flatMapM
    (source.numberEffect expanding context _) rfl tree
    (fun call _ => numbers_callTree numbers call) numbered
  obtain ⟨same, children⟩ := normalize_of_children fun node mem => by
    obtain ⟨_, -, part, ⟨-, children⟩, here⟩ := expands.exists_leaf mem
    exact children node here
  refine ⟨numbered', grows, same.trans ?_, children⟩
  rw [bodyShape, (expands.imp fun _ _ related => related.1).map_eq]

/-! ## Nodes -/

/-- Storing the body of a key that had none. -/
theorem isNumbered_push {call : Invocation} {before arena : Arena} {body : Tree CallItem}
    (outside : call.callee ∉ expanding)
    (absent : before.numbers.get? ⟨call.callee, context⟩ = none) (numbered : source.Numbered arena)
    (grows : before.GrowsIn (call.callee :: expanding) context arena)
    (children : ∀ node, .call node ∈ body.leaves → source.IsChild arena context node) :
    source.IsNumbered expanding call context before
      (⟨call, context, arena.bodies.length⟩, arena.push ⟨call.callee, context⟩ body) := by
  have fresh := grows.absent ⟨call.callee, context⟩ List.mem_cons_self absent
  refine ⟨rfl, rfl, ?_, numbered.push fresh children,
    grows.extend.trans (Arena.extends_push fresh body), fun key stored => ?_⟩
  · rw [Arena.get?_push]
    exact if_pos rfl
  · rcases Arena.stored_push.1 stored with rfl | stored
    · exact Or.inr ⟨outside, fun head same => same⟩
    · exact (grows.added key stored).imp_right fun ⟨off, inside⟩ =>
        ⟨fun mem => off (List.mem_cons_of_mem _ mem), inside⟩

/-- A node that needs no further call: its body is stored, or is empty. -/
theorem isNumbered_node_of_bare {depth : Nat} {call : Invocation} {arena : Arena}
    (outside : call.callee ∉ expanding) (numbered : source.Numbered arena)
    (bare : arena.Stored ⟨call.callee, context⟩ ∨ depth = 0 ∨
      source.trees.get? call.callee = none) :
    source.IsNumbered expanding call context arena
      (source.node depth expanding call context arena) := by
  cases present : arena.numbers.get? ⟨call.callee, context⟩ with
  | some number =>
      rw [node_eq_of_stored present]
      exact ⟨rfl, rfl, present, numbered, .refl expanding context arena⟩
  | none =>
      rw [node_eq_of_bare present (bare.resolve_left (Arena.not_stored_iff.2 present))]
      exact isNumbered_push outside present numbered (.refl _ context arena)
        (by simp [Tree.empty, Tree.leaves, Tree.leavesOfAll])

/-- Expanding nodes numbers bodies by their keys, whatever the trees and the depth. -/
theorem numbers_node (source : Source) (depth : Nat) (expanding : List Signature) :
    source.Numbers expanding (source.node depth expanding) := by
  induction depth generalizing expanding with
  | zero =>
      intro call context arena outside numbered
      exact isNumbered_node_of_bare outside numbered (Or.inr (Or.inl rfl))
  | succ depth ih =>
      intro call context arena outside numbered
      cases present : arena.numbers.get? ⟨call.callee, context⟩ with
      | some number => exact isNumbered_node_of_bare outside numbered (Or.inl ⟨number, present⟩)
      | none =>
          cases found : source.trees.get? call.callee with
          | none => exact isNumbered_node_of_bare outside numbered (Or.inr (Or.inr found))
          | some tree =>
              obtain ⟨numbered', grows, -, children⟩ := numbers_body context (ih _) tree numbered
              rw [node_eq_of_fresh present found]
              exact isNumbered_push outside present numbered' grows children

/-- A key that has no body gets one with the shape of its tree, after the calls of the tree were
expanded. -/
theorem exists_push_of_fresh (depth : Nat) (expanding : List Signature) {call : Invocation}
    {arena : Arena} {tree : Tree Invocation} (numbered : source.Numbered arena)
    (absent : arena.numbers.get? ⟨call.callee, context⟩ = none)
    (found : source.trees.get? call.callee = some tree) :
    let after := (tree.flatMapM (source.callTree (call.callee :: expanding) context
      (source.node depth (call.callee :: expanding))) arena).2
    ∃ body, (source.node (depth + 1) expanding call context arena).2 =
        after.push ⟨call.callee, context⟩ body ∧
      after.numbers.get? ⟨call.callee, context⟩ = none ∧
      body.map CallItem.unnumbered =
        bodyShape source.trees source.dispatch (call.callee :: expanding) (source.contextOf context)
          tree := by
  obtain ⟨-, grows, shape, -⟩ := numbers_body context (numbers_node source depth _) tree numbered
  refine ⟨_, ?_, grows.absent _ List.mem_cons_self absent, shape⟩
  rw [node_eq_of_fresh absent found]

end Source

/-! ## Call trees of entry points -/

/-- A forest with the bodies of an arena and roots below no context. -/
structure Numbering (source : Source) (forest : Forest) (arena : Arena) : Prop where
  bodies : forest.bodies = arena.bodies
  numbered : source.Numbered arena
  roots : ∀ root ∈ forest.roots, source.IsChild arena none root

/-- The effect of expanding entry points on the numbers of bodies. -/
def rootNumberEffect (source : Source) : Effect Arena Signature CallNode CallNode where
  parts node := [node]
  inv := source.Numbered
  step := fun small _ large => small.Extends large
  idle := .refl
  append := .trans
  related := fun arena root node => node.call = entryCall root ∧ source.IsChild arena none node
  keep := fun ⟨call, child⟩ more => ⟨call, child.extend more⟩

theorem expandRoots_spec (source : Source) (roots : List Signature) :
    source.Numbered (expandRoots source roots).2 ∧
      List.Forall₂ (fun root node => node.call = entryCall root ∧
        source.IsChild (expandRoots source roots).2 none node) roots (expandRoots source roots).1 := by
  have each : ∀ root ∈ roots, (rootNumberEffect source).Holds (fun root =>
      source.node source.trees.size [] (entryCall root) (source.contextOf none root)) root := by
    intro root _ arena numbered
    have all := Source.numbers_node source source.trees.size [] (entryCall root)
      (source.contextOf none root) arena List.not_mem_nil numbered
    refine ⟨all.numbered, all.grows.extend, all.sameCall, all.number, ?_⟩
    rw [CallNode.callee, all.sameCall, all.sameContext]
    rfl
  obtain ⟨numbered, -, children⟩ := (rootNumberEffect source).mapM each Source.numbered_empty
  exact ⟨numbered, children⟩

theorem numbering_expandRoots (source : Source) (roots : List Signature) :
    Numbering source ⟨(expandRoots source roots).1, (expandRoots source roots).2.bodies⟩
      (expandRoots source roots).2 := by
  obtain ⟨numbered, children⟩ := expandRoots_spec source roots
  refine ⟨rfl, numbered, fun root mem => ?_⟩
  obtain ⟨_, -, -, child⟩ := exists_left_of_mem children mem
  exact child

theorem mem_children {forest : Forest} {parent child : CallNode} :
    child ∈ forest.children parent ↔
      ∃ body, forest.bodies[parent.body]? = some body ∧ .call child ∈ body.leaves := by
  have item : ∀ item : CallItem, item.node? = some child ↔ item = .call child := by
    intro item
    cases item <;> simp [CallItem.node?]
  rw [children, List.mem_filterMap, body, body?]
  simp only [item, exists_eq_right]
  cases forest.bodies[parent.body]? with
  | none => simp [Tree.empty, Tree.leaves, Tree.leavesOfAll]
  | some body => simp

namespace Numbering

variable {source : Source} {forest : Forest} {arena : Arena}
  (h : Numbering source forest arena)

include h

/-- The nodes in a body have smaller numbers. -/
theorem isChild_of_mem {number : Nat} {body : Tree CallItem}
    (found : forest.bodies[number]? = some body) {node : CallNode} (mem : .call node ∈ body.leaves) :
    ∃ key, arena.numbers.get? key = some number ∧ node.body < number ∧
      source.IsChild arena key.context node := by
  rw [h.bodies] at found
  obtain ⟨inside, -⟩ := List.getElem?_eq_some_iff.1 found
  obtain ⟨key, stored⟩ := h.numbered.numbered inside
  obtain ⟨other, here, below⟩ := h.numbered.stored stored
  cases found.symm.trans here
  exact ⟨key, stored, below node mem⟩

theorem number {node : CallNode} (mem : node ∈ forest.nodes) :
    arena.numbers.get? node.key = some node.body := by
  rcases mem_nodes.1 mem with root | ⟨body, listed, here⟩
  · exact (h.roots node root).1
  · obtain ⟨number, found⟩ := List.mem_iff_getElem?.1 listed
    obtain ⟨key, -, -, child⟩ := h.isChild_of_mem found here
    exact child.1

/-- Two nodes share a body if and only if they have the same key. -/
theorem body_eq_iff {node other : CallNode} (mem : node ∈ forest.nodes)
    (mem' : other ∈ forest.nodes) : node.body = other.body ↔ node.key = other.key := by
  have found := h.number mem
  have found' := h.number mem'
  constructor
  · intro same
    exact h.numbered.unique found (same ▸ found')
  · intro same
    rw [same] at found
    exact Option.some.inj (found.symm.trans found')

theorem isChild {parent child : CallNode} (mem : parent ∈ forest.nodes)
    (below : child ∈ forest.children parent) : source.IsChild arena parent.context child := by
  obtain ⟨body, found, here⟩ := mem_children.1 below
  obtain ⟨key, stored, -, isChild⟩ := h.isChild_of_mem found here
  obtain rfl := h.numbered.unique stored (h.number mem)
  exact isChild

end Numbering

/-- A method is recursive below some entry points: it is found from one of them. -/
def RecursiveBelow (config : AnalysisConfig) (trees : MethodTrees) (dispatch : Dispatch)
    (entryPoints : List Signature) (method : Signature) : Prop :=
  ∃ entryPoint ∈ entryPoints, ∃ methods,
    recursiveMethods trees dispatch config.directRecursion entryPoint = .ok methods ∧
      method ∈ methods

/-- The context of a node that has none around it. -/
def StartsContext (config : AnalysisConfig) (trees : MethodTrees) (dispatch : Dispatch)
    (entryPoints : List Signature) (node : CallNode) : Prop :=
  (RecursiveBelow config trees dispatch entryPoints node.callee →
      node.context = some node.callee) ∧
    (¬RecursiveBelow config trees dispatch entryPoints node.callee → node.context = none)

section Contexts

variable {config : AnalysisConfig} {trees : MethodTrees} {dispatch : Dispatch}
  {entryPoints roots : List Signature}
  (resolved : List.Forall₂
    (fun entryPoint root => resolveEntry trees dispatch entryPoint = .ok root) entryPoints roots)

include resolved

theorem recursiveBelow_iff {method : Signature} :
    RecursiveBelow config trees dispatch entryPoints method ↔
      method ∈ (sourceOf config trees dispatch roots).recursive := by
  have search : ∀ {entryPoint root}, resolveEntry trees dispatch entryPoint = .ok root →
      recursiveMethods trees dispatch config.directRecursion entryPoint =
        .ok ((CallGraph.ofTrees trees dispatch).recursiveFrom config.directRecursion root) := by
    intro entryPoint root found
    rw [recursiveMethods, found]
    rfl
  rw [sourceOf, mem_sortUnique, List.mem_flatMap]
  constructor
  · rintro ⟨entryPoint, listed, methods, found, mem⟩
    obtain ⟨root, listed', found'⟩ := exists_right_of_mem resolved listed
    cases found.symm.trans (search found')
    exact ⟨root, listed', mem⟩
  · rintro ⟨root, listed, mem⟩
    obtain ⟨entryPoint, listed', found⟩ := exists_left_of_mem resolved listed
    exact ⟨entryPoint, listed', _, search found, mem⟩

theorem startsContext {arena : Arena} {node : CallNode}
    (child : (sourceOf config trees dispatch roots).IsChild arena none node) :
    StartsContext config trees dispatch entryPoints node := by
  have context := child.2
  rw [Source.contextOf_none] at context
  exact ⟨fun recursive => by rwa [if_pos ((recursiveBelow_iff resolved).1 recursive)] at context,
    fun plain => by rwa [if_neg (plain ∘ (recursiveBelow_iff resolved).2)] at context⟩

end Contexts

/-- Building call trees ends, and in the call trees built numbers go down from a body to its
nodes, nodes share a body if and only if they agree on callee and context, contexts are handed
down, and where there is none a recursive method starts its own. -/
theorem build_invariant (config : AnalysisConfig) (trees : MethodTrees) (dispatch : Dispatch)
    (entryPoints : List Signature) :
    (∀ deeper bottom rounds, trees.size ≤ rounds →
      buildWith (fun graph => graph.unrollDig config.directRecursion deeper rounds)
          (fun source => source.unroll bottom rounds []) trees dispatch entryPoints =
        build config trees dispatch entryPoints) ∧
    ∀ forest, (build config trees dispatch entryPoints).result = .ok forest →
      (∀ (number : Nat) (body : Tree CallItem), forest.bodies[number]? = some body →
        ∀ node, .call node ∈ body.leaves → node.body < number) ∧
      (∀ root ∈ forest.roots, root.body < forest.bodies.length) ∧
      (∀ node ∈ forest.nodes, ∀ other ∈ forest.nodes,
        node.body = other.body ↔ node.key = other.key) ∧
      (∀ parent ∈ forest.nodes, ∀ child ∈ forest.children parent, ∀ context,
        parent.context = some context → child.context = some context) ∧
      ∀ node, (node ∈ forest.roots ∨
          ∃ parent ∈ forest.nodes, parent.context = none ∧ node ∈ forest.children parent) →
        StartsContext config trees dispatch entryPoints node := by
  refine ⟨fun deeper bottom rounds enough =>
    buildWith_unroll config deeper bottom dispatch entryPoints enough, fun forest built => ?_⟩
  obtain ⟨roots, resolved, rfl⟩ := exists_roots_of_build built
  have h := numbering_expandRoots (sourceOf config trees dispatch roots) roots
  refine ⟨fun number body found node mem => ?_, fun root mem => ?_,
    fun node mem other mem' => h.body_eq_iff mem mem',
    fun parent mem child below context inside => ?_, fun node starts => ?_⟩
  · obtain ⟨_, -, less, -⟩ := h.isChild_of_mem found mem
    exact less
  · exact h.numbered.lt_length (h.roots root mem).1
  · have handed := (h.isChild mem below).2
    rwa [inside] at handed
  · rcases starts with root | ⟨parent, mem, plain, below⟩
    · exact startsContext resolved (h.roots node root)
    · exact startsContext resolved (plain ▸ h.isChild mem below)

open CallGraph in
/-- The methods that call each other below `main` start contexts, `main` does not. -/
theorem build_invariant_sample :
    ∃ forest, (build {} sampleTrees sampleDispatch [sampleMethod "main"]).result = .ok forest ∧
      forest.roots.length = 1 ∧
      (∀ root ∈ forest.roots, root.body < forest.bodies.length ∧
        StartsContext {} sampleTrees sampleDispatch [sampleMethod "main"] root) ∧
      ∀ node ∈ forest.nodes, ∀ other ∈ forest.nodes,
        node.body = other.body ↔ node.key = other.key := by
  have rooted : (match (build {} sampleTrees sampleDispatch [sampleMethod "main"]).result with
      | .ok forest => forest.roots.length
      | .error _ => 0) = 1 := by decide +kernel
  cases built : (build {} sampleTrees sampleDispatch [sampleMethod "main"]).result with
  | error failure =>
      rw [built] at rooted
      cases rooted
  | ok forest =>
      rw [built] at rooted
      obtain ⟨-, inRange, shared, -, starts⟩ :=
        (build_invariant {} sampleTrees sampleDispatch [sampleMethod "main"]).2 forest built
      exact ⟨forest, rfl, rooted,
        fun root mem => ⟨inRange root mem, starts root (Or.inl mem)⟩, shared⟩

end CallSearch.Forest
