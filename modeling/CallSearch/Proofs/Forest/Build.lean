/-
# CallSearch.Proofs.Forest.Build — what expanding calls builds

`Sound` is what holds of the stored bodies at any time:

* a body shows the calls of its method, and its nodes are stored before it;
* without a context, every method called is linked, save the method itself;
* within a context, every method called is stored or is being expanded;
* what is stored within a context is linked to the head of the context, once the head
  is stored.

Expanding a call keeps this, and stores nothing that is not linked to the node it
returns (`GrowsBy`).  This is shown for one call, for the body of a node, and by
induction on the depth for nodes: `expander_node`.  Links then follow calls
(`Sound.reaches_of_linksTo`), and where no context is around a key, or it is the head of
its context, every method it reaches has a body linked to it (`Sound.exists_linksTo`).
-/
import CallSearch.Proofs.Forest.Arena
import CallSearch.Proofs.Notice

namespace CallSearch.Forest

set_option autoImplicit false

open Relation

/-- The second arena extends the first, and what is new is linked to one of some items. -/
structure Arena.GrowsBy (small : Arena) (items : List CallItem) (large : Arena) : Prop where
  extend : small.Extends large
  linked : ∀ key, large.Stored key →
    small.Stored key ∨ ∃ node, .call node ∈ items ∧ large.LinksTo node.key key

theorem Arena.GrowsBy.refl (arena : Arena) : arena.GrowsBy [] arena :=
  ⟨.refl arena, fun _ stored => Or.inl stored⟩

theorem Arena.GrowsBy.trans {first second third : Arena} {items more : List CallItem}
    (h : first.GrowsBy items second) (h' : second.GrowsBy more third) :
    first.GrowsBy (items ++ more) third where
  extend := h.extend.trans h'.extend
  linked key stored := by
    rcases h'.linked key stored with stored | ⟨node, mem, link⟩
    · rcases h.linked key stored with stored | ⟨node, mem, link⟩
      · exact Or.inl stored
      · exact Or.inr ⟨node, List.mem_append_left _ mem, link.extend h'.extend⟩
    · exact Or.inr ⟨node, List.mem_append_right _ mem, link⟩

theorem Arena.GrowsBy.of_subset {small large : Arena} {items more : List CallItem}
    (h : small.GrowsBy items large) (sub : ∀ item ∈ items, item ∈ more) :
    small.GrowsBy more large where
  extend := h.extend
  linked key stored := by
    rcases h.linked key stored with stored | ⟨node, mem, link⟩
    · exact Or.inl stored
    · exact Or.inr ⟨node, sub _ mem, link⟩

namespace Source

variable (source : Source)

/-! ## Calls and bodies -/

/-- An item stands for a call: it names a method the call shows and passes its literals. -/
def StandsFor (item : CallItem) (call : Invocation) : Prop :=
  item.invocation.callee ∈ source.dispatch.shown call ∧ item.invocation.literals = call.literals

/-- What stands in the place of a call while the keys of a stack are being expanded. -/
structure IsPart (stack : List NodeKey) (arena : Arena) (call : Invocation)
    (part : Tree CallItem) : Prop where
  feasible : part.Feasible
  stands : ∀ item ∈ part.leaves, source.StandsFor item call
  shown : ∀ callee ∈ source.dispatch.shown call, ∃ item ∈ part.leaves,
    item.invocation.callee = callee ∧ item.invocation.literals = call.literals
  nodes : ∀ node, .call node ∈ part.leaves → arena.numbers.get? node.key = some node.body ∧
    node.context = source.contextOf (contextIn stack) node.callee ∧
    node.callee ∈ source.dispatch.resolve call ∧ source.trees.contains node.callee = true
  targets : ∀ target ∈ source.dispatch.resolve call, source.trees.contains target = true →
    target ∈ stack.map NodeKey.callee ∨ ∃ node, .call node ∈ part.leaves ∧ node.callee = target

/-- What the body of a key with a number holds. -/
structure IsBody (arena : Arena) (key : NodeKey) (number : Nat) (body : Tree CallItem) : Prop where
  stands : ∀ item ∈ body.leaves, ∃ call, HasCall source.trees key.callee call ∧
    source.StandsFor item call
  shown : ∀ call, HasCall source.trees key.callee call → ∀ callee ∈ source.dispatch.shown call,
    ∃ item ∈ body.leaves, item.invocation.callee = callee ∧ item.invocation.literals = call.literals
  nodes : ∀ node, .call node ∈ body.leaves → arena.numbers.get? node.key = some node.body ∧
    node.body < number ∧ node.context = source.contextOf key.context node.callee ∧
    source.Calls key.callee node.callee

/-- Every method called from a key is being expanded or has a node in the body. -/
def Covers (stack : List NodeKey) (key : NodeKey) (body : Tree CallItem) : Prop :=
  ∀ callee, source.Calls key.callee callee → callee ∈ stack.map NodeKey.callee ∨
    ∃ node, .call node ∈ body.leaves ∧
      node.key = ⟨callee, source.contextOf key.context callee⟩

/-- What holds of the stored bodies while the keys of a stack are being expanded. -/
structure Sound (stack : List NodeKey) (arena : Arena) : Prop where
  stored : ∀ key number, arena.numbers.get? key = some number →
    ∃ body, arena.bodies[number]? = some body ∧ source.IsBody arena key number body
  numbered : ∀ number < arena.bodies.length, ∃ key, arena.numbers.get? key = some number
  pending : ∀ key ∈ stack, arena.numbers.get? key = none
  plain : ∀ method, arena.Stored ⟨method, none⟩ → ∀ callee, source.Calls method callee →
    callee = method ∨ arena.Links ⟨method, none⟩ ⟨callee, source.contextOf none callee⟩
  within : ∀ method context, arena.Stored ⟨method, some context⟩ → ∀ callee,
    source.Calls method callee →
    arena.Stored ⟨callee, some context⟩ ∨ ⟨callee, some context⟩ ∈ stack
  headed : ∀ method context, arena.Stored ⟨method, some context⟩ →
    ⟨context, some context⟩ ∈ stack ∨ arena.Stored ⟨context, some context⟩ ∧
      arena.LinksTo ⟨context, some context⟩ ⟨method, some context⟩

variable {source} {live : Signature → Prop}

theorem IsPart.extend {stack : List NodeKey} {small large : Arena} {call : Invocation}
    {part : Tree CallItem} (h : source.IsPart stack small call part) (more : small.Extends large) :
    source.IsPart stack large call part where
  feasible := h.feasible
  stands := h.stands
  shown := h.shown
  nodes node mem := ⟨more.numbers (h.nodes node mem).1, (h.nodes node mem).2⟩
  targets := h.targets

theorem IsBody.extend {small large : Arena} {key : NodeKey} {number : Nat} {body : Tree CallItem}
    (h : source.IsBody small key number body) (more : small.Extends large) :
    source.IsBody large key number body where
  stands := h.stands
  shown := h.shown
  nodes node mem := ⟨more.numbers (h.nodes node mem).1, (h.nodes node mem).2⟩

theorem Sound.lt_length {stack : List NodeKey} {arena : Arena} (sound : source.Sound stack arena)
    {key : NodeKey} {number : Nat} (found : arena.numbers.get? key = some number) :
    number < arena.bodies.length := by
  obtain ⟨body, here, -⟩ := sound.stored key number found
  exact (List.getElem?_eq_some_iff.1 here).1

theorem sound_empty : source.Sound [] Arena.empty where
  stored key number found := by cases found
  numbered number inside := absurd inside (Nat.not_lt_zero _)
  pending key mem := by cases mem
  plain method stored := by obtain ⟨_, found⟩ := stored; cases found
  within method context stored := by obtain ⟨_, found⟩ := stored; cases found
  headed method context stored := by obtain ⟨_, found⟩ := stored; cases found

/-- Starting to expand another key. -/
theorem Sound.enter {stack : List NodeKey} {arena : Arena} (sound : source.Sound stack arena)
    {key : NodeKey} (fresh : arena.numbers.get? key = none) :
    source.Sound (key :: stack) arena where
  stored := sound.stored
  numbered := sound.numbered
  pending other mem := by
    rcases List.mem_cons.1 mem with rfl | mem
    · exact fresh
    · exact sound.pending other mem
  plain := sound.plain
  within method context stored callee called :=
    (sound.within method context stored callee called).imp_right (List.mem_cons_of_mem _)
  headed method context stored :=
    (sound.headed method context stored).imp_left (List.mem_cons_of_mem _)

/-! ## One call -/

/-- What expanding a node should do while the keys of a stack are being expanded. -/
def Expander (source : Source) (live : Signature → Prop) (stack : List NodeKey)
    (expand : Invocation → Option Signature → StateM Arena CallNode) : Prop :=
  ∀ call context arena, source.Enters live stack ⟨call.callee, context⟩ → source.Sound stack arena →
    (expand call context arena).1.call = call ∧ (expand call context arena).1.context = context ∧
      (expand call context arena).2.numbers.get? ⟨call.callee, context⟩ =
        some (expand call context arena).1.body ∧
      source.Sound stack (expand call context arena).2 ∧
      arena.GrowsBy [.call (expand call context arena).1] (expand call context arena).2

/-- The tree of a call on one of the methods it may land on. -/
def alternative (source : Source) (expanding : List Signature) (context : Option Signature)
    (expand : Invocation → Option Signature → StateM Arena CallNode) (call : Invocation)
    (target : Signature) : StateM Arena (Tree CallItem) := do
  if expanding.contains target || !source.trees.contains target then
    return .leaf (.invoked (call.retarget target))
  else
    return .leaf (.call (← expand (call.retarget target) (source.contextOf context target)))

/-- A target that is being expanded or has no tree is not expanded. -/
theorem alternative_eq_of_bare {expanding : List Signature} {context : Option Signature}
    {expand : Invocation → Option Signature → StateM Arena CallNode} {call : Invocation}
    {target : Signature} (bare : target ∈ expanding ∨ source.trees.contains target = false) :
    source.alternative expanding context expand call target =
      pure (.leaf (.invoked (call.retarget target))) := by
  unfold alternative
  rw [if_pos (by simpa [List.contains_iff_mem] using bare)]

/-- Any other target is expanded. -/
theorem alternative_eq_of_expanded {expanding : List Signature} {context : Option Signature}
    {expand : Invocation → Option Signature → StateM Arena CallNode} {call : Invocation}
    {target : Signature} (fresh : target ∉ expanding)
    (contained : source.trees.contains target = true) :
    source.alternative expanding context expand call target =
      (fun node => .leaf (.call node)) <$>
        expand (call.retarget target) (source.contextOf context target) := by
  unfold alternative
  rw [if_neg (by simpa [List.contains_iff_mem, contained] using fresh)]
  rfl

theorem callTree_eq (expanding : List Signature) (context : Option Signature)
    (expand : Invocation → Option Signature → StateM Arena CallNode) (call : Invocation)
    (arena : Arena) :
    source.callTree expanding context expand call arena =
      if source.dispatch.resolve call = [] then (.leaf (.invoked call), arena)
      else
        let result := (source.dispatch.resolve call).mapM
          (source.alternative expanding context expand call) arena
        ((Tree.alt result.1).normalize, result.2) := by
  unfold callTree
  by_cases none : source.dispatch.resolve call = []
  · simp [none]
    rfl
  · simp only [none, List.isEmpty_iff, if_false]
    rfl

/-- What an alternative of a call is: the call bound to its target, expanded unless the target
has no tree or is being expanded. -/
def IsAlternative (source : Source) (stack : List NodeKey) (call : Invocation) (arena : Arena)
    (target : Signature) (part : Tree CallItem) : Prop :=
  ∃ item, part = .leaf item ∧ item.invocation = call.retarget target ∧
    (∀ node, item = .call node → arena.numbers.get? node.key = some node.body ∧
      node.context = source.contextOf (contextIn stack) target ∧
      source.trees.contains target = true) ∧
    (source.trees.contains target = true →
      target ∈ stack.map NodeKey.callee ∨ ∃ node, item = .call node)

/-! ## Alternatives of a call -/

section Alternatives

variable {stack : List NodeKey} {arena : Arena} {call : Invocation}

/-- A call that lands nowhere stands for itself. -/
theorem isPart_invoked (nowhere : source.dispatch.resolve call = []) :
    source.IsPart stack arena call (.leaf (.invoked call)) where
  feasible := by rw [Tree.Feasible]; trivial
  stands := by simp [Tree.leaves, StandsFor, CallItem.invocation, Dispatch.shown, nowhere]
  shown := by simp [Tree.leaves, CallItem.invocation, Dispatch.shown, nowhere]
  nodes := by simp [Tree.leaves]
  targets := by simp [nowhere]

variable {parts : List (Tree CallItem)} (somewhere : source.dispatch.resolve call ≠ [])
  (all : List.Forall₂ (source.IsAlternative stack call arena) (source.dispatch.resolve call) parts)

include somewhere all

theorem feasible_alternatives : (Tree.alt parts).Feasible := by
  refine Tree.feasible_alt.2 ⟨fun empty => ?_, fun part mem => ?_⟩
  · obtain ⟨target, mem⟩ := List.exists_mem_of_ne_nil _ somewhere
    obtain ⟨part, mem, -⟩ := exists_right_of_mem all mem
    rw [empty] at mem
    cases mem
  · obtain ⟨target, -, item, rfl, -⟩ := exists_left_of_mem all mem
    rw [Tree.Feasible]
    trivial

/-- Each alternative is one leaf. -/
theorem mem_leaves_alternatives {item : CallItem} :
    item ∈ (Tree.alt parts).normalize.leaves ↔ .leaf item ∈ parts := by
  rw [Tree.mem_leaves_normalize (feasible_alternatives somewhere all), Tree.mem_leaves_alt]
  constructor
  · rintro ⟨part, mem, here⟩
    obtain ⟨target, -, other, rfl, -⟩ := exists_left_of_mem all mem
    rw [Tree.leaves, List.mem_singleton] at here
    exact here ▸ mem
  · intro mem
    exact ⟨_, mem, by simp [Tree.leaves]⟩

/-- The alternatives of a call, one for each method it may land on, stand in its place. -/
theorem isPart_normalize : source.IsPart stack arena call (Tree.alt parts).normalize where
  feasible := (feasible_alternatives somewhere all).normalize
  stands item mem := by
    obtain ⟨target, lands, other, same, bound, -⟩ :=
      exists_left_of_mem all ((mem_leaves_alternatives somewhere all).1 mem)
    cases same
    rw [StandsFor, Dispatch.shown, if_neg somewhere, bound]
    exact ⟨lands, rfl⟩
  shown callee mem := by
    rw [Dispatch.shown, if_neg somewhere] at mem
    obtain ⟨part, here, item, rfl, bound, -⟩ := exists_right_of_mem all mem
    refine ⟨item, (mem_leaves_alternatives somewhere all).2 here, ?_⟩
    rw [bound]
    exact ⟨rfl, rfl⟩
  nodes node mem := by
    obtain ⟨target, lands, other, same, bound, nodes, -⟩ :=
      exists_left_of_mem all ((mem_leaves_alternatives somewhere all).1 mem)
    cases same
    have callee : node.callee = target := congrArg Invocation.callee bound
    obtain ⟨number, context, contained⟩ := nodes node rfl
    rw [callee]
    exact ⟨number, context, lands, contained⟩
  targets target lands contained := by
    obtain ⟨part, here, item, rfl, bound, -, expanded⟩ := exists_right_of_mem all lands
    rcases expanded contained with pending | ⟨node, rfl⟩
    · exact Or.inl pending
    · exact Or.inr ⟨node, (mem_leaves_alternatives somewhere all).2 here,
        congrArg Invocation.callee bound⟩

end Alternatives

/-! ## Effects -/

/-- The effect of expanding the alternatives of a call. -/
def alternativeEffect (source : Source) (stack : List NodeKey) (call : Invocation) :
    Effect Arena Signature (Tree CallItem) CallItem where
  parts := Tree.leaves
  inv := source.Sound stack
  step := fun small items large => small.GrowsBy items large
  idle := .refl
  append := .trans
  related := source.IsAlternative stack call
  keep := by
    rintro small large target part items ⟨item, rfl, bound, nodes, expanded⟩ grows
    refine ⟨item, rfl, bound, fun node same => ?_, expanded⟩
    exact ⟨grows.extend.numbers (nodes node same).1, (nodes node same).2⟩

/-- The effect of expanding the calls of a tree. -/
def callEffect (source : Source) (stack : List NodeKey) :
    Effect Arena Invocation (Tree CallItem) CallItem where
  parts := Tree.leaves
  inv := source.Sound stack
  step := fun small items large => small.GrowsBy items large
  idle := .refl
  append := .trans
  related := source.IsPart stack
  keep := fun part grows => part.extend grows.extend

section Call

variable {key : NodeKey} {rest : List NodeKey}
  {expand : Invocation → Option Signature → StateM Arena CallNode} {call : Invocation}

/-- Expanding one alternative. -/
theorem holds_alternative (marks : source.Marks live)
    (stacked : source.Stacked live (key :: rest))
    (expander : source.Expander live (key :: rest) expand)
    (has : HasCall source.trees key.callee call) {target : Signature}
    (lands : target ∈ source.dispatch.resolve call) :
    (source.alternativeEffect (key :: rest) call).Holds
      (source.alternative ((key :: rest).map NodeKey.callee) key.context expand call) target := by
  intro arena sound
  by_cases bare : target ∈ (key :: rest).map NodeKey.callee ∨ source.trees.contains target = false
  · rw [alternative_eq_of_bare bare]
    refine ⟨sound, ?_, .invoked (call.retarget target), rfl, rfl, fun node => by simp,
      fun contained => ?_⟩
    · exact (Arena.GrowsBy.refl arena).of_subset (by simp)
    · refine Or.inl (bare.resolve_right ?_)
      rw [contained]
      simp
  · obtain ⟨fresh, contained⟩ := not_or.1 bare
    rw [Bool.not_eq_false] at contained
    have entered := stacked.enters List.mem_cons_self
    have called := has.calls lands contained
    have live' : live target := by
      obtain ⟨_, -, entersKey⟩ := entered
      exact marks.forward entersKey.live called
    have enters : source.Enters live (key :: rest)
        ⟨(call.retarget target).callee, source.contextOf key.context target⟩ :=
      ⟨contained, fresh, live', fun top h => by cases h; exact called, rfl⟩
    obtain ⟨sameCall, sameContext, number, sound', grows⟩ := expander _ _ arena enters sound
    rw [alternative_eq_of_expanded fresh contained]
    refine ⟨sound', grows, _, rfl, sameCall, fun node same => ?_, fun _ => Or.inr ⟨_, rfl⟩⟩
    cases same
    refine ⟨?_, sameContext, contained⟩
    rw [CallNode.key, CallNode.callee, sameCall, sameContext]
    exact number

/-- Expanding one call. -/
theorem holds_callTree (marks : source.Marks live) (stacked : source.Stacked live (key :: rest))
    (expander : source.Expander live (key :: rest) expand)
    (has : HasCall source.trees key.callee call) :
    (source.callEffect (key :: rest)).Holds
      (source.callTree ((key :: rest).map NodeKey.callee) key.context expand) call := by
  intro arena sound
  rw [callTree_eq]
  by_cases nowhere : source.dispatch.resolve call = []
  · rw [if_pos nowhere]
    exact ⟨sound, (Arena.GrowsBy.refl arena).of_subset (by simp), isPart_invoked nowhere⟩
  · rw [if_neg nowhere]
    obtain ⟨sound', grows, all⟩ := (source.alternativeEffect (key :: rest) call).mapM
      (fun target lands => holds_alternative marks stacked expander has lands) sound
    refine ⟨sound', grows.of_subset fun item mem => ?_, isPart_normalize nowhere all⟩
    obtain ⟨part, mem, here⟩ := List.mem_flatMap.1 mem
    exact (Tree.mem_leaves_normalize (feasible_alternatives nowhere all)).2
      (Tree.mem_leaves_alt.2 ⟨part, mem, here⟩)

end Call

/-! ## The body of a node -/

section Body

variable {key : NodeKey} {rest : List NodeKey} {arena : Arena} {tree : Tree Invocation}
  {expanded : Tree CallItem} (found : source.trees.get? key.callee = some tree)
  (feasible : tree.Feasible) (sound : source.Sound (key :: rest) arena)
  (expands : Tree.Expands (source.IsPart (key :: rest) arena) tree expanded)

include feasible expands

theorem mem_leaves_body {item : CallItem} :
    item ∈ expanded.normalize.leaves ↔ item ∈ expanded.leaves :=
  Tree.mem_leaves_normalize (expands.feasible (fun _ _ part => part.feasible) feasible)

include found

/-- The calls of the method are shown by the body. -/
theorem isBody_normalize (sound : source.Sound (key :: rest) arena) :
    source.IsBody arena key arena.bodies.length expanded.normalize where
  stands item mem := by
    rw [mem_leaves_body feasible expands] at mem
    obtain ⟨call, listed, part, isPart, here⟩ := expands.exists_leaf mem
    exact ⟨call, ⟨tree, found, listed⟩, isPart.stands item here⟩
  shown call has callee mem := by
    obtain ⟨other, found', listed⟩ := has
    cases found.symm.trans found'
    obtain ⟨part, isPart, sub⟩ := expands.exists_part listed
    obtain ⟨item, here, shows⟩ := isPart.shown callee mem
    exact ⟨item, (mem_leaves_body feasible expands).2 (sub item here), shows⟩
  nodes node mem := by
    rw [mem_leaves_body feasible expands] at mem
    obtain ⟨call, listed, part, isPart, here⟩ := expands.exists_leaf mem
    obtain ⟨number, context, lands, contained⟩ := isPart.nodes node here
    exact ⟨number, sound.lt_length number, context,
      HasCall.calls ⟨tree, found, listed⟩ lands contained⟩

theorem covers_normalize : source.Covers (key :: rest) key expanded.normalize := by
  intro callee called
  obtain ⟨other, found', ⟨call, listed, lands⟩, contained⟩ := called
  cases found.symm.trans found'
  obtain ⟨part, isPart, sub⟩ := expands.exists_part listed
  rcases isPart.targets callee lands contained with pending | ⟨node, here, rfl⟩
  · exact Or.inl pending
  · refine Or.inr ⟨node, (mem_leaves_body feasible expands).2 (sub _ here), ?_⟩
    rw [CallNode.key, (isPart.nodes node here).2.1]
    rfl

end Body

/-! ## Storing a finished body -/

section Push

variable {key : NodeKey} {rest : List NodeKey} {before arena : Arena} {body : Tree CallItem}

theorem links_push {node : CallNode} (mem : .call node ∈ body.leaves) :
    (arena.push key body).Links key node.key :=
  ⟨body, Arena.hasBody_push arena key body, node, mem, rfl⟩

/-- What was new when the body was finished is linked to the body once it is stored. -/
theorem stored_or_linksTo_push (fresh : arena.numbers.get? key = none)
    (grows : before.GrowsBy body.leaves arena) {other : NodeKey}
    (stored : (arena.push key body).Stored other) :
    before.Stored other ∨ (arena.push key body).LinksTo key other := by
  rcases Arena.stored_push.1 stored with rfl | stored
  · exact Or.inr .refl
  · rcases grows.linked other stored with old | ⟨node, mem, link⟩
    · exact Or.inl old
    · exact Or.inr (.head (links_push mem) (link.extend (Arena.extends_push fresh body)))

variable (marks : source.Marks live) (enters : source.Enters live rest key)
  (stacked : source.Stacked live rest) (sound : source.Sound (key :: rest) arena)
  (isBody : source.IsBody arena key arena.bodies.length body)
  (covers : source.Covers (key :: rest) key body)

include sound

include isBody in
theorem Sound.push_stored {other : NodeKey} {number : Nat}
    (found : (arena.push key body).numbers.get? other = some number) :
    ∃ body', (arena.push key body).bodies[number]? = some body' ∧
      source.IsBody (arena.push key body) other number body' := by
  have more := Arena.extends_push (sound.pending key List.mem_cons_self) body
  rw [Arena.get?_push] at found
  split at found
  · next same =>
    subst same
    cases found
    exact ⟨body, by simp [Arena.push], isBody.extend more⟩
  · obtain ⟨body', here, isBody'⟩ := sound.stored other number found
    exact ⟨body', more.bodies here, isBody'.extend more⟩

theorem Sound.push_numbered {number : Nat} (inside : number < (arena.push key body).bodies.length) :
    ∃ other, (arena.push key body).numbers.get? other = some number := by
  rw [Arena.push, List.length_append, List.length_singleton] at inside
  by_cases last : number = arena.bodies.length
  · exact ⟨key, by rw [Arena.get?_push, if_pos rfl, last]⟩
  · obtain ⟨other, found⟩ := sound.numbered number (by omega)
    exact ⟨other, (Arena.extends_push (sound.pending key List.mem_cons_self) body).numbers found⟩

include marks enters stacked covers in
/-- Without a context, what is called is linked: none of it is being expanded further out. -/
theorem Sound.push_plain {method callee : Signature}
    (stored : (arena.push key body).Stored ⟨method, none⟩) (called : source.Calls method callee) :
    callee = method ∨
      (arena.push key body).Links ⟨method, none⟩ ⟨callee, source.contextOf none callee⟩ := by
  rcases Arena.stored_push.1 stored with same | stored
  · subst same
    rcases covers callee called with pending | ⟨node, mem, sameKey⟩
    · rcases List.mem_cons.1 pending with same | pending
      · exact Or.inl same
      · exact absurd rfl (stacked.mem_of_called marks enters called pending).1
    · exact Or.inr (sameKey ▸ links_push mem)
  · exact (sound.plain method stored callee called).imp_right fun link =>
      link.extend (Arena.extends_push (sound.pending key List.mem_cons_self) body)

include marks enters stacked isBody covers in
/-- Within a context, what is called is stored or being expanded in the same context. -/
theorem Sound.push_within {method context callee : Signature}
    (stored : (arena.push key body).Stored ⟨method, some context⟩)
    (called : source.Calls method callee) :
    (arena.push key body).Stored ⟨callee, some context⟩ ∨ ⟨callee, some context⟩ ∈ rest := by
  rw [Arena.stored_push]
  rcases Arena.stored_push.1 stored with same | stored
  · subst same
    rcases covers callee called with pending | ⟨node, mem, sameKey⟩
    · rcases List.mem_cons.1 pending with same | pending
      · exact Or.inl (Or.inl (by rw [same]))
      · exact Or.inr (stacked.mem_of_called marks enters called pending).2
    · refine Or.inl (Or.inr ?_)
      have number := (isBody.nodes node mem).1
      rw [sameKey, contextOf_some] at number
      exact ⟨_, number⟩
  · rcases sound.within method context stored callee called with stored | pending
    · exact Or.inl (Or.inr stored)
    · rcases List.mem_cons.1 pending with same | pending
      · exact Or.inl (Or.inl same)
      · exact Or.inr pending

include enters stacked in
/-- The head of a context is being expanded, or all that is stored in the context is linked to
it. -/
theorem Sound.push_headed (soundBefore : source.Sound rest before)
    (absent : before.numbers.get? key = none) (grows : before.GrowsBy body.leaves arena)
    {method context : Signature} (stored : (arena.push key body).Stored ⟨method, some context⟩) :
    ⟨context, some context⟩ ∈ rest ∨ (arena.push key body).Stored ⟨context, some context⟩ ∧
      (arena.push key body).LinksTo ⟨context, some context⟩ ⟨method, some context⟩ := by
  have fresh := sound.pending key List.mem_cons_self
  have outside : key ∉ rest := fun mem => enters.fresh (List.mem_map_of_mem mem)
  have linked := stored_or_linksTo_push fresh grows stored
  rcases Arena.stored_push.1 stored with same | stored
  · subst same
    have head := (Stacked.cons enters stacked).head_mem List.mem_cons_self rfl
    rcases List.mem_cons.1 head with same | mem
    · refine Or.inr ⟨Arena.stored_push.2 (Or.inl same), ?_⟩
      rw [same]
    · exact Or.inl mem
  · rcases sound.headed method context stored with pending | ⟨storedHead, link⟩
    · rcases List.mem_cons.1 pending with same | mem
      · -- The head of the context is the key stored now, so nothing under it was there before.
        refine Or.inr ⟨Arena.stored_push.2 (Or.inl same), ?_⟩
        rcases linked with old | link
        · rcases soundBefore.headed method context old with pending | ⟨⟨number, storedHead⟩, -⟩
          · rw [same] at pending
            exact absurd pending outside
          · rw [same, absent] at storedHead
            cases storedHead
        · rw [same]
          exact link
      · exact Or.inl mem
    · have more := Arena.extends_push fresh body
      exact Or.inr ⟨storedHead.extend more, link.extend more⟩

include marks enters stacked isBody covers in
/-- Storing a finished body. -/
theorem Sound.push (soundBefore : source.Sound rest before)
    (absent : before.numbers.get? key = none) (grows : before.GrowsBy body.leaves arena) :
    source.Sound rest (arena.push key body) where
  stored _ _ found := sound.push_stored isBody found
  numbered _ inside := sound.push_numbered inside
  pending other mem := by
    rw [Arena.get?_push, if_neg]
    · exact sound.pending other (List.mem_cons_of_mem _ mem)
    · rintro rfl
      exact enters.fresh (List.mem_map_of_mem mem)
  plain _ stored _ called := sound.push_plain marks enters stacked covers stored called
  within _ _ stored _ called := sound.push_within marks enters stacked isBody covers stored called
  headed _ _ stored := sound.push_headed enters stacked soundBefore absent grows stored

end Push

/-! ## Nodes -/

theorem node_eq_of_stored {depth : Nat} {expanding : List Signature} {call : Invocation}
    {context : Option Signature} {arena : Arena} {number : Nat}
    (found : arena.numbers.get? ⟨call.callee, context⟩ = some number) :
    source.node depth expanding call context arena = (⟨call, context, number⟩, arena) := by
  unfold node
  simp only [bind, StateT.bind, get, getThe, MonadStateOf.get, StateT.get, pure, found]
  rfl

theorem node_eq_of_fresh {depth : Nat} {expanding : List Signature} {call : Invocation}
    {context : Option Signature} {arena : Arena} {tree : Tree Invocation}
    (fresh : arena.numbers.get? ⟨call.callee, context⟩ = none)
    (found : source.trees.get? call.callee = some tree) :
    source.node (depth + 1) expanding call context arena =
      let result := tree.flatMapM (source.callTree (call.callee :: expanding) context
        (source.node depth (call.callee :: expanding))) arena
      (⟨call, context, result.2.bodies.length⟩,
        result.2.push ⟨call.callee, context⟩ result.1.normalize) := by
  rw [node]
  simp only [bind, StateT.bind, get, getThe, MonadStateOf.get, StateT.get, pure, fresh, found]
  rfl

/-- Without depth or tree the body is empty. -/
theorem node_eq_of_bare {depth : Nat} {expanding : List Signature} {call : Invocation}
    {context : Option Signature} {arena : Arena}
    (fresh : arena.numbers.get? ⟨call.callee, context⟩ = none)
    (bare : depth = 0 ∨ source.trees.get? call.callee = none) :
    source.node depth expanding call context arena =
      (⟨call, context, arena.bodies.length⟩, arena.push ⟨call.callee, context⟩ .empty) := by
  unfold node
  simp only [bind, StateT.bind, get, getThe, MonadStateOf.get, StateT.get, pure, fresh]
  rcases bare with rfl | missing
  · rfl
  · cases depth <;> simp only [missing] <;> rfl

/-- What is stored on the way does not depend on how the callee is called. -/
theorem node_congr_callee {depth : Nat} {expanding : List Signature} {call other : Invocation}
    {context : Option Signature} (same : call.callee = other.callee) (arena : Arena) :
    (source.node depth expanding call context arena).2 =
      (source.node depth expanding other context arena).2 := by
  cases present : arena.numbers.get? ⟨call.callee, context⟩ with
  | some number => rw [node_eq_of_stored present, node_eq_of_stored (same ▸ present)]
  | none =>
      have present' : arena.numbers.get? ⟨other.callee, context⟩ = none := same ▸ present
      cases found : source.trees.get? call.callee with
      | none =>
          rw [node_eq_of_bare present (Or.inr found), node_eq_of_bare present' (Or.inr (same ▸ found)),
            same]
      | some tree =>
          cases depth with
          | zero => rw [node_eq_of_bare present (Or.inl rfl), node_eq_of_bare present' (Or.inl rfl), same]
          | succ depth =>
              rw [node_eq_of_fresh present found, node_eq_of_fresh present' (same ▸ found)]
              simp only [same]

/-- Expanding nodes does what it should, given trees without impossible parts and enough
depth for the methods that are not being expanded yet. -/
theorem expander_node (marks : source.Marks live)
    (feasible : ∀ method tree, source.trees.get? method = some tree → tree.Feasible) {depth : Nat}
    {stack : List NodeKey} (stacked : source.Stacked live stack)
    (enough : source.trees.size ≤ depth + stack.length) :
    source.Expander live stack (source.node depth (stack.map NodeKey.callee)) := by
  induction depth generalizing stack with
  | zero =>
      intro call context arena enters _
      have := stacked.length_lt enters
      omega
  | succ depth ih =>
      intro call context arena enters sound
      let key : NodeKey := ⟨call.callee, context⟩
      cases present : arena.numbers.get? key with
      | some number =>
          rw [node_eq_of_stored present]
          exact ⟨rfl, rfl, present, sound, (Arena.GrowsBy.refl arena).of_subset (by simp)⟩
      | none =>
          obtain ⟨tree, found⟩ := Table.contains_iff.1 enters.contained
          have inner : source.Stacked live (key :: stack) := .cons enters stacked
          have expander := ih inner (by rw [List.length_cons]; omega)
          have possible := feasible _ tree found
          -- The methods of `key :: stack` start with the callee, and `context` is its context.
          have all : let result := tree.flatMapM (source.callTree
                (call.callee :: stack.map NodeKey.callee) context
                (source.node depth (call.callee :: stack.map NodeKey.callee))) arena
              source.Sound (key :: stack) result.2 ∧ arena.GrowsBy result.1.leaves result.2 ∧
                Tree.Expands (source.IsPart (key :: stack) result.2) tree result.1 :=
            Tree.expands_flatMapM (source.callEffect (key :: stack)) rfl tree
              (fun other mem => holds_callTree marks inner expander ⟨tree, found, mem⟩)
              (sound.enter present)
          rw [node_eq_of_fresh present found]
          generalize tree.flatMapM (source.callTree (call.callee :: stack.map NodeKey.callee)
            context (source.node depth (call.callee :: stack.map NodeKey.callee))) arena =
              result at all ⊢
          obtain ⟨sound', grows, expands⟩ := all
          have grows' : arena.GrowsBy result.1.normalize.leaves result.2 :=
            Arena.GrowsBy.of_subset grows fun item mem =>
              (mem_leaves_body possible expands).2 mem
          have soundAfter := sound'.push marks enters stacked
            (isBody_normalize found possible expands sound')
            (covers_normalize found possible expands) sound present grows'
          have fresh := sound'.pending key List.mem_cons_self
          refine ⟨rfl, rfl, ?_, soundAfter, grows'.extend.trans (Arena.extends_push fresh _), ?_⟩
          · rw [Arena.get?_push, if_pos rfl]
          · intro other stored
            exact (stored_or_linksTo_push fresh grows' stored).imp_right fun link =>
              ⟨_, List.mem_singleton.2 rfl, link⟩

/-! ## Links and calls -/

section Links

variable {arena : Arena} (sound : source.Sound [] arena)

include sound

theorem Sound.isBody {key : NodeKey} {body : Tree CallItem} (has : arena.HasBody key body) :
    ∃ number, arena.numbers.get? key = some number ∧ source.IsBody arena key number body := by
  obtain ⟨number, found, here⟩ := has
  obtain ⟨other, here', isBody⟩ := sound.stored key number found
  cases here.symm.trans here'
  exact ⟨number, found, isBody⟩

theorem Sound.hasBody {key : NodeKey} (stored : arena.Stored key) :
    ∃ body, arena.HasBody key body := by
  obtain ⟨number, found⟩ := stored
  obtain ⟨body, here, -⟩ := sound.stored key number found
  exact ⟨body, number, found, here⟩

theorem Sound.stored_of_links {key other : NodeKey} (link : arena.Links key other) :
    arena.Stored other := by
  obtain ⟨body, has, node, mem, rfl⟩ := link
  obtain ⟨number, -, isBody⟩ := sound.isBody has
  exact ⟨node.body, (isBody.nodes node mem).1⟩

theorem Sound.stored_of_linksTo {key other : NodeKey} (stored : arena.Stored key)
    (path : arena.LinksTo key other) : arena.Stored other := by
  induction path with
  | refl => exact stored
  | tail _ link _ => exact sound.stored_of_links link

/-- Links follow calls. -/
theorem Sound.reaches_of_linksTo {key other : NodeKey} (path : arena.LinksTo key other) :
    ReflTransGen source.Calls key.callee other.callee := by
  induction path with
  | refl => exact .refl
  | tail _ link ih =>
      obtain ⟨body, has, node, mem, rfl⟩ := link
      obtain ⟨number, -, isBody⟩ := sound.isBody has
      exact ih.tail (isBody.nodes node mem).2.2.2

/-- Within a context every method the head reaches is stored. -/
theorem Sound.stored_of_reaches {context method : Signature}
    (head : arena.Stored ⟨context, some context⟩)
    (path : ReflTransGen source.Calls context method) : arena.Stored ⟨method, some context⟩ := by
  induction path with
  | refl => exact head
  | tail _ called ih => exact (sound.within _ _ ih _ called).resolve_right List.not_mem_nil

theorem Sound.linksTo_of_head {context method : Signature}
    (head : arena.Stored ⟨context, some context⟩)
    (path : ReflTransGen source.Calls context method) :
    arena.LinksTo ⟨context, some context⟩ ⟨method, some context⟩ :=
  ((sound.headed _ _ (sound.stored_of_reaches head path)).resolve_left List.not_mem_nil).2

/-- A key without context, or at the head of its context, is linked to a body of every method
it reaches by calls. -/
theorem Sound.exists_linksTo {key : NodeKey} (stored : arena.Stored key)
    (complete : key.context = none ∨ key.context = some key.callee) {method : Signature}
    (path : ReflTransGen source.Calls key.callee method) :
    ∃ context, arena.LinksTo key ⟨method, context⟩ := by
  obtain ⟨callee, context⟩ := key
  rcases complete with plain | head
  · obtain rfl : context = none := plain
    change ReflTransGen source.Calls callee method at path
    -- Up to the first recursive method the path is linked call by call, and that method is the
    -- head of a context with all it reaches.
    induction path using ReflTransGen.head_induction_on with
    | refl => exact ⟨none, .refl⟩
    | @head caller next called path ih =>
        rcases sound.plain caller stored next called with rfl | link
        · exact ih stored
        · have storedNext := sound.stored_of_links link
          rw [contextOf_none] at link storedNext
          split at link
          · next recursive =>
            rw [if_pos recursive] at storedNext
            exact ⟨some next, .head link (sound.linksTo_of_head storedNext path)⟩
          · next plain =>
            rw [if_neg plain] at storedNext
            obtain ⟨context, further⟩ := ih storedNext
            exact ⟨context, .head link further⟩
  · obtain rfl : context = some callee := head
    exact ⟨some callee, sound.linksTo_of_head stored path⟩

end Links

end Source

/-! ## Call trees of entry points -/

/-- The nodes written in the roots and bodies. -/
def nodes (forest : Forest) : List CallNode :=
  forest.roots ++ forest.bodies.flatMap fun body => body.leaves.filterMap CallItem.node?

/-- A forest whose bodies are those of a finished arena. -/
structure Expansion (source : Source) (forest : Forest) (arena : Arena) : Prop where
  bodies : forest.bodies = arena.bodies
  sound : source.Sound [] arena
  roots : ∀ root ∈ forest.roots, arena.numbers.get? root.key = some root.body
  heads : ∀ root ∈ forest.roots, root.context = none ∨ root.context = some root.callee
  linked : ∀ key, arena.Stored key → ∃ root ∈ forest.roots, arena.LinksTo root.key key

theorem mem_nodes {forest : Forest} {node : CallNode} : node ∈ forest.nodes ↔
    node ∈ forest.roots ∨ ∃ body ∈ forest.bodies, .call node ∈ body.leaves := by
  rw [nodes, List.mem_append, List.mem_flatMap]
  refine or_congr_right ?_
  have item : ∀ item : CallItem, item.node? = some node ↔ item = .call node := by
    intro item
    cases item <;> simp [CallItem.node?]
  simp only [List.mem_filterMap, item, exists_eq_right]

/-- The number of a node is that of its key. -/
theorem Expansion.number {source : Source} {forest : Forest} {arena : Arena}
    (expansion : Expansion source forest arena) {node : CallNode} (mem : node ∈ forest.nodes) :
    arena.numbers.get? node.key = some node.body := by
  rcases mem_nodes.1 mem with root | ⟨body, listed, here⟩
  · exact expansion.roots node root
  · rw [expansion.bodies] at listed
    obtain ⟨number, inside, rfl⟩ := List.getElem_of_mem listed
    obtain ⟨key, found⟩ := expansion.sound.numbered number inside
    obtain ⟨other, here', isBody⟩ := expansion.sound.stored key number found
    cases (List.getElem?_eq_getElem inside).symm.trans here'
    exact (isBody.nodes node here).1

/-- Expanding some methods without context. -/
def expandRoots (source : Source) (roots : List Signature) : List CallNode × Arena :=
  (roots.mapM fun root =>
    source.node source.trees.size [] (entryCall root) (source.contextOf none root)) Arena.empty

/-- The effect of expanding entry points. -/
def rootEffect (source : Source) : Effect Arena Signature CallNode CallItem where
  parts node := [.call node]
  inv := source.Sound []
  step := fun small items large => small.GrowsBy items large
  idle := .refl
  append := .trans
  related := fun arena _ node => arena.numbers.get? node.key = some node.body ∧
    (node.context = none ∨ node.context = some node.callee)
  keep := fun found grows => ⟨grows.extend.numbers found.1, found.2⟩

theorem expansion_expandRoots {source : Source} {live : Signature → Prop}
    (marks : source.Marks live)
    (feasible : ∀ method tree, source.trees.get? method = some tree → tree.Feasible)
    {roots : List Signature}
    (entered : ∀ root ∈ roots, live root ∧ source.trees.contains root = true) :
    Expansion source ⟨(expandRoots source roots).1, (expandRoots source roots).2.bodies⟩
      (expandRoots source roots).2 := by
  have expander : source.Expander live [] (source.node source.trees.size []) :=
    Source.expander_node marks feasible .nil (Nat.le_refl _)
  have each : ∀ root ∈ roots, (rootEffect source).Holds (fun root =>
      source.node source.trees.size [] (entryCall root) (source.contextOf none root)) root := by
    intro root mem arena sound
    obtain ⟨isLive, contained⟩ := entered root mem
    obtain ⟨call, context, number, sound', grows⟩ := expander (entryCall root)
      (source.contextOf none root) arena
      ⟨contained, List.not_mem_nil, isLive, fun _ h => (by cases h), rfl⟩ sound
    refine ⟨sound', grows, ?_, ?_⟩
    · rw [CallNode.key, CallNode.callee, call, context]
      exact number
    · rw [CallNode.callee, call, context]
      exact Source.contextOf_none_or_self root
  obtain ⟨sound, grows, all⟩ := (rootEffect source).mapM each Source.sound_empty
  have expanded : ∀ root ∈ (expandRoots source roots).1,
      (expandRoots source roots).2.numbers.get? root.key = some root.body ∧
        (root.context = none ∨ root.context = some root.callee) := by
    intro root mem
    obtain ⟨_, -, expanded⟩ := exists_left_of_mem all mem
    exact expanded
  refine ⟨rfl, sound, fun root mem => (expanded root mem).1, fun root mem => (expanded root mem).2,
    fun key stored => ?_⟩
  rcases grows.linked key stored with ⟨_, impossible⟩ | ⟨node, mem, link⟩
  · cases impossible
  · obtain ⟨root, mem, here⟩ := List.mem_flatMap.1 mem
    obtain rfl : node = root := CallItem.call.inj (List.mem_singleton.1 here)
    exact ⟨node, mem, link⟩

theorem contains_of_mem_roots {trees : MethodTrees} {dispatch : Dispatch}
    {entryPoints roots : List Signature}
    (found : List.Forall₂ (fun entryPoint root => resolveEntry trees dispatch entryPoint = .ok root)
      entryPoints roots) : ∀ root ∈ roots, trees.contains root = true := by
  intro root mem
  obtain ⟨entryPoint, -, resolved⟩ := exists_left_of_mem found mem
  exact contains_of_resolveEntry resolved

/-- What the call trees of some roots look up. -/
def sourceOf (config : AnalysisConfig) (trees : MethodTrees) (dispatch : Dispatch)
    (roots : List Signature) : Source where
  trees := trees
  dispatch := dispatch
  recursive := sortUnique
    (roots.flatMap ((CallGraph.ofTrees trees dispatch).recursiveFrom config.directRecursion))

theorem mem_recursive_sourceOf {config : AnalysisConfig} {trees : MethodTrees}
    {dispatch : Dispatch} {roots : List Signature} {method : Signature}
    (contained : ∀ root ∈ roots, trees.contains root = true) :
    method ∈ (sourceOf config trees dispatch roots).recursive ↔
      ∃ root ∈ roots, Reaches trees dispatch root method ∧
        CallGraph.Recursive (Calls trees dispatch) config.directRecursion method := by
  rw [sourceOf, mem_sortUnique, List.mem_flatMap]
  exact exists_congr fun root => and_congr_right fun mem =>
    CallGraph.mem_recursiveFrom config.directRecursion (contained root mem)

/-- The call trees of entry points are those of the methods they name. -/
theorem exists_roots_of_build {config : AnalysisConfig} {trees : MethodTrees} {dispatch : Dispatch}
    {entryPoints : List Signature} {forest : Forest}
    (h : (build config trees dispatch entryPoints).result = .ok forest) :
    ∃ roots, List.Forall₂ (fun entryPoint root => resolveEntry trees dispatch entryPoint = .ok root)
        entryPoints roots ∧
      forest = ⟨(expandRoots (sourceOf config trees dispatch roots) roots).1,
        (expandRoots (sourceOf config trees dispatch roots) roots).2.bodies⟩ := by
  obtain ⟨roots, found, h⟩ := Logged.result_bind.1 h
  obtain ⟨-, -, h⟩ := Logged.result_bind.1 h
  obtain rfl := Logged.result_pure.1 h
  exact ⟨roots, Logged.forall₂_mapM found, rfl⟩

/-- Once entry points are resolved their call trees are built. -/
theorem build_of_roots {config : AnalysisConfig} {trees : MethodTrees} {dispatch : Dispatch}
    {entryPoints roots : List Signature}
    (found : (entryPoints.mapM fun entryPoint =>
      (liftM (resolveEntry trees dispatch entryPoint) : Logged Failure Signature)).result =
        .ok roots) :
    (build config trees dispatch entryPoints).result =
      .ok ⟨(expandRoots (sourceOf config trees dispatch roots) roots).1,
        (expandRoots (sourceOf config trees dispatch roots) roots).2.bodies⟩ :=
  Logged.result_bind.2 ⟨roots, found, rfl⟩

/-- The methods reached from some roots, with those marked that are recursive below a root. -/
theorem marks_sourceOf {config : AnalysisConfig} {trees : MethodTrees} {dispatch : Dispatch}
    {roots : List Signature} (contained : ∀ root ∈ roots, trees.contains root = true) :
    (sourceOf config trees dispatch roots).Marks
      fun method => ∃ root ∈ roots, Reaches trees dispatch root method where
  forward := by
    rintro caller callee ⟨root, mem, path⟩ called
    exact ⟨root, mem, path.tail called⟩
  marked := by
    rintro method callee ⟨root, mem, path⟩ called apart back
    exact (mem_recursive_sourceOf contained).2
      ⟨root, mem, path, Or.inl ⟨callee, apart, .single called, back⟩⟩

/-- The call trees of entry points are an expansion. -/
theorem exists_expansion {config : AnalysisConfig} {trees : MethodTrees} {dispatch : Dispatch}
    {entryPoints : List Signature} {forest : Forest}
    (feasible : ∀ method tree, trees.get? method = some tree → tree.Feasible)
    (h : (build config trees dispatch entryPoints).result = .ok forest) :
    ∃ recursive arena, Expansion ⟨trees, dispatch, recursive⟩ forest arena := by
  obtain ⟨roots, found, rfl⟩ := exists_roots_of_build h
  have contained := contains_of_mem_roots found
  exact ⟨_, _, expansion_expandRoots (marks_sourceOf contained) feasible
    fun root mem => ⟨⟨root, mem, .refl⟩, contained root mem⟩⟩

end CallSearch.Forest
