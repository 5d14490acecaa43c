/-
# CallSearch.Proofs.Excerpt.Unfold — cuts are call trees written out

`Forest.unfold` writes the body of a node out to some depth, without a memo.  Where nodes
with one key have one body the memo of a cut holds just that, so a cut is the node
written out, and it says that nodes were left out if there are nodes just beyond the
depth (`cut_excerpt`, `cut_hasDeeper_iff`).
-/
import CallSearch.Excerpt.Cut
import CallSearch.Proofs.Forest.Reachable
import CallSearch.Proofs.Tree.Map

namespace CallSearch

set_option autoImplicit false

namespace Forest

/-! ## Bodies written out -/

/-- An item with a number of levels of calls below it. -/
def unfoldItem (forest : Forest) : Nat → CallItem → ExcerptItem
  | _, .invoked call => .invoked call
  | 0, .call child => .invoked child.call
  | below + 1, .call child =>
      .call child.call child.context (below + 1) ((forest.body child).map (forest.unfoldItem below))

/-- The body of a node with a number of levels of calls below it. -/
def unfold (forest : Forest) (below : Nat) (node : CallNode) : Tree ExcerptItem :=
  (forest.body node).map (forest.unfoldItem below)

/-- A node with a number of levels of calls below it. -/
def unfolded (forest : Forest) (below : Nat) (node : CallNode) : Excerpt :=
  ⟨node.call, node.context, below + 1, forest.unfold below node⟩

variable {forest : Forest}

theorem unfoldItem_call (below : Nat) (child : CallNode) :
    forest.unfoldItem (below + 1) (.call child) =
      .call child.call child.context (below + 1) (forest.unfold below child) := rfl

theorem unfold_congr {below : Nat} {node other : CallNode} (same : node.body = other.body) :
    forest.unfold below node = forest.unfold below other := by
  rw [unfold, unfold, body, body, body?, body?, same]

/-- Forests that agree are written out in the same way. -/
theorem Agrees.unfold {other : Forest} (agrees : forest.Agrees other) (below : Nat)
    {node : CallNode} (reachable : forest.Reachable node) :
    other.unfold below node = forest.unfold below node := by
  induction below generalizing node with
  | zero =>
      rw [Forest.unfold, Forest.unfold, agrees.body node reachable]
      refine Tree.flatMap_congr fun item _ => ?_
      cases item <;> rfl
  | succ below ih =>
      rw [Forest.unfold, Forest.unfold, agrees.body node reachable]
      refine Tree.flatMap_congr fun item mem => ?_
      cases item with
      | invoked call => rfl
      | call child =>
          rw [unfoldItem_call, unfoldItem_call, ih (reachable.child (mem_children_of_leaf mem))]

/-! ## Cuts -/

/-- Some node lies a number of steps below a node. -/
def HasBelow (forest : Forest) (steps : Nat) (node : CallNode) : Prop :=
  ∃ other, Steps forest.children steps node other

theorem hasBelow_succ {steps : Nat} {node child : CallNode} (mem : child ∈ forest.children node)
    (below : forest.HasBelow steps child) : forest.HasBelow (steps + 1) node := by
  obtain ⟨other, path⟩ := below
  exact ⟨other, steps_succ_iff.2 ⟨child, mem, path⟩⟩

theorem hasBelow_congr {steps : Nat} {node other : CallNode} (same : node.body = other.body) :
    forest.HasBelow (steps + 1) node ↔ forest.HasBelow (steps + 1) other := by
  rw [HasBelow, HasBelow]
  simp only [steps_succ_iff, children_congr same]

theorem Agrees.hasBelow {other : Forest} (agrees : forest.Agrees other) {steps : Nat}
    {node : CallNode} (reachable : forest.Reachable node) :
    other.HasBelow steps node ↔ forest.HasBelow steps node :=
  ⟨fun ⟨below, path⟩ => ⟨below, agrees.symm.steps (agrees.reachable_iff.2 reachable) path⟩,
    fun ⟨below, path⟩ => ⟨below, agrees.steps reachable path⟩⟩

/-- The bodies kept are the bodies of their keys written out, and if there are nodes just beyond
the depth of one, this was noted. -/
def Cutting.Right (forest : Forest) (cutting : Cutting) : Prop :=
  ∀ key below body, cutting.bodies.lookup (key, below + 1) = some body →
    ∀ node, forest.Reachable node → node.key = key →
      body = forest.unfold below node ∧ (forest.HasBelow (below + 1) node → cutting.deeper = true)

/-- What cutting should do for a body with levels of calls below it: the result is right, nodes
just beyond the depth are noted, and nothing is noted without reason. -/
structure Cutting.Cuts (forest : Forest) (reason : Prop) (node : CallNode) (below : Nat)
    (before : Cutting) (result : Tree ExcerptItem × Cutting) : Prop where
  body : result.1 = forest.unfold below node
  right : result.2.Right forest
  keeps : before.deeper = true → result.2.deeper = true
  justified : result.2.deeper = true → reason
  noted : forest.HasBelow (below + 1) node → result.2.deeper = true

/-- The effect of cutting the items of a body. -/
def cutEffect (forest : Forest) (reason : Prop) (below : Nat) :
    Effect Cutting CallItem (Tree ExcerptItem) ExcerptItem where
  parts := Tree.leaves
  inv cutting := cutting.Right forest ∧ (cutting.deeper = true → reason)
  step before _ after := before.deeper = true → after.deeper = true
  idle _ noted := noted
  append first second noted := second (first noted)
  related cutting item part := part = .leaf (forest.unfoldItem below item) ∧
    ∀ child, item = .call child → forest.HasBelow below child → cutting.deeper = true
  keep related step := ⟨related.1, fun child same deep => step (related.2 child same deep)⟩

/-- Cutting one item. -/
def cutItem (forest : Forest) (below : Nat) (item : CallItem) : StateM Cutting ExcerptItem :=
  match item with
  | .invoked call => pure (ExcerptItem.invoked call)
  | .call child =>
      match below with
      | 0 => do
          modify fun cutting => { cutting with deeper := true }
          return .invoked child.call
      | below + 1 => do
          let body ← forest.cutBody below child
          return .call child.call child.context (below + 1) body

theorem cutBody_of_kept {below : Nat} {node : CallNode} {cutting : Cutting}
    {body : Tree ExcerptItem}
    (kept : cutting.bodies.lookup (node.key, below + 1) = some body) :
    forest.cutBody below node cutting = (body, cutting) := by
  unfold cutBody
  simp only [bind, StateT.bind, get, getThe, MonadStateOf.get, StateT.get, pure, kept]
  rfl

theorem cutBody_of_new {below : Nat} {node : CallNode} {cutting : Cutting}
    (new : cutting.bodies.lookup (node.key, below + 1) = none) :
    forest.cutBody below node cutting =
      let result := (forest.body node).mapM (forest.cutItem below) cutting
      (result.1, { result.2 with
        bodies := ((node.key, below + 1), result.1) :: result.2.bodies }) := by
  unfold cutBody
  simp only [bind, StateT.bind, get, getThe, MonadStateOf.get, StateT.get, pure, new]
  rfl

/-- Right bodies stay so when it is noted that nodes lie beyond. -/
theorem Cutting.Right.of_noted {before after : Cutting} (h : before.Right forest)
    (same : after.bodies = before.bodies) (noted : before.deeper = true → after.deeper = true) :
    after.Right forest := by
  intro key below body found node reachable sameKey
  obtain ⟨written, deep⟩ := h key below body (same ▸ found) node reachable sameKey
  exact ⟨written, fun beyond => noted (deep beyond)⟩

/-- Cutting the items of a body does what it should, if cutting the bodies of the nodes in it
does. -/
theorem holds_cutItem {reason : Prop} {below : Nat} {node : CallNode}
    (each : ∀ less, below = less + 1 → ∀ child ∈ forest.children node, ∀ cutting : Cutting,
      cutting.Right forest → (cutting.deeper = true → reason) →
      Cutting.Cuts forest reason child less cutting (forest.cutBody less child cutting))
    (why : forest.HasBelow (below + 1) node → reason) :
    ∀ item ∈ (forest.body node).leaves, (forest.cutEffect reason below).Holds
      (fun item => do return .leaf (← forest.cutItem below item)) item := by
  rintro item mem cutting ⟨right, justified⟩
  cases item with
  | invoked call =>
      exact ⟨⟨right, justified⟩, fun noted => noted, by cases below <;> rfl, by simp⟩
  | call child =>
      have listed := mem_children_of_leaf mem
      cases below with
      | zero =>
          refine ⟨⟨right.of_noted rfl fun _ => rfl, fun _ => why ?_⟩, fun _ => rfl, rfl,
            fun _ _ _ => rfl⟩
          exact hasBelow_succ listed ⟨child, .zero child⟩
      | succ less =>
          have cuts := each less rfl child listed cutting right justified
          refine ⟨⟨cuts.right, cuts.justified⟩, cuts.keeps, ?_, ?_⟩
          · change Tree.leaf (ExcerptItem.call child.call child.context (less + 1)
              (forest.cutBody less child cutting).1) = _
            rw [cuts.body, unfoldItem_call]
          · rintro _ ⟨⟩ beyond
            exact cuts.noted beyond

section Cut

variable (shares : forest.SharesBodies)

include shares

/-- Keeping one more body that is right. -/
theorem Cutting.Right.keep {cutting : Cutting} (h : cutting.Right forest) {node : CallNode}
    (reachable : forest.Reachable node) {below : Nat}
    (noted : forest.HasBelow (below + 1) node → cutting.deeper = true) :
    Cutting.Right forest { cutting with
      bodies := ((node.key, below + 1), forest.unfold below node) :: cutting.bodies } := by
  intro key depth body found other reachable' sameKey
  rw [List.lookup_cons] at found
  split at found
  · next same =>
    simp only [beq_iff_eq, Prod.mk.injEq, Nat.add_right_cancel_iff] at same
    obtain ⟨rfl, rfl⟩ := same
    have sameBody := shares other node reachable' reachable sameKey
    cases found
    exact ⟨(unfold_congr sameBody).symm, fun beyond => noted ((hasBelow_congr sameBody).1 beyond)⟩
  · exact h key depth body found other reachable' sameKey

/-- Cutting a body does what it should, if cutting the bodies of the nodes in it does. -/
theorem cuts_of_each {reason : Prop} {below : Nat} {node : CallNode}
    (reachable : forest.Reachable node) {cutting : Cutting} (right : cutting.Right forest)
    (justified : cutting.deeper = true → reason)
    (why : forest.HasBelow (below + 1) node → reason)
    (each : ∀ less, below = less + 1 → ∀ child ∈ forest.children node, ∀ cutting : Cutting,
      cutting.Right forest → (cutting.deeper = true → reason) →
      Cutting.Cuts forest reason child less cutting (forest.cutBody less child cutting)) :
    Cutting.Cuts forest reason node below cutting (forest.cutBody below node cutting) := by
  cases kept : cutting.bodies.lookup (node.key, below + 1) with
  | some body =>
      obtain ⟨written, deep⟩ := right node.key below body kept node reachable rfl
      rw [cutBody_of_kept kept]
      exact ⟨written, right, fun noted => noted, justified, deep⟩
  | none =>
      obtain ⟨⟨right', justified'⟩, keeps, expands⟩ := Tree.expands_flatMapM
        (forest.cutEffect reason below) rfl (forest.body node) (holds_cutItem each why)
        ⟨right, justified⟩
      have written := (expands.imp fun _ _ related => related.1).eq_flatMap
      have noted : forest.HasBelow (below + 1) node →
          ((forest.body node).mapM (forest.cutItem below) cutting).2.deeper = true := by
        rintro ⟨other, path⟩
        obtain ⟨child, mem, path⟩ := steps_succ_iff.1 path
        obtain ⟨item, listed, isNode⟩ := List.mem_filterMap.1 mem
        obtain ⟨part, ⟨-, deep⟩, -⟩ := expands.exists_part listed
        cases item with
        | invoked call => cases isNode
        | call other =>
            cases isNode
            exact deep child rfl ⟨_, path⟩
      rw [cutBody_of_new kept]
      refine ⟨written, ?_, keeps, justified', noted⟩
      have kept' := Cutting.Right.keep shares right' reachable noted
      rwa [← show _ = forest.unfold below node from written] at kept'

theorem cuts_cutBody {reason : Prop} {below : Nat} {node : CallNode}
    (reachable : forest.Reachable node) {cutting : Cutting} (right : cutting.Right forest)
    (justified : cutting.deeper = true → reason)
    (why : forest.HasBelow (below + 1) node → reason) :
    Cutting.Cuts forest reason node below cutting (forest.cutBody below node cutting) := by
  induction below generalizing node cutting with
  | zero =>
      refine cuts_of_each shares reachable right justified why fun less same => ?_
      cases same
  | succ below ih =>
      refine cuts_of_each shares reachable right justified why
        fun less same child mem cutting right justified => ?_
      obtain rfl := Nat.succ.inj same
      exact ih (reachable.child mem) right justified fun beyond => why (hasBelow_succ mem beyond)

theorem cuts_cut {node : CallNode} (reachable : forest.Reachable node) (below : Nat) :
    Cutting.Cuts forest (forest.HasBelow (below + 1) node) node below ⟨[], false⟩
      (forest.cutBody below node ⟨[], false⟩) :=
  cuts_cutBody shares reachable (by rintro key below body ⟨⟩) (by rintro ⟨⟩) fun beyond => beyond

/-- A cut is the node written out. -/
theorem cut_excerpt {node : CallNode} (reachable : forest.Reachable node) (below : Nat) :
    (forest.cut node (below + 1)).excerpt = forest.unfolded below node := by
  rw [unfolded, ← (cuts_cut shares reachable below).body]
  rfl

/-- A cut tells whether nodes were left out. -/
theorem cut_hasDeeper_iff {node : CallNode} (reachable : forest.Reachable node) (below : Nat) :
    (forest.cut node (below + 1)).hasDeeper = true ↔ forest.HasBelow (below + 1) node :=
  ⟨(cuts_cut shares reachable below).justified, (cuts_cut shares reachable below).noted⟩

end Cut

/-- Forests that agree have the same cuts. -/
theorem cut_eq_of_agrees {other : Forest} (agrees : forest.Agrees other)
    (shares : forest.SharesBodies) {node : CallNode} (reachable : forest.Reachable node)
    (depth : Nat) : other.cut node depth = forest.cut node depth := by
  have shares' := agrees.sharesBodies shares
  have reachable' := agrees.reachable_iff.2 reachable
  have deep : ∀ below, other.cut node (below + 1) = forest.cut node (below + 1) := fun below => by
    have excerpt : (other.cut node (below + 1)).excerpt =
        (forest.cut node (below + 1)).excerpt := by
      rw [cut_excerpt shares reachable, cut_excerpt shares' reachable', unfolded, unfolded,
        agrees.unfold below reachable]
    have hasDeeper : (other.cut node (below + 1)).hasDeeper =
        (forest.cut node (below + 1)).hasDeeper := by
      rw [Bool.eq_iff_iff, cut_hasDeeper_iff shares reachable, cut_hasDeeper_iff shares' reachable',
        agrees.hasBelow reachable]
    cases cut : other.cut node (below + 1)
    cases cut' : forest.cut node (below + 1)
    rw [cut, cut'] at excerpt hasDeeper
    rw [Cut.mk.injEq]
    exact ⟨excerpt, hasDeeper⟩
  -- A cut at depth 0 is one at depth 1.
  cases depth with
  | zero => exact deep 0
  | succ below => exact deep below

end Forest

end CallSearch
