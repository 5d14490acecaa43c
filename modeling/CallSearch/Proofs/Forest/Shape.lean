/-
# CallSearch.Proofs.Forest.Shape — bodies without numbers

The number of a body tells when it was stored, and the rest of a body does not depend
on it: where nodes are numbered by their keys, leaves compare the same without
numbers (`compare_unnumbered`), and normal bodies stay normal.  What is left of a body
(`bodyShape`) is known from the tree of its method, the methods being expanded and the
contexts of those that are not.
-/
import CallSearch.Proofs.Forest.Build
import CallSearch.Proofs.Tree.Map

namespace CallSearch

set_option autoImplicit false

/-- A leaf without the number of its body. -/
def CallItem.unnumbered : CallItem → CallItem
  | .invoked site => .invoked site
  | .call node => .call { node with body := 0 }

namespace CallItem

theorem invocation_unnumbered (item : CallItem) : item.unnumbered.invocation = item.invocation := by
  cases item <;> rfl

theorem unnumbered_eq_call {item : CallItem} {node : CallNode}
    (same : item.unnumbered = .call node) : ∃ other, item = .call other ∧ other.key = node.key := by
  cases item with
  | invoked call => cases same
  | call other =>
      cases same
      exact ⟨other, rfl, rfl⟩

end CallItem

namespace Forest

namespace Arena

/-- A leaf whose node, if it has one, has the number of its key. -/
def Numbers (arena : Arena) (item : CallItem) : Prop :=
  ∀ node, item = .call node → arena.numbers.get? node.key = some node.body

/-- Without their numbers leaves compare as they do with them. -/
theorem compare_unnumbered {arena : Arena} (a : CallItem) (ha : arena.Numbers a) (b : CallItem)
    (hb : arena.Numbers b) : compare a.unnumbered b.unnumbered = compare a b := by
  cases a with
  | invoked call => cases b <;> rfl
  | call node =>
      cases b with
      | invoked call => rfl
      | call other =>
          have parts : ∀ body body', compare (CallItem.call { node with body })
                (CallItem.call { other with body := body' }) =
              (compare node.call other.call).then
                ((compare node.context other.context).then (compare body body')) :=
            fun _ _ => rfl
          refine (parts 0 0).trans ((parts node.body other.body).trans ?_).symm
          -- Nodes that agree on call and context have one key, hence one number.
          cases calls : compare node.call other.call <;> try rfl
          cases contexts : compare node.context other.context <;> try rfl
          have sameCall := Std.LawfulEqCmp.eq_of_compare calls
          have sameContext := Std.LawfulEqCmp.eq_of_compare contexts
          have sameKey : node.key = other.key := by
            rw [CallNode.key, CallNode.key, CallNode.callee, CallNode.callee, sameCall, sameContext]
          have number := ha node rfl
          rw [sameKey, hb other rfl] at number
          rw [Option.some.inj number]
          simp

/-- A body without numbers is normal when it is so with them. -/
theorem normalize_unnumbered {arena : Arena} {tree : Tree CallItem}
    (numbered : ∀ item ∈ tree.leaves, arena.Numbers item) :
    (tree.map CallItem.unnumbered).normalize = tree.normalize.map CallItem.unnumbered :=
  Tree.normalize_map compare_unnumbered numbered

/-- The body of a key, without numbers. -/
def shape? (arena : Arena) (key : NodeKey) : Option (Tree CallItem) :=
  (arena.numbers.get? key).bind fun number =>
    arena.bodies[number]?.map (Tree.map CallItem.unnumbered)

end Arena

/-! ## Shapes -/

section Shape

variable (trees : MethodTrees) (dispatch : Dispatch) (expanding : List Signature)
  (contextOf : Signature → Option Signature)

/-- What stands for a call on one of the methods it may land on. -/
def alternativeShape (call : Invocation) (target : Signature) : Tree CallItem :=
  if target ∈ expanding ∨ trees.contains target = false then
    .leaf (.invoked (call.retarget target))
  else .leaf (.call ⟨call.retarget target, contextOf target, 0⟩)

/-- What stands for a call. -/
def callShape (call : Invocation) : Tree CallItem :=
  if dispatch.resolve call = [] then .leaf (.invoked call)
  else (Tree.alt ((dispatch.resolve call).map
    (alternativeShape trees expanding contextOf call))).normalize

/-- What stands for the tree of a method. -/
def bodyShape (tree : Tree Invocation) : Tree CallItem :=
  (tree.flatMap (callShape trees dispatch expanding contextOf)).normalize

variable {trees dispatch expanding contextOf}

/-- A shape depends on whether the methods called are being expanded, and on their contexts. -/
theorem bodyShape_congr {others : List Signature} {contextOf' : Signature → Option Signature}
    {method : Signature} {tree : Tree Invocation} (found : trees.get? method = some tree)
    (same : ∀ target, Calls trees dispatch method target →
      (target ∈ expanding ↔ target ∈ others) ∧
        (target ∉ expanding → contextOf target = contextOf' target)) :
    bodyShape trees dispatch expanding contextOf tree =
      bodyShape trees dispatch others contextOf' tree := by
  rw [bodyShape, bodyShape, Tree.flatMap_congr fun call mem => ?_]
  rw [callShape, callShape, List.map_congr_left fun target lands => ?_]
  rw [alternativeShape, alternativeShape]
  cases contained : trees.contains target with
  | false => simp
  | true =>
      obtain ⟨members, contexts⟩ :=
        same target (HasCall.calls ⟨tree, found, mem⟩ lands contained)
      by_cases pending : target ∈ expanding
      · rw [if_pos (Or.inl pending), if_pos (Or.inl (members.1 pending))]
      · rw [if_neg (by simpa using pending), if_neg (by simpa using mt members.2 pending),
          contexts pending]

end Shape

end Forest

end CallSearch
