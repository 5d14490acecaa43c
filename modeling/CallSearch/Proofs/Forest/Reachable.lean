/-
# CallSearch.Proofs.Forest.Reachable — what is met on the way from the roots

A node is reachable when a chain of nodes, each in the body of the one before, leads to
it from a root.  Bodies are found by number while searches tell nodes apart by key: in
a forest that `SharesBodies` the two agree, as they do in the forests built
(`Expansion.sharesBodies`).

What stands in bodies that no reachable node has is of no account: two forests agree
(`Agrees`) when they have the same roots and the same bodies below them, and then the
same nodes are reachable in both.
-/
import CallSearch.Proofs.Forest.Numbers
import CallSearch.Proofs.Layers
import Mathlib.Algebra.Order.BigOperators.Group.List
import Mathlib.Algebra.Order.Group.Nat

namespace CallSearch

set_option autoImplicit false

open Relation

namespace Forest

/-! ## Reachable nodes -/

/-- The second node stands in the body of the first. -/
def Child (forest : Forest) (parent child : CallNode) : Prop := child ∈ forest.children parent

/-- A chain of nodes leads to the node from a root. -/
def Reachable (forest : Forest) (node : CallNode) : Prop :=
  ∃ root ∈ forest.roots, ReflTransGen forest.Child root node

/-- Reachable nodes with the same callee and context have the same body. -/
def SharesBodies (forest : Forest) : Prop :=
  ∀ node other, forest.Reachable node → forest.Reachable other → node.key = other.key →
    node.body = other.body

section Reach

variable {forest : Forest} {node parent below : CallNode}

theorem reachable_root (mem : node ∈ forest.roots) : forest.Reachable node := ⟨node, mem, .refl⟩

theorem Reachable.child (reachable : forest.Reachable parent)
    (mem : below ∈ forest.children parent) : forest.Reachable below := by
  obtain ⟨root, listed, path⟩ := reachable
  exact ⟨root, listed, path.tail mem⟩

theorem Reachable.trans (reachable : forest.Reachable parent)
    (path : ReflTransGen forest.Child parent below) : forest.Reachable below := by
  obtain ⟨root, listed, before⟩ := reachable
  exact ⟨root, listed, before.trans path⟩

/-- What holds of the roots and goes on from a node to those in its body holds of every reachable
node. -/
theorem Reachable.induct {P : CallNode → Prop} (root : ∀ node ∈ forest.roots, P node)
    (step : ∀ parent child, forest.Reachable parent → P parent → child ∈ forest.children parent →
      P child) (reachable : forest.Reachable node) : P node := by
  obtain ⟨start, listed, path⟩ := reachable
  induction path with
  | refl => exact root start listed
  | tail before last ih => exact step _ _ ⟨start, listed, before⟩ ih last

theorem mem_nodes_of_mem_children (mem : below ∈ forest.children parent) :
    below ∈ forest.nodes := by
  obtain ⟨body, found, here⟩ := mem_children.1 mem
  exact mem_nodes.2 (Or.inr ⟨body, List.mem_of_getElem? found, here⟩)

theorem Reachable.mem_nodes (reachable : forest.Reachable node) : node ∈ forest.nodes :=
  reachable.induct (fun _ mem => Forest.mem_nodes.2 (Or.inl mem))
    fun _ _ _ _ mem => mem_nodes_of_mem_children mem

theorem mem_children_of_leaf (mem : .call below ∈ (forest.body parent).leaves) :
    below ∈ forest.children parent :=
  List.mem_filterMap.2 ⟨.call below, mem, rfl⟩

theorem reachable_of_steps {n : Nat} (reachable : forest.Reachable node) {other : CallNode}
    (steps : Steps forest.children n node other) : forest.Reachable other := by
  induction steps with
  | zero => exact reachable
  | succ _ last ih => exact (ih reachable).child last

theorem children_congr {other : CallNode} (same : node.body = other.body) :
    forest.children node = forest.children other := by
  rw [children, children, body, body, body?, body?, same]

end Reach

/-! ## How many nodes there are -/

theorem nodeCount_eq (forest : Forest) : forest.nodeCount = forest.nodes.length := by
  rw [nodeCount, nodes, List.length_append, List.length_flatMap]
  rfl

theorem length_roots_le (forest : Forest) : forest.roots.length ≤ forest.nodeCount :=
  Nat.le_add_right _ _

theorem length_children_le (forest : Forest) (node : CallNode) :
    (forest.children node).length ≤ forest.nodeCount := by
  rw [children, body, body?]
  cases found : forest.bodies[node.body]? with
  | none => simp [Tree.empty, Tree.leaves, Tree.leavesOfAll]
  | some body =>
      have listed : (body.leaves.filterMap CallItem.node?).length ∈
          forest.bodies.map fun body => (body.leaves.filterMap CallItem.node?).length :=
        List.mem_map_of_mem (List.mem_of_getElem? found)
      exact (List.le_sum_of_mem listed).trans (Nat.le_add_left _ _)

/-- Different keys of reachable nodes do not outnumber the nodes. -/
theorem length_keys_le {forest : Forest} {keys : List NodeKey} (distinct : keys.Nodup)
    (met : ∀ key ∈ keys, ∃ node, forest.Reachable node ∧ node.key = key) :
    keys.length ≤ forest.nodeCount := by
  rw [nodeCount_eq, ← List.length_map CallNode.key]
  refine distinct.length_le_of_subset fun key mem => ?_
  obtain ⟨node, reachable, rfl⟩ := met key mem
  exact List.mem_map_of_mem reachable.mem_nodes

/-- A node that is some steps below a reachable node is so by no more steps than there are
nodes. -/
theorem exists_steps_le {forest : Forest} {node other : CallNode}
    (reachable : forest.Reachable node) {n : Nat} (steps : Steps forest.children n node other) :
    ∃ m ≤ forest.nodeCount, Steps forest.children m node other := by
  obtain ⟨m, distance⟩ := steps.exists_isDistance
  obtain ⟨chain, rfl, distinct, nearer⟩ := distance.exists_chain
  refine ⟨chain.length, ?_, distance.1⟩
  rw [nodeCount_eq]
  refine distinct.length_le_of_subset fun between mem => ?_
  obtain ⟨-, k, -, before⟩ := nearer between mem
  exact (reachable_of_steps reachable before.1).mem_nodes

/-! ## Forests that agree below their roots -/

/-- The second forest has the same roots, and the same bodies below them. -/
structure Agrees (forest other : Forest) : Prop where
  roots : other.roots = forest.roots
  body : ∀ node, forest.Reachable node → other.body node = forest.body node

namespace Agrees

variable {forest other : Forest} (h : forest.Agrees other)

include h

theorem children {node : CallNode} (reachable : forest.Reachable node) :
    other.children node = forest.children node := by
  rw [Forest.children, Forest.children, h.body node reachable]

theorem reachable_iff {node : CallNode} : other.Reachable node ↔ forest.Reachable node := by
  constructor
  · refine fun reachable => reachable.induct (fun root mem => ?_) fun parent child _ here mem => ?_
    · exact reachable_root (h.roots ▸ mem)
    · exact here.child (h.children here ▸ mem)
  · intro reachable
    refine And.right (reachable.induct (P := fun node =>
      forest.Reachable node ∧ other.Reachable node) (fun root mem => ?_)
      fun parent child _ here mem => ?_)
    · exact ⟨reachable_root mem, reachable_root (h.roots.symm ▸ mem)⟩
    · exact ⟨here.1.child mem, here.2.child ((h.children here.1).symm ▸ mem)⟩

theorem symm : other.Agrees forest where
  roots := h.roots.symm
  body node reachable := (h.body node (h.reachable_iff.1 reachable)).symm

theorem steps {n : Nat} {node below : CallNode} (reachable : forest.Reachable node)
    (steps : Steps forest.children n node below) : Steps other.children n node below := by
  induction steps with
  | zero => exact .zero _
  | succ before last ih =>
      exact .succ (ih reachable) ((h.children (reachable_of_steps reachable before)).symm ▸ last)

theorem sharesBodies (shares : forest.SharesBodies) : other.SharesBodies :=
  fun node below reachable reachable' =>
    shares node below (h.reachable_iff.1 reachable) (h.reachable_iff.1 reachable')

end Agrees

/-- The forest with more bodies behind those it has. -/
def withMore (forest : Forest) (more : List (Tree CallItem)) : Forest :=
  { forest with bodies := forest.bodies ++ more }

/-- Where every reachable node has its body, more bodies are not reached. -/
theorem agrees_withMore {forest : Forest}
    (inRange : ∀ node, forest.Reachable node → (forest.body? node).isSome = true)
    (more : List (Tree CallItem)) : forest.Agrees (forest.withMore more) where
  roots := rfl
  body node reachable := by
    obtain ⟨body, found⟩ := Option.isSome_iff_exists.1 (inRange node reachable)
    have inside : node.body < forest.bodies.length := (List.getElem?_eq_some_iff.1 found).1
    rw [Forest.body, Forest.body, body?, body?, withMore, List.getElem?_append_left inside]

/-! ## Forests that are built -/

section Built

variable {source : Source} {forest : Forest} {arena : Arena}
  (expansion : Expansion source forest arena)

include expansion

theorem Expansion.sharesBodies : forest.SharesBodies := by
  intro node other reachable reachable' same
  have number := expansion.number reachable.mem_nodes
  rw [same, expansion.number reachable'.mem_nodes] at number
  exact (Option.some.inj number).symm

/-- The nodes of a body have smaller numbers than the body. -/
theorem Expansion.body_lt {parent child : CallNode} (reachable : forest.Reachable parent)
    (mem : child ∈ forest.children parent) : child.body < parent.body := by
  obtain ⟨body, found, here⟩ := mem_children.1 mem
  rw [expansion.bodies] at found
  obtain ⟨number, stored, isBody⟩ := expansion.sound.isBody
    (⟨parent.body, expansion.number reachable.mem_nodes, found⟩ : arena.HasBody parent.key body)
  cases stored.symm.trans (expansion.number reachable.mem_nodes)
  exact (isBody.nodes child here).2.1

theorem Expansion.body?_isSome {node : CallNode} (reachable : forest.Reachable node) :
    (forest.body? node).isSome = true := by
  have inside := expansion.sound.lt_length (expansion.number reachable.mem_nodes)
  rw [← expansion.bodies] at inside
  rw [body?, List.getElem?_eq_getElem inside]
  rfl

end Built

end Forest

end CallSearch
