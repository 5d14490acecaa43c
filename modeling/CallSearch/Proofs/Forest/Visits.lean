/-
# CallSearch.Proofs.Forest.Visits — every node is met

`Visits` is the walk of `visitsFrom` without its bound.  Each key puts its children in
front once and there are no more keys than nodes, so the bound is never reached
(`visits_run`).

Every node met is reachable.  The children of a node whose key was met before are left
out, so all reachable nodes are met where nodes with one key have one body
(`mem_visits_iff`); elsewhere a node may hide behind another with its key.
-/
import CallSearch.Proofs.Forest.Reachable

namespace CallSearch.Forest

set_option autoImplicit false

open Relation

/-- Taking pending nodes one by one meets some nodes, the children of a node being put in front
unless its key was met before. -/
inductive Visits (forest : Forest) : List NodeKey → List CallNode → List CallNode → Prop
  | nil (met : List NodeKey) : Visits forest met [] []
  | known {met : List NodeKey} {node : CallNode} {pending rest : List CallNode} :
      node.key ∈ met → Visits forest met pending rest →
      Visits forest met (node :: pending) (node :: rest)
  | fresh {met : List NodeKey} {node : CallNode} {pending rest : List CallNode} :
      node.key ∉ met →
      Visits forest (node.key :: met) ((forest.children node).reverse ++ pending) rest →
      Visits forest met (node :: pending) (node :: rest)

variable {forest : Forest}

/-! ## The bound is not reached -/

/-- The steps left when some keys were met. -/
private theorem enough_steps {count met waiting children steps : Nat} (below : met + 1 ≤ count)
    (few : children ≤ count) (enough : (count - met) * count + (waiting + 1) ≤ steps + 1) :
    (count - (met + 1)) * count + (children + waiting) ≤ steps := by
  obtain ⟨left, rfl⟩ := Nat.exists_eq_add_of_le below
  rw [show met + 1 + left - met = left + 1 by omega, Nat.succ_mul] at enough
  rw [show met + 1 + left - (met + 1) = left by omega]
  omega

theorem visits_visitsFrom {steps : Nat} {met : List NodeKey} {pending : List CallNode}
    (distinct : met.Nodup) (known : ∀ key ∈ met, ∃ node, forest.Reachable node ∧ node.key = key)
    (reachable : ∀ node ∈ pending, forest.Reachable node)
    (enough : (forest.nodeCount - met.length) * forest.nodeCount + pending.length ≤ steps) :
    forest.Visits met pending (forest.visitsFrom steps met pending) := by
  induction steps generalizing met pending with
  | zero =>
      obtain rfl : pending = [] := List.length_eq_zero_iff.1 (by omega)
      exact .nil met
  | succ steps ih =>
      cases pending with
      | nil => exact .nil met
      | cons node pending =>
          obtain ⟨here, behind⟩ := List.forall_mem_cons.1 reachable
          rw [List.length_cons] at enough
          rw [visitsFrom]
          by_cases seen : node.key ∈ met
          · rw [if_pos (by simpa using seen)]
            exact .known seen (ih distinct known behind (by omega))
          · rw [if_neg (by simpa using seen)]
            have distinct' : (node.key :: met).Nodup := List.nodup_cons.2 ⟨seen, distinct⟩
            have known' : ∀ key ∈ node.key :: met,
                ∃ node, forest.Reachable node ∧ node.key = key :=
              List.forall_mem_cons.2 ⟨⟨node, here, rfl⟩, known⟩
            refine .fresh seen (ih distinct' known' (fun other mem => ?_) ?_)
            · rcases List.mem_append.1 mem with mem | mem
              · exact here.child (List.mem_reverse.1 mem)
              · exact behind other mem
            · rw [List.length_append, List.length_reverse, List.length_cons]
              exact enough_steps (by simpa using length_keys_le distinct' known')
                (length_children_le forest node) enough

/-- The nodes of a forest are met without reaching the bound. -/
theorem visits_run (forest : Forest) : forest.Visits [] forest.roots.reverse forest.visits := by
  refine visits_visitsFrom List.nodup_nil (by simp) (fun root mem => ?_) ?_
  · exact reachable_root (List.mem_reverse.1 mem)
  · have := length_roots_le forest
    rw [List.length_nil, List.length_reverse, Nat.sub_zero]
    omega

/-! ## What is met -/

namespace Visits

variable {met : List NodeKey} {pending visited : List CallNode}

theorem reachable (h : forest.Visits met pending visited)
    (start : ∀ node ∈ pending, forest.Reachable node) : ∀ node ∈ visited, forest.Reachable node := by
  induction h with
  | nil => exact start
  | known _ _ ih =>
      obtain ⟨here, behind⟩ := List.forall_mem_cons.1 start
      exact List.forall_mem_cons.2 ⟨here, ih behind⟩
  | fresh _ _ ih =>
      obtain ⟨here, behind⟩ := List.forall_mem_cons.1 start
      refine List.forall_mem_cons.2 ⟨here, ih fun other mem => ?_⟩
      rcases List.mem_append.1 mem with mem | mem
      · exact here.child (List.mem_reverse.1 mem)
      · exact behind other mem

/-- All pending nodes are met, and with a node whose key is new its children. -/
theorem closed (shares : forest.SharesBodies) (h : forest.Visits met pending visited)
    (start : ∀ node ∈ pending, forest.Reachable node) :
    (∀ node ∈ pending, node ∈ visited) ∧
      ∀ node ∈ visited, node.key ∉ met → ∀ child ∈ forest.children node, child ∈ visited := by
  induction h with
  | nil => exact ⟨by simp, by simp⟩
  | @known met node pending rest seen h ih =>
      obtain ⟨-, behind⟩ := List.forall_mem_cons.1 start
      obtain ⟨taken, below⟩ := ih behind
      refine ⟨fun other mem => ?_, fun other mem new child mem' => ?_⟩
      · exact (List.mem_cons.1 mem).elim (· ▸ List.mem_cons_self)
          fun mem => List.mem_cons_of_mem _ (taken other mem)
      · rcases List.mem_cons.1 mem with rfl | mem
        · exact absurd seen new
        · exact List.mem_cons_of_mem _ (below other mem new child mem')
  | @fresh met node pending rest new h ih =>
      obtain ⟨here, behind⟩ := List.forall_mem_cons.1 start
      have start' : ∀ other ∈ (forest.children node).reverse ++ pending,
          forest.Reachable other := fun other mem =>
        (List.mem_append.1 mem).elim (fun mem => here.child (List.mem_reverse.1 mem)) (behind other)
      obtain ⟨taken, below⟩ := ih start'
      refine ⟨fun other mem => ?_, fun other mem off child mem' => List.mem_cons_of_mem _ ?_⟩
      · rcases List.mem_cons.1 mem with rfl | mem
        · exact List.mem_cons_self
        · exact List.mem_cons_of_mem _ (taken other (List.mem_append_right _ mem))
      · by_cases same : other.key = node.key
        · -- Another node with the key of this one has its children, which are pending.
          have reachable : forest.Reachable other := by
            rcases List.mem_cons.1 mem with rfl | mem
            · exact here
            · exact h.reachable start' other mem
          rw [children_congr (shares other node reachable here same)] at mem'
          exact taken child (List.mem_append_left _ (List.mem_reverse.2 mem'))
        · have mem : other ∈ rest := (List.mem_cons.1 mem).resolve_left fun is => same (is ▸ rfl)
          exact below other mem (by simp [same, off]) child mem'

/-- Forests that agree meet the same nodes. -/
theorem eq_of_agrees {other : Forest} (agrees : forest.Agrees other) {others : List CallNode}
    (h : forest.Visits met pending visited) (h' : other.Visits met pending others)
    (start : ∀ node ∈ pending, forest.Reachable node) : visited = others := by
  induction h generalizing others with
  | nil =>
      cases h'
      rfl
  | known seen _ ih =>
      cases h' with
      | known _ h' => rw [ih h' (List.forall_mem_cons.1 start).2]
      | fresh new _ => exact absurd seen new
  | fresh new _ ih =>
      cases h' with
      | known seen _ => exact absurd seen new
      | fresh _ h' =>
          obtain ⟨here, behind⟩ := List.forall_mem_cons.1 start
          rw [agrees.children here] at h'
          refine congrArg _ (ih h' fun other mem => ?_)
          exact (List.mem_append.1 mem).elim (fun mem => here.child (List.mem_reverse.1 mem))
            (behind other)

end Visits

theorem reachable_of_mem_visits {node : CallNode} (mem : node ∈ forest.visits) :
    forest.Reachable node :=
  (visits_run forest).reachable (fun _ listed => reachable_root (List.mem_reverse.1 listed)) node mem

/-- Where nodes with one key have one body, exactly the reachable nodes are met. -/
theorem mem_visits_iff (shares : forest.SharesBodies) {node : CallNode} :
    node ∈ forest.visits ↔ forest.Reachable node := by
  refine ⟨reachable_of_mem_visits, fun reachable => ?_⟩
  obtain ⟨taken, below⟩ := (visits_run forest).closed shares
    fun _ listed => reachable_root (List.mem_reverse.1 listed)
  exact reachable.induct (fun root listed => taken root (List.mem_reverse.2 listed))
    fun parent child _ met mem => below parent met List.not_mem_nil child mem

theorem visits_eq_of_agrees {other : Forest} (agrees : forest.Agrees other) :
    other.visits = forest.visits := by
  have run := visits_run other
  rw [agrees.roots] at run
  exact ((visits_run forest).eq_of_agrees agrees run
    fun _ listed => reachable_root (List.mem_reverse.1 listed)).symm

end CallSearch.Forest
