/-
# CallSearch.Proofs.Tree.Normal — the canonical form by itself

What `Tree.normalize` returns can be told from its looks.  In a normal tree no sequence
stands directly in a sequence and no alternative directly in an alternative, no node has
exactly one part, the parts of an alternative are strictly increasing, and `alt []` is at
most the whole tree.

* `isNormal_normalize`: the canonical form of a tree is normal;
* `normalize_eq_self`: a normal tree is its own canonical form;
* `normalize_normalize`: so normalizing twice is normalizing once;
* `canonical_normalize`: all of this, and that the sequences stay the same.

The order of trees is transitive because the order of leaves is.  The order lemmas ask for
that of the leaves of one tree only, so that they also serve leaves that hold trees.
-/
import CallSearch.Proofs.Sorted
import CallSearch.Proofs.Tree.Language
import Mathlib.Data.List.Permutation

namespace CallSearch

set_option autoImplicit false
set_option linter.unusedSectionVars false

/-! ## The order of trees -/

namespace Tree

variable {α : Type}

section Order

variable [Ord α]

mutual

/-- Comparing trees the other way round gives the opposite result, if it does so for leaves. -/
theorem order_swap : (a b : Tree α) → (∀ x ∈ a.leaves, ∀ y, compare y x = (compare x y).swap) →
    b.order a = (a.order b).swap
  | .leaf x, b, each => by
      cases b with
      | leaf y =>
          rw [order, order]
          exact each x (by simp [leaves]) y
      | seq | alt => rw [order, order]; rfl
  | .seq as, b, each => by
      rw [leaves] at each
      cases b with
      | seq bs => rw [order, order, orderAll_swap as bs each]
      | leaf | alt => rw [order, order]; rfl
  | .alt as, b, each => by
      rw [leaves] at each
      cases b with
      | alt bs => rw [order, order, orderAll_swap as bs each]
      | leaf | seq => rw [order, order]; rfl

theorem orderAll_swap : (as bs : List (Tree α)) →
    (∀ x ∈ leavesOfAll as, ∀ y, compare y x = (compare x y).swap) →
    orderAll bs as = (orderAll as bs).swap
  | [], [], _ => by rw [orderAll]; rfl
  | [], _ :: _, _ => by rw [orderAll, orderAll]; rfl
  | _ :: _, [], _ => by rw [orderAll, orderAll]; rfl
  | a :: as, b :: bs, each => by
      simp only [leavesOfAll, List.mem_append] at each
      rw [orderAll, orderAll, order_swap a b fun x mem => each x (Or.inl mem),
        orderAll_swap as bs fun x mem => each x (Or.inr mem), Ordering.swap_then]

end

variable [Std.LawfulEqOrd α]

mutual

/-- What comes before a tree comes before whatever comes after that, if it is so for leaves. -/
theorem order_lt_trans : (a b c : Tree α) →
    (∀ x ∈ a.leaves, ∀ y z, compare x y = .lt → compare y z = .lt → compare x z = .lt) →
    a.order b = .lt → b.order c = .lt → a.order c = .lt
  | .leaf x, b, c, each, first, second => by
      cases c with
      | seq | alt => rw [order]
      | leaf z =>
          cases b with
          | seq | alt => simp [order] at second
          | leaf y =>
              rw [order] at first second ⊢
              exact each x (by simp [leaves]) y z first second
  | .seq as, b, c, each, first, second => by
      rw [leaves] at each
      cases b with
      | leaf => simp [order] at first
      | seq bs =>
          cases c with
          | leaf => simp [order] at second
          | seq cs =>
              rw [order] at first second ⊢
              exact orderAll_lt_trans as bs cs each first second
          | alt => rw [order]
      | alt =>
          cases c with
          | leaf | seq => simp [order] at second
          | alt => rw [order]
  | .alt as, b, c, each, first, second => by
      rw [leaves] at each
      cases b with
      | leaf | seq => simp [order] at first
      | alt bs =>
          cases c with
          | leaf | seq => simp [order] at second
          | alt cs =>
              rw [order] at first second ⊢
              exact orderAll_lt_trans as bs cs each first second

theorem orderAll_lt_trans : (as bs cs : List (Tree α)) →
    (∀ x ∈ leavesOfAll as, ∀ y z, compare x y = .lt → compare y z = .lt → compare x z = .lt) →
    orderAll as bs = .lt → orderAll bs cs = .lt → orderAll as cs = .lt
  | [], bs, cs, _, first, second => by
      cases cs with
      | nil => cases bs <;> simp [orderAll] at first second
      | cons => rw [orderAll]
  | _ :: _, [], _, _, first, _ => by simp [orderAll] at first
  | _ :: _, _ :: _, [], _, _, second => by simp [orderAll] at second
  | a :: as, b :: bs, c :: cs, each, first, second => by
      simp only [leavesOfAll, List.mem_append] at each
      rw [orderAll] at first second ⊢
      exact then_lt_trans eq_of_order
        (order_lt_trans a b c fun x mem => each x (Or.inl mem))
        (orderAll_lt_trans as bs cs fun x mem => each x (Or.inr mem)) first second

end

instance [Std.TransOrd α] : Std.TransOrd (Tree α) :=
  transCmp_of_lt
    (fun a b => order_swap a b fun _ _ _ => Std.OrientedCmp.eq_swap) eq_of_order
    fun a b c => order_lt_trans a b c fun _ _ _ _ => Std.TransCmp.lt_trans

end Order

/-! ## Normal trees -/

/-- Whether a tree is a sequence. -/
def IsSeq (tree : Tree α) : Prop := ∃ parts, tree = seq parts

/-- Whether a tree is an alternative. -/
def IsAlt (tree : Tree α) : Prop := ∃ parts, tree = alt parts

theorem segments_of_plain {part : Tree α} (possible : part ≠ .alt []) (plain : ¬ part.IsSeq) :
    segments part = some [part] := by
  match part with
  | .leaf item => rfl
  | .seq inner => exact absurd ⟨inner, rfl⟩ plain
  | .alt [] => exact absurd rfl possible
  | .alt (first :: rest) => rfl

theorem branches_of_plain {part : Tree α} (plain : ¬ part.IsAlt) : part.branches = [part] := by
  match part with
  | .leaf item | .seq inner => rfl
  | .alt inner => exact absurd ⟨inner, rfl⟩ plain

theorem spliceSeq_eq_self {parts : List (Tree α)} (possible : ∀ part ∈ parts, part ≠ .alt [])
    (plain : ∀ part ∈ parts, ¬ part.IsSeq) : spliceSeq parts = some parts := by
  induction parts with
  | nil => rfl
  | cons part rest ih =>
      rw [List.forall_mem_cons] at possible plain
      rw [spliceSeq_cons, segments_of_plain possible.1 plain.1, ih possible.2 plain.2]
      rfl

theorem spliceAlt_eq_self {parts : List (Tree α)} (plain : ∀ part ∈ parts, ¬ part.IsAlt) :
    spliceAlt parts = parts := by
  rw [spliceAlt_eq, List.flatMap_congr fun part mem => branches_of_plain (plain part mem),
    List.flatMap_singleton']

/-- The normal trees that may stand inside others. -/
inductive IsNormalPart [Ord α] : Tree α → Prop
  | leaf (item : α) : IsNormalPart (.leaf item)
  | seq {parts : List (Tree α)} : parts.length ≠ 1 → (∀ part ∈ parts, ¬ part.IsSeq) →
      (∀ part ∈ parts, IsNormalPart part) → IsNormalPart (.seq parts)
  | alt {parts : List (Tree α)} : 2 ≤ parts.length → (∀ part ∈ parts, ¬ part.IsAlt) →
      parts.Pairwise (fun a b => compare a b = .lt) →
      (∀ part ∈ parts, IsNormalPart part) → IsNormalPart (.alt parts)

/-- The trees in canonical form: what can never happen, and what has no such part. -/
def IsNormal [Ord α] (tree : Tree α) : Prop := tree = .alt [] ∨ tree.IsNormalPart

variable [Ord α]

theorem IsNormalPart.ne_dead {tree : Tree α} (normal : tree.IsNormalPart) : tree ≠ .alt [] := by
  rintro rfl
  cases normal with
  | alt several => simp at several

theorem IsNormal.of_mem_segments {part x : Tree α} {inner : List (Tree α)} (normal : part.IsNormal)
    (added : part.segments = some inner) (mem : x ∈ inner) : x.IsNormalPart ∧ ¬ x.IsSeq := by
  rcases normal with rfl | normal
  · cases added
  by_cases nested : part.IsSeq
  · obtain ⟨parts, rfl⟩ := nested
    cases added
    cases normal with
    | seq _ plain each => exact ⟨each x mem, plain x mem⟩
  · rw [segments_of_plain normal.ne_dead nested] at added
    cases added
    obtain rfl := List.mem_singleton.1 mem
    exact ⟨normal, nested⟩

/-- The parts of a sequence in which nothing is impossible, after splicing. -/
theorem isNormalPart_of_spliceSeq {parts flat : List (Tree α)}
    (normal : ∀ part ∈ parts, part.IsNormal) (found : spliceSeq parts = some flat) :
    ∀ part ∈ flat, part.IsNormalPart ∧ ¬ part.IsSeq := by
  intro x mem
  obtain ⟨part, listed, inner, added, here⟩ := exists_of_mem_spliceSeq found mem
  exact (normal part listed).of_mem_segments added here

/-- A sequence of normal parts is rebuilt in normal form. -/
theorem isNormal_chain {parts : List (Tree α)} (normal : ∀ part ∈ parts, part.IsNormal) :
    (chain parts).IsNormal := by
  rw [chain]
  split
  · exact Or.inl rfl
  · next flat found =>
    have each := isNormalPart_of_spliceSeq normal found
    refine Or.inr ?_
    unfold single
    split
    · next part => exact (each part (List.mem_singleton_self part)).1
    · next several =>
      refine .seq (fun one => ?_) (fun part mem => (each part mem).2) fun part mem =>
        (each part mem).1
      obtain ⟨part, same⟩ := List.length_eq_one_iff.1 one
      exact several part same

theorem IsNormal.of_mem_branches {part x : Tree α} (normal : part.IsNormal)
    (mem : x ∈ part.branches) : x.IsNormalPart ∧ ¬ x.IsAlt := by
  rcases normal with rfl | normal
  · cases mem
  by_cases nested : part.IsAlt
  · obtain ⟨parts, rfl⟩ := nested
    cases normal with
    | alt _ plain _ each => exact ⟨each x mem, plain x mem⟩
  · rw [branches_of_plain nested, List.mem_singleton] at mem
    exact mem ▸ ⟨normal, nested⟩

theorem isNormalPart_of_mem_spliceAlt {parts : List (Tree α)}
    (normal : ∀ part ∈ parts, part.IsNormal) :
    ∀ part ∈ spliceAlt parts, part.IsNormalPart ∧ ¬ part.IsAlt := by
  intro x mem
  obtain ⟨part, listed, here⟩ := mem_spliceAlt.1 mem
  exact (normal part listed).of_mem_branches here

section Canonical

variable [Std.TransOrd α] [Std.LawfulEqOrd α]

/-- An alternative of normal parts is rebuilt in normal form. -/
theorem isNormal_choice {parts : List (Tree α)} (normal : ∀ part ∈ parts, part.IsNormal) :
    (choice parts).IsNormal := by
  have each : ∀ part ∈ sortUnique (spliceAlt parts), part.IsNormalPart ∧ ¬ part.IsAlt :=
    fun part mem => isNormalPart_of_mem_spliceAlt normal part (mem_sortUnique.1 mem)
  have increasing := sortUnique_pairwise (spliceAlt parts)
  rw [choice]
  generalize sortUnique (spliceAlt parts) = sorted at each increasing
  rcases sorted with _ | ⟨first, _ | ⟨second, rest⟩⟩
  · exact Or.inl rfl
  · exact Or.inr (each first (List.mem_singleton_self first)).1
  · exact Or.inr (.alt (by simp) (fun part mem => (each part mem).2) increasing
      fun part mem => (each part mem).1)

mutual

/-- The canonical form of a tree is normal. -/
theorem isNormal_normalize : (tree : Tree α) → tree.normalize.IsNormal
  | .leaf item => by
      rw [normalize]
      exact Or.inr (.leaf item)
  | .seq parts => by
      rw [normalize]
      exact isNormal_chain (isNormal_of_mem_normalizeAll parts)
  | .alt parts => by
      rw [normalize]
      exact isNormal_choice (isNormal_of_mem_normalizeAll parts)

theorem isNormal_of_mem_normalizeAll : (parts : List (Tree α)) →
    ∀ part ∈ normalizeAll parts, part.IsNormal
  | [], part, mem => by simp [normalizeAll] at mem
  | first :: rest, part, mem => by
      rw [normalizeAll] at mem
      rcases List.mem_cons.1 mem with rfl | mem
      · exact isNormal_normalize first
      · exact isNormal_of_mem_normalizeAll rest part mem

end

end Canonical

/-! ## Fixed points -/

theorem normalizeAll_eq_self {parts : List (Tree α)}
    (each : ∀ part ∈ parts, part.normalize = part) : normalizeAll parts = parts := by
  induction parts with
  | nil => rw [normalizeAll]
  | cons part rest ih =>
      rw [normalizeAll, each part List.mem_cons_self,
        ih fun other mem => each other (List.mem_cons_of_mem _ mem)]

variable [Std.TransOrd α] [Std.LawfulEqOrd α]

theorem IsNormalPart.normalize_eq_self {tree : Tree α} (normal : tree.IsNormalPart) :
    tree.normalize = tree := by
  induction normal with
  | leaf item => rw [normalize]
  | seq several plain each ih =>
      rw [normalize, normalizeAll_eq_self ih, chain,
        spliceSeq_eq_self (fun part mem => (each part mem).ne_dead) plain]
      exact single_eq several
  | alt several plain increasing _ ih =>
      rw [normalize, normalizeAll_eq_self ih, choice, spliceAlt_eq_self plain,
        sortUnique_eq_self increasing]
      exact single_eq (by omega)

/-- A normal tree is its own canonical form. -/
theorem IsNormal.normalize_eq_self {tree : Tree α} (normal : tree.IsNormal) :
    tree.normalize = tree := by
  rcases normal with rfl | normal
  · rw [normalize, normalizeAll, choice, spliceAlt, sortUnique_eq_self .nil]
    rfl
  · exact normal.normalize_eq_self

/-- Normalizing twice is normalizing once. -/
theorem normalize_normalize (tree : Tree α) : tree.normalize.normalize = tree.normalize :=
  (isNormal_normalize tree).normalize_eq_self

/-- The canonical form stands for the same sequences and is normal.  The normal trees are those
that normalizing leaves as they are, so a second time changes nothing. -/
theorem canonical_normalize (tree : Tree α) :
    tree.normalize.language = tree.language ∧ tree.normalize.IsNormal ∧
      (tree.IsNormal ↔ tree.normalize = tree) ∧
      tree.normalize.normalize = tree.normalize := by
  have normal := isNormal_normalize tree
  refine ⟨language_normalize tree, normal, ⟨fun here => here.normalize_eq_self, fun same => ?_⟩,
    normalize_normalize tree⟩
  rwa [same] at normal

/-- A tree with an impossible sequence, alternatives out of order and twice, and single parts whose
collapse opens new places to splice. -/
def sampleTangled : Tree Nat :=
  .alt [.seq [.leaf 2, .alt []], .seq [.alt [.leaf 3, .seq [.seq [.leaf 1], .seq []]]], .leaf 3,
    .seq [.seq [.leaf 1, .leaf 2]], .seq []]

/-- The canonical form of the sample: nothing, one of two leaves, or two leaves. -/
theorem canonical_normalize_sampleTangled :
    sampleTangled.normalize =
      .alt [.leaf 1, .leaf 3, .seq [], .seq [.leaf 1, .leaf 2]] ∧
    sampleTangled.normalize.language = sampleTangled.language ∧
    sampleTangled.normalize.IsNormal ∧ ¬sampleTangled.IsNormal := by
  have form : sampleTangled.normalize =
      .alt [.leaf 1, .leaf 3, .seq [], .seq [.leaf 1, .leaf 2]] := by cbv
  obtain ⟨same, normal, fixed, -⟩ := canonical_normalize sampleTangled
  refine ⟨form, same, normal, fun here => ?_⟩
  have parts := form.symm.trans (fixed.1 here)
  simp [sampleTangled] at parts

end Tree

end CallSearch
