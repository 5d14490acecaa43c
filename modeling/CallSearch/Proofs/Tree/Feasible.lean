/-
# CallSearch.Proofs.Tree.Feasible — trees without impossible parts

Where no part of a tree is impossible, neither the canonical form nor a
substitution makes one so, and the canonical form keeps every leaf: an alternative
that can never happen is the only thing normalizing throws away.  Where every node of a
tree has parts, the same holds of the canonical form: `Solid.normalize`.
-/
import CallSearch.Proofs.Tree.Language

namespace CallSearch.Tree

set_option autoImplicit false
set_option linter.unusedSectionVars false

variable {α β : Type}

/-! ## Canonical form -/

theorem Feasible.ne_dead {tree : Tree α} (feasible : tree.Feasible) : tree ≠ .alt [] := by
  rintro rfl
  exact (feasible_alt.1 feasible).1 rfl

theorem Feasible.of_mem_segments {part x : Tree α} {inner : List (Tree α)}
    (feasible : part.Feasible) (added : part.segments = some inner) (mem : x ∈ inner) :
    x.Feasible := by
  rcases segments_eq_some added with rfl | rfl
  · exact feasible_seq.1 feasible x mem
  · exact List.mem_singleton.1 mem ▸ feasible

theorem feasible_chain {parts : List (Tree α)} (all : ∀ part ∈ parts, part.Feasible) :
    (chain parts).Feasible := by
  obtain ⟨flat, found⟩ := exists_spliceSeq fun part mem => (all part mem).ne_dead
  have good : ∀ x ∈ flat, x.Feasible := by
    intro x mem
    obtain ⟨part, listed, inner, added, here⟩ := exists_of_mem_spliceSeq found mem
    exact (all part listed).of_mem_segments added here
  rw [chain, found]
  exact single_of good (feasible_seq.2 good)

theorem Feasible.of_mem_branches {part x : Tree α} (feasible : part.Feasible)
    (mem : x ∈ part.branches) : x.Feasible := by
  rcases part.branches_cases with nested | plain
  · rw [nested] at feasible
    exact (feasible_alt.1 feasible).2 x mem
  · rw [plain] at mem
    exact List.mem_singleton.1 mem ▸ feasible

theorem Feasible.branches_ne_nil {part : Tree α} (feasible : part.Feasible) :
    part.branches ≠ [] := by
  rcases part.branches_cases with nested | plain
  · rw [nested] at feasible
    exact (feasible_alt.1 feasible).1
  · simp [plain]

theorem spliceAlt_ne_nil {parts : List (Tree α)} (all : ∀ part ∈ parts, part.Feasible)
    (some : parts ≠ []) : spliceAlt parts ≠ [] := by
  obtain ⟨part, listed⟩ := List.exists_mem_of_ne_nil parts some
  obtain ⟨x, here⟩ := List.exists_mem_of_ne_nil _ (all part listed).branches_ne_nil
  exact List.ne_nil_of_mem (mem_spliceAlt.2 ⟨part, listed, here⟩)

section Normal

variable [Ord α] [Std.LawfulEqOrd α]

theorem sortUnique_ne_nil {items : List α} (h : items ≠ []) : sortUnique items ≠ [] := by
  obtain ⟨item, mem⟩ := List.exists_mem_of_ne_nil items h
  exact List.ne_nil_of_mem (mem_sortUnique.2 mem)

theorem feasible_choice {parts : List (Tree α)} (all : ∀ part ∈ parts, part.Feasible)
    (some : parts ≠ []) : (choice parts).Feasible := by
  have good : ∀ x ∈ sortUnique (spliceAlt parts), x.Feasible := by
    intro x mem
    obtain ⟨part, listed, here⟩ := mem_spliceAlt.1 (mem_sortUnique.1 mem)
    exact (all part listed).of_mem_branches here
  exact single_of good (feasible_alt.2 ⟨sortUnique_ne_nil (spliceAlt_ne_nil all some), good⟩)

mutual

/-- The canonical form of a tree without impossible parts has none. -/
theorem Feasible.normalize : {tree : Tree α} → tree.Feasible → tree.normalize.Feasible
  | .leaf _, h => by rwa [Tree.normalize]
  | .seq parts, h => by
      rw [Tree.normalize]
      exact feasible_chain (feasible_normalizeAll (feasible_seq.1 h))
  | .alt parts, h => by
      rw [Tree.normalize]
      obtain ⟨some, all⟩ := feasible_alt.1 h
      refine feasible_choice (feasible_normalizeAll all) ?_
      cases parts with
      | nil => exact absurd rfl some
      | cons part rest => simp [normalizeAll]

theorem feasible_normalizeAll : {parts : List (Tree α)} → (∀ part ∈ parts, part.Feasible) →
    ∀ part ∈ normalizeAll parts, part.Feasible
  | [], _ => by simp [normalizeAll]
  | first :: rest, all => by
      intro part h
      rw [normalizeAll] at h
      rcases List.mem_cons.1 h with rfl | h
      · exact Feasible.normalize (all first List.mem_cons_self)
      · exact feasible_normalizeAll (fun part h => all part (List.mem_cons_of_mem _ h)) part h

end

/-- The canonical form of a tree without impossible parts has the same leaves. -/
theorem mem_leaves_normalize {x : α} {tree : Tree α} (feasible : tree.Feasible) :
    x ∈ tree.normalize.leaves ↔ x ∈ tree.leaves := by
  rw [mem_leaves_iff feasible.normalize, mem_leaves_iff feasible, language_normalize]

end Normal

/-! ## Trees in which every node has parts -/

/-- No sequence and no alternative of the tree is without parts. -/
inductive Solid : Tree α → Prop
  | leaf (item : α) : Solid (.leaf item)
  | seq {parts : List (Tree α)} : parts ≠ [] → (∀ part ∈ parts, Solid part) → Solid (.seq parts)
  | alt {parts : List (Tree α)} : parts ≠ [] → (∀ part ∈ parts, Solid part) → Solid (.alt parts)

theorem Solid.feasible {tree : Tree α} (solid : tree.Solid) : tree.Feasible := by
  induction solid with
  | leaf item =>
      rw [Feasible]
      trivial
  | seq _ _ ih => exact feasible_seq.2 ih
  | alt some _ ih => exact feasible_alt.2 ⟨some, ih⟩

theorem Solid.exists_leaf {tree : Tree α} (solid : tree.Solid) : ∃ item, item ∈ tree.leaves := by
  induction solid with
  | leaf item => exact ⟨item, by simp [leaves]⟩
  | seq some _ ih | alt some _ ih =>
      obtain ⟨part, mem⟩ := List.exists_mem_of_ne_nil _ some
      obtain ⟨item, here⟩ := ih part mem
      rw [leaves]
      exact ⟨item, mem_leavesOfAll.2 ⟨part, mem, here⟩⟩

theorem Solid.of_mem_segments {part x : Tree α} {inner : List (Tree α)} (solid : part.Solid)
    (added : part.segments = some inner) (mem : x ∈ inner) : x.Solid := by
  rcases segments_eq_some added with rfl | rfl
  · cases solid with
    | seq _ inside => exact inside x mem
  · exact List.mem_singleton.1 mem ▸ solid

theorem solid_chain {parts : List (Tree α)} (some : parts ≠ []) (all : ∀ part ∈ parts, part.Solid) :
    (chain parts).Solid := by
  obtain ⟨flat, found⟩ := exists_spliceSeq fun part mem => (all part mem).feasible.ne_dead
  have good : ∀ x ∈ flat, x.Solid := by
    intro x mem
    obtain ⟨part, listed, inner, added, here⟩ := exists_of_mem_spliceSeq found mem
    exact (all part listed).of_mem_segments added here
  -- The parts have a leaf, and splicing keeps it.
  have inhabited : flat ≠ [] := by
    rintro rfl
    obtain ⟨item, here⟩ := (Solid.seq some all).exists_leaf
    rw [leaves, ← leavesOfAll_spliceSeq found] at here
    cases here
  rw [chain, found]
  exact single_of good (.seq inhabited good)

theorem Solid.of_mem_branches {part x : Tree α} (solid : part.Solid) (mem : x ∈ part.branches) :
    x.Solid := by
  rcases part.branches_cases with nested | plain
  · rw [nested] at solid
    cases solid with
    | alt _ inside => exact inside x mem
  · rw [plain] at mem
    exact List.mem_singleton.1 mem ▸ solid

section Normal

variable [Ord α] [Std.LawfulEqOrd α]

theorem normalizeAll_eq_map (parts : List (Tree α)) :
    normalizeAll parts = parts.map normalize := by
  induction parts with
  | nil => rw [normalizeAll, List.map_nil]
  | cons part rest ih => rw [normalizeAll, ih, List.map_cons]

theorem solid_choice {parts : List (Tree α)} (some : parts ≠ [])
    (all : ∀ part ∈ parts, part.Solid) : (choice parts).Solid := by
  have good : ∀ x ∈ sortUnique (spliceAlt parts), x.Solid := by
    intro x mem
    obtain ⟨part, listed, here⟩ := mem_spliceAlt.1 (mem_sortUnique.1 mem)
    exact (all part listed).of_mem_branches here
  have inhabited := spliceAlt_ne_nil (fun part mem => (all part mem).feasible) some
  exact single_of good (.alt (sortUnique_ne_nil inhabited) good)

/-- The canonical form leaves no node without parts where there was none. -/
theorem Solid.normalize {tree : Tree α} (solid : tree.Solid) : tree.normalize.Solid := by
  induction solid with
  | leaf item =>
      rw [Tree.normalize]
      exact .leaf item
  | seq some _ ih =>
      rw [Tree.normalize, normalizeAll_eq_map]
      exact solid_chain (mt List.map_eq_nil_iff.1 some) (List.forall_mem_map.2 ih)
  | alt some _ ih =>
      rw [Tree.normalize, normalizeAll_eq_map]
      exact solid_choice (mt List.map_eq_nil_iff.1 some) (List.forall_mem_map.2 ih)

end Normal

/-! ## Sequences of leaves -/

theorem normalizeAll_map_leaf [Ord α] (path : List α) :
    normalizeAll (path.map leaf) = path.map leaf := by
  induction path with
  | nil => rw [List.map_nil, normalizeAll]
  | cons item rest ih => rw [List.map_cons, normalizeAll, normalize, ih]

theorem spliceSeq_map_leaf (path : List α) :
    spliceSeq (path.map leaf) = some (path.map leaf) := by
  induction path with
  | nil => rfl
  | cons item rest ih =>
      rw [List.map_cons, spliceSeq_cons, ih]
      rfl

theorem leavesOfAll_map_leaf (path : List α) : leavesOfAll (path.map leaf) = path := by
  induction path with
  | nil => rfl
  | cons item rest ih => rw [List.map_cons, leavesOfAll, ih, leaves, List.singleton_append]

/-- The canonical form of the sequence of some leaves has these leaves. -/
theorem leaves_normalize_ofPath [Ord α] (path : List α) :
    (ofPath path).normalize.leaves = path := by
  rw [ofPath, normalize, normalizeAll_map_leaf, chain, spliceSeq_map_leaf]
  exact (leaves_single seq (by rw [leaves])).trans (leavesOfAll_map_leaf path)

/-! ## Substitution -/

theorem feasible_ofPath (path : List α) : (ofPath path).Feasible := by
  rw [ofPath, feasible_seq]
  intro part h
  obtain ⟨item, -, rfl⟩ := List.mem_map.1 h
  rw [Feasible]
  trivial

mutual

theorem Feasible.flatMap {f : α → Tree β} :
    {tree : Tree α} → tree.Feasible → (∀ item ∈ tree.leaves, (f item).Feasible) →
      (tree.flatMap f).Feasible
  | .leaf item, _, all => by
      rw [Tree.flatMap]
      exact all item (by simp [leaves])
  | .seq parts, h, all => by
      rw [Feasible] at h
      rw [Tree.flatMap, Feasible]
      exact FeasibleAll.flatMapAll h (by simpa only [leaves] using all)
  | .alt parts, h, all => by
      rw [Feasible] at h
      rw [Tree.flatMap, Feasible]
      refine ⟨?_, FeasibleAll.flatMapAll h.2 (by simpa only [leaves] using all)⟩
      cases parts with
      | nil => exact absurd rfl h.1
      | cons part rest => simp [Tree.flatMapAll]

theorem FeasibleAll.flatMapAll {f : α → Tree β} :
    {parts : List (Tree α)} → FeasibleAll parts →
      (∀ item ∈ leavesOfAll parts, (f item).Feasible) → FeasibleAll (Tree.flatMapAll f parts)
  | [], _, _ => by
      rw [Tree.flatMapAll, FeasibleAll]
      trivial
  | part :: rest, h, all => by
      rw [FeasibleAll] at h
      rw [Tree.flatMapAll, FeasibleAll]
      rw [leavesOfAll] at all
      exact ⟨Feasible.flatMap h.1 fun item mem => all item (List.mem_append_left _ mem),
        FeasibleAll.flatMapAll h.2 fun item mem => all item (List.mem_append_right _ mem)⟩

end

end CallSearch.Tree
