/-
# CallSearch.Proofs.Tree.Sequences — the sequences of a tree, counted

`Tree.sequences` lists the sequences a tree stands for, each as often as the tree has it:
`alt` puts the lists of its parts one behind the other, and `seq` combines every choice
from its parts.  As a set this is the language of the tree (`mem_sequences`).

Splicing keeps the list as it is.  Dropping repeated alternatives is the only step of
normalizing that changes how often something occurs, so the canonical form has nothing
more often than the tree: `sequences_normalize_subperm`, `leaves_normalize_subperm`.
-/
import CallSearch.Proofs.Tree.Language
import Mathlib.Data.List.Flatten
import Mathlib.Data.List.Perm.Basic
import Mathlib.Data.List.Perm.Subperm

namespace CallSearch

set_option autoImplicit false

/-- Sorting and dropping repetitions adds nothing. -/
theorem sortUnique_subperm {α : Type} [Ord α] (items : List α) : (sortUnique items).Subperm items := by
  have sub : ∀ (rest : List α) (last : α), (dropRepeatsAfter last rest).Sublist rest := by
    intro rest
    induction rest with
    | nil => exact fun _ => List.Sublist.refl _
    | cons item rest ih =>
        intro last
        rw [dropRepeatsAfter]
        split
        · exact (ih last).cons item
        · exact (ih item).cons_cons item
  have all : ∀ sorted : List α, (dropRepeats sorted).Sublist sorted := by
    intro sorted
    cases sorted with
    | nil => exact List.Sublist.refl _
    | cons item rest => exact (sub rest item).cons_cons item
  exact (all _).subperm.trans (List.mergeSort_perm _ _).subperm

theorem flatMap_subperm {α β : Type} {first second : List α} (sub : first.Subperm second)
    (f : α → List β) : (first.flatMap f).Subperm (second.flatMap f) := by
  obtain ⟨middle, perm, sub⟩ := sub
  refine (perm.flatMap_right f).symm.subperm.trans (List.Sublist.subperm ?_)
  exact sub.flatMap f

namespace Tree

variable {α : Type}

/-! ## Counting sequences -/

/-- Every sequence of the first list with every sequence of the second behind it. -/
def joins (first second : List (List α)) : List (List α) :=
  first.flatMap fun before => second.map (before ++ ·)

mutual

/-- The sequences of leaves a tree stands for, each as often as the tree has it. -/
def sequences : Tree α → List (List α)
  | .leaf item => [[item]]
  | .seq parts => sequencesSeq parts
  | .alt parts => sequencesAlt parts

/-- The sequences of some trees one after another. -/
def sequencesSeq : List (Tree α) → List (List α)
  | [] => [[]]
  | part :: rest => joins part.sequences (sequencesSeq rest)

/-- The sequences of any one of some trees. -/
def sequencesAlt : List (Tree α) → List (List α)
  | [] => []
  | part :: rest => part.sequences ++ sequencesAlt rest

end

theorem joins_empty (first : List (List α)) : joins first [[]] = first := by
  simp [joins]

theorem joins_assoc (first second third : List (List α)) :
    joins (joins first second) third = joins first (joins second third) := by
  simp only [joins, List.flatMap_assoc, List.flatMap_map, List.map_flatMap, List.map_map,
    Function.comp_def, List.append_assoc]

theorem joins_singleton (before : List α) (second : List (List α)) :
    joins [before] second = second.map (before ++ ·) := by
  simp [joins]

theorem joins_to_singleton (first : List (List α)) (behind : List α) :
    joins first [behind] = first.map (· ++ behind) := by
  simp [joins, ← List.map_eq_flatMap]

theorem mem_joins {s : List α} {first second : List (List α)} :
    s ∈ joins first second ↔ ∃ a ∈ first, ∃ b ∈ second, a ++ b = s := by
  simp only [joins, List.mem_flatMap, List.mem_map]

theorem joins_subperm {first first' second second' : List (List α)}
    (sub : first.Subperm first') (sub' : second.Subperm second') :
    (joins first second).Subperm (joins first' second') := by
  refine (flatMap_subperm sub _).trans ?_
  clear sub
  induction first' with
  | nil => exact List.Subperm.refl _
  | cons before rest ih =>
      rw [List.flatMap_cons, joins, List.flatMap_cons]
      exact (sub'.map (List.append_right_injective before)).append ih

theorem sequencesSeq_append (first second : List (Tree α)) :
    sequencesSeq (first ++ second) = joins (sequencesSeq first) (sequencesSeq second) := by
  induction first with
  | nil => simp [sequencesSeq, joins]
  | cons part rest ih => rw [List.cons_append, sequencesSeq, sequencesSeq, ih, joins_assoc]

theorem sequencesAlt_eq (parts : List (Tree α)) : sequencesAlt parts = parts.flatMap sequences := by
  induction parts with
  | nil => rw [sequencesAlt, List.flatMap_nil]
  | cons part rest ih => rw [sequencesAlt, ih, List.flatMap_cons]

theorem sequencesSeq_map_leaf (path : List α) : sequencesSeq (path.map leaf) = [path] := by
  induction path with
  | nil => rw [List.map_nil, sequencesSeq]
  | cons item rest ih =>
      rw [List.map_cons, sequencesSeq, sequences, ih, joins_singleton, List.map_singleton,
        List.singleton_append]

@[simp]
theorem sequences_ofPath (path : List α) : (ofPath path).sequences = [path] := by
  rw [ofPath, sequences, sequencesSeq_map_leaf]

mutual

/-- The sequences of a tree are its language. -/
theorem mem_sequences {s : List α} : {tree : Tree α} → (s ∈ tree.sequences ↔ s ∈ tree.language)
  | .leaf item => by
      rw [sequences, language_leaf, List.mem_singleton]
      rfl
  | .seq parts => by rw [sequences, language_seq, mem_sequencesSeq]
  | .alt parts => by rw [sequences, language_alt, mem_sequencesAlt]

theorem mem_sequencesSeq {s : List α} : {parts : List (Tree α)} →
    (s ∈ sequencesSeq parts ↔ s ∈ languageSeq parts)
  | [] => by rw [sequencesSeq, languageSeq_nil, List.mem_singleton, Language.mem_one]
  | part :: rest => by
      rw [sequencesSeq, languageSeq_cons, mem_joins, Language.mem_mul]
      simp only [mem_sequences, mem_sequencesSeq]

theorem mem_sequencesAlt {s : List α} : {parts : List (Tree α)} →
    (s ∈ sequencesAlt parts ↔ s ∈ languageAlt parts)
  | [] => by simp [sequencesAlt, languageAlt]
  | part :: rest => by
      rw [sequencesAlt, languageAlt, List.mem_append, Language.mem_add, mem_sequences,
        mem_sequencesAlt]

end

/-! ## Canonical form -/

theorem sequences_single_seq (parts : List (Tree α)) :
    (single seq parts).sequences = sequencesSeq parts := by
  unfold single
  split
  · rw [sequencesSeq, sequencesSeq, joins_empty]
  · rw [sequences]

theorem sequences_single_alt (parts : List (Tree α)) :
    (single alt parts).sequences = sequencesAlt parts := by
  unfold single
  split
  · rw [sequencesAlt, sequencesAlt, List.append_nil]
  · rw [sequences]

theorem sequences_segments (part : Tree α) :
    (part.segments.map sequencesSeq).getD [] = part.sequences := by
  match part with
  | .alt [] => simp [sequences, sequencesAlt]
  | .seq inner => simp [sequences]
  | .leaf item | .alt (first :: rest) => simp [sequencesSeq, joins_empty]

/-- Splicing keeps the sequences and their number. -/
theorem sequencesSeq_spliceSeq (parts : List (Tree α)) :
    ((spliceSeq parts).map sequencesSeq).getD [] = sequencesSeq parts := by
  induction parts with
  | nil => rfl
  | cons part rest ih =>
      rw [spliceSeq_cons, sequencesSeq, ← ih, ← sequences_segments]
      cases part.segments <;> cases spliceSeq rest <;> simp [joins, sequencesSeq_append]

theorem sequences_chain (parts : List (Tree α)) :
    (chain parts).sequences = sequencesSeq parts := by
  rw [← sequencesSeq_spliceSeq, chain]
  split
  · next dead => simp [dead, sequences, sequencesAlt]
  · next flat found => simp [found, sequences_single_seq]

theorem sequencesAlt_branches (part : Tree α) :
    part.branches.flatMap sequences = part.sequences := by
  cases part with
  | alt inner => rw [branches_alt, ← sequencesAlt_eq, sequences]
  | leaf item | seq inner => exact List.flatMap_singleton _ _

theorem sequencesAlt_spliceAlt (parts : List (Tree α)) :
    sequencesAlt (spliceAlt parts) = sequencesAlt parts := by
  rw [spliceAlt_eq, sequencesAlt_eq, sequencesAlt_eq, List.flatMap_assoc]
  simp only [sequencesAlt_branches]

theorem leaves_chain_subperm (parts : List (Tree α)) :
    (chain parts).leaves.Subperm (leavesOfAll parts) := by
  rw [chain]
  split
  · rw [leaves, leavesOfAll]
    exact List.nil_subperm
  · next flat found =>
    rw [leaves_single seq (by rw [leaves]), leavesOfAll_spliceSeq found]

section Normal

variable [Ord α]

theorem sequences_choice_subperm (parts : List (Tree α)) :
    (choice parts).sequences.Subperm (sequencesAlt parts) := by
  rw [choice, sequences_single_alt, ← sequencesAlt_spliceAlt parts, sequencesAlt_eq, sequencesAlt_eq]
  exact flatMap_subperm (sortUnique_subperm _) _

theorem leaves_choice_subperm (parts : List (Tree α)) :
    (choice parts).leaves.Subperm (leavesOfAll parts) := by
  rw [choice, leaves_single alt (by rw [leaves]), ← leavesOfAll_spliceAlt parts, leavesOfAll_eq,
    leavesOfAll_eq]
  exact flatMap_subperm (sortUnique_subperm _) _

mutual

/-- The canonical form stands for nothing more often than the tree does. -/
theorem sequences_normalize_subperm : (tree : Tree α) →
    tree.normalize.sequences.Subperm tree.sequences
  | .leaf item => by rw [normalize]
  | .seq parts => by
      rw [normalize, sequences_chain, sequences]
      exact sequencesSeq_normalizeAll_subperm parts
  | .alt parts => by
      rw [normalize, sequences]
      exact (sequences_choice_subperm _).trans (sequencesAlt_normalizeAll_subperm parts)

theorem sequencesSeq_normalizeAll_subperm : (parts : List (Tree α)) →
    (sequencesSeq (normalizeAll parts)).Subperm (sequencesSeq parts)
  | [] => by rw [normalizeAll]
  | part :: rest => by
      rw [normalizeAll, sequencesSeq, sequencesSeq]
      exact joins_subperm (sequences_normalize_subperm part) (sequencesSeq_normalizeAll_subperm rest)

theorem sequencesAlt_normalizeAll_subperm : (parts : List (Tree α)) →
    (sequencesAlt (normalizeAll parts)).Subperm (sequencesAlt parts)
  | [] => by rw [normalizeAll]
  | part :: rest => by
      rw [normalizeAll, sequencesAlt, sequencesAlt]
      exact (sequences_normalize_subperm part).append (sequencesAlt_normalizeAll_subperm rest)

end

mutual

/-- The canonical form has no leaf more often than the tree. -/
theorem leaves_normalize_subperm : (tree : Tree α) → tree.normalize.leaves.Subperm tree.leaves
  | .leaf item => by rw [normalize]
  | .seq parts => by
      rw [normalize, leaves]
      exact (leaves_chain_subperm _).trans (leavesOfAll_normalizeAll_subperm parts)
  | .alt parts => by
      rw [normalize, leaves]
      exact (leaves_choice_subperm _).trans (leavesOfAll_normalizeAll_subperm parts)

theorem leavesOfAll_normalizeAll_subperm : (parts : List (Tree α)) →
    (leavesOfAll (normalizeAll parts)).Subperm (leavesOfAll parts)
  | [] => by rw [normalizeAll]
  | part :: rest => by
      rw [normalizeAll, leavesOfAll, leavesOfAll]
      exact (leaves_normalize_subperm part).append (leavesOfAll_normalizeAll_subperm rest)

end

end Normal

end Tree

end CallSearch
