/-
# CallSearch.Proofs.Tree.Language — the sequences a tree stands for

A tree stands for a set of sequences of leaves, its `language`: `seq` concatenates
and `alt` takes the union.  With concatenation as product and union as sum the
sequences form a semiring, so splicing nested sequences is associativity and
splicing nested alternatives is associativity of the sum.

* `language_normalize`: the canonical form of a tree stands for the same sequences;
* `mem_language_flatMap`: substituting trees for leaves substitutes their sequences;
* `mem_leaves_iff`: in a tree without impossible parts every leaf is on a sequence.
-/
import CallSearch.Proofs.Tree.Splice
import Mathlib.Computability.Language

namespace CallSearch.Tree

set_option autoImplicit false

variable {α β : Type}

/-! ## Sequences -/

mutual

/-- The sequences of leaves a tree stands for. -/
def language : Tree α → Language α
  | .leaf item => {[item]}
  | .seq parts => languageSeq parts
  | .alt parts => languageAlt parts

/-- The sequences of some trees one after another. -/
def languageSeq : List (Tree α) → Language α
  | [] => 1
  | part :: rest => part.language * languageSeq rest

/-- The sequences of any one of some trees. -/
def languageAlt : List (Tree α) → Language α
  | [] => 0
  | part :: rest => part.language + languageAlt rest

end

@[simp]
theorem language_leaf (item : α) : (leaf item).language = {[item]} := by
  simp only [language]

@[simp]
theorem language_seq (parts : List (Tree α)) : (seq parts).language = languageSeq parts := by
  simp only [language]

@[simp]
theorem language_alt (parts : List (Tree α)) : (alt parts).language = languageAlt parts := by
  simp only [language]

@[simp]
theorem languageSeq_nil : languageSeq ([] : List (Tree α)) = 1 := by simp only [languageSeq]

@[simp]
theorem languageSeq_cons (part : Tree α) (rest : List (Tree α)) :
    languageSeq (part :: rest) = part.language * languageSeq rest := by simp only [languageSeq]

@[simp]
theorem languageSeq_append (first second : List (Tree α)) :
    languageSeq (first ++ second) = languageSeq first * languageSeq second := by
  induction first with
  | nil => simp
  | cons part rest ih => simp [ih, mul_assoc]

theorem mem_languageAlt {s : List α} {parts : List (Tree α)} :
    s ∈ languageAlt parts ↔ ∃ part ∈ parts, s ∈ part.language := by
  induction parts with
  | nil => simp [languageAlt]
  | cons part rest ih => simp [languageAlt, Language.mem_add, ih]

/-- The sequences of any one of some trees depend on the set of the trees alone. -/
theorem languageAlt_congr {first second : List (Tree α)}
    (same : ∀ part, part ∈ first ↔ part ∈ second) : languageAlt first = languageAlt second := by
  ext s
  simp only [mem_languageAlt, same]

@[simp]
theorem languageAlt_append (first second : List (Tree α)) :
    languageAlt (first ++ second) = languageAlt first + languageAlt second := by
  ext s
  simp only [mem_languageAlt, Language.mem_add, List.mem_append, or_and_right, exists_or]

theorem languageSeq_map_leaf (path : List α) : languageSeq (path.map leaf) = {path} := by
  induction path with
  | nil =>
      simp only [List.map_nil, languageSeq_nil]
      rfl
  | cons item rest ih =>
      ext s
      simp only [List.map_cons, languageSeq_cons, ih, language_leaf, Language.mem_mul]
      constructor
      · rintro ⟨_, rfl, _, rfl, rfl⟩
        rfl
      · rintro rfl
        exact ⟨[item], rfl, rest, rfl, rfl⟩

/-- The sequence of some leaves stands for itself. -/
@[simp]
theorem language_ofPath (path : List α) : (ofPath path).language = {path} := by
  rw [ofPath, language_seq, languageSeq_map_leaf]

/-! ## Canonical form -/

theorem language_single_seq (parts : List (Tree α)) :
    (single seq parts).language = languageSeq parts := by
  unfold single
  split <;> simp

theorem language_single_alt (parts : List (Tree α)) :
    (single alt parts).language = languageAlt parts := by
  unfold single
  split <;> simp [languageAlt]

theorem language_segments (part : Tree α) :
    (part.segments.map languageSeq).getD 0 = part.language := by
  match part with
  | .alt [] => simp [languageAlt]
  | .leaf item | .seq inner | .alt (first :: rest) => simp

theorem languageSeq_spliceSeq (parts : List (Tree α)) :
    ((spliceSeq parts).map languageSeq).getD 0 = languageSeq parts := by
  induction parts with
  | nil => simp [spliceSeq]
  | cons part rest ih =>
      rw [spliceSeq_cons, languageSeq_cons, ← ih, ← language_segments]
      cases part.segments <;> cases spliceSeq rest <;> simp

theorem language_chain (parts : List (Tree α)) : (chain parts).language = languageSeq parts := by
  rw [← languageSeq_spliceSeq, chain]
  split
  · next dead => simp [dead, languageAlt]
  · next flat found => simp [found, language_single_seq]

theorem languageAlt_branches (part : Tree α) : languageAlt part.branches = part.language := by
  cases part <;> simp [languageAlt]

theorem languageAlt_spliceAlt (parts : List (Tree α)) :
    languageAlt (spliceAlt parts) = languageAlt parts := by
  rw [spliceAlt_eq]
  induction parts with
  | nil => rfl
  | cons part rest ih =>
      rw [List.flatMap_cons, languageAlt_append, languageAlt_branches, ih, languageAlt]

section Order

variable [Ord α]

mutual

theorem order_self [Std.LawfulEqOrd α] : (tree : Tree α) → tree.order tree = .eq
  | .leaf item => by
      rw [order]
      exact Std.ReflCmp.compare_self
  | .seq parts => by
      rw [order]
      exact orderAll_self parts
  | .alt parts => by
      rw [order]
      exact orderAll_self parts

theorem orderAll_self [Std.LawfulEqOrd α] : (parts : List (Tree α)) → orderAll parts parts = .eq
  | [] => by rw [orderAll]
  | part :: rest => by
      rw [orderAll, order_self part, orderAll_self rest]
      rfl

end

mutual

theorem eq_of_order [Std.LawfulEqOrd α] : (a b : Tree α) → a.order b = .eq → a = b
  | .leaf a, .leaf b, h => by
      rw [order] at h
      rw [Std.LawfulEqOrd.eq_of_compare h]
  | .seq as, .seq bs, h => by
      rw [order] at h
      rw [eq_of_orderAll as bs h]
  | .alt as, .alt bs, h => by
      rw [order] at h
      rw [eq_of_orderAll as bs h]
  | .leaf _, .seq _, h => by simp [order] at h
  | .leaf _, .alt _, h => by simp [order] at h
  | .seq _, .leaf _, h => by simp [order] at h
  | .seq _, .alt _, h => by simp [order] at h
  | .alt _, .leaf _, h => by simp [order] at h
  | .alt _, .seq _, h => by simp [order] at h

theorem eq_of_orderAll [Std.LawfulEqOrd α] :
    (as bs : List (Tree α)) → orderAll as bs = .eq → as = bs
  | [], [], _ => rfl
  | [], _ :: _, h => by simp [orderAll] at h
  | _ :: _, [], h => by simp [orderAll] at h
  | a :: as, b :: bs, h => by
      rw [orderAll, Ordering.then_eq_eq] at h
      rw [eq_of_order a b h.1, eq_of_orderAll as bs h.2]

end

instance [Std.LawfulEqOrd α] : Std.LawfulEqOrd (Tree α) where
  compare_self {tree} := order_self tree
  eq_of_compare {a b} h := eq_of_order a b h

end Order

section Normal

set_option linter.unusedSectionVars false

variable [Ord α] [Std.LawfulEqOrd α]

theorem language_choice (parts : List (Tree α)) :
    (choice parts).language = languageAlt parts := by
  rw [choice, language_single_alt, ← languageAlt_spliceAlt parts]
  exact languageAlt_congr fun _ => mem_sortUnique

mutual

/-- The canonical form of a tree stands for the same sequences. -/
theorem language_normalize : (tree : Tree α) → tree.normalize.language = tree.language
  | .leaf item => by rw [normalize]
  | .seq parts => by
      rw [normalize, language_chain, languageSeq_normalizeAll parts, language_seq]
  | .alt parts => by
      rw [normalize, language_choice, languageAlt_normalizeAll parts, language_alt]

theorem languageSeq_normalizeAll :
    (parts : List (Tree α)) → languageSeq (normalizeAll parts) = languageSeq parts
  | [] => by rw [normalizeAll]
  | part :: rest => by
      rw [normalizeAll, languageSeq_cons, languageSeq_cons, language_normalize part,
        languageSeq_normalizeAll rest]

theorem languageAlt_normalizeAll :
    (parts : List (Tree α)) → languageAlt (normalizeAll parts) = languageAlt parts
  | [] => by rw [normalizeAll]
  | part :: rest => by
      rw [normalizeAll, languageAlt, languageAlt, language_normalize part,
        languageAlt_normalizeAll rest]

end

end Normal

/-! ## Substitution -/

mutual

/-- Substituting trees for leaves substitutes their sequences. -/
theorem mem_language_flatMap (f : α → Tree β) (s : List β) :
    (tree : Tree α) → (s ∈ (tree.flatMap f).language ↔
      ∃ w ∈ tree.language, s ∈ (w.map fun item => (f item).language).prod)
  | .leaf item => by
      rw [flatMap, language_leaf]
      constructor
      · intro h
        exact ⟨[item], rfl, by simpa using h⟩
      · rintro ⟨_, rfl, h⟩
        simpa using h
  | .seq parts => by
      rw [flatMap, language_seq, language_seq]
      exact mem_languageSeq_flatMapAll f s parts
  | .alt parts => by
      rw [flatMap, language_alt, language_alt]
      exact mem_languageAlt_flatMapAll f s parts

theorem mem_languageSeq_flatMapAll (f : α → Tree β) (s : List β) :
    (parts : List (Tree α)) → (s ∈ languageSeq (flatMapAll f parts) ↔
      ∃ w ∈ languageSeq parts, s ∈ (w.map fun item => (f item).language).prod)
  | [] => by simp [flatMapAll, Language.mem_one]
  | part :: rest => by
      rw [flatMapAll, languageSeq_cons, languageSeq_cons]
      simp only [Language.mem_mul]
      constructor
      · rintro ⟨a, ha, b, hb, rfl⟩
        obtain ⟨v, hv, ha⟩ := (mem_language_flatMap f a part).1 ha
        obtain ⟨w, hw, hb⟩ := (mem_languageSeq_flatMapAll f b rest).1 hb
        refine ⟨v ++ w, ⟨v, hv, w, hw, rfl⟩, ?_⟩
        rw [List.map_append, List.prod_append]
        exact Language.append_mem_mul ha hb
      · rintro ⟨_, ⟨v, hv, w, hw, rfl⟩, h⟩
        rw [List.map_append, List.prod_append] at h
        obtain ⟨a, ha, b, hb, rfl⟩ := Language.mem_mul.1 h
        exact ⟨a, (mem_language_flatMap f a part).2 ⟨v, hv, ha⟩, b,
          (mem_languageSeq_flatMapAll f b rest).2 ⟨w, hw, hb⟩, rfl⟩

theorem mem_languageAlt_flatMapAll (f : α → Tree β) (s : List β) :
    (parts : List (Tree α)) → (s ∈ languageAlt (flatMapAll f parts) ↔
      ∃ w ∈ languageAlt parts, s ∈ (w.map fun item => (f item).language).prod)
  | [] => by simp [flatMapAll, languageAlt]
  | part :: rest => by
      rw [flatMapAll, languageAlt, languageAlt, Language.mem_add,
        mem_language_flatMap f s part, mem_languageAlt_flatMapAll f s rest]
      simp only [Language.mem_add, or_and_right, exists_or]

end

/-! ## Leaves -/

mutual

/-- Whether no part of a tree is impossible. -/
def Feasible : Tree α → Prop
  | .leaf _ => True
  | .seq parts => FeasibleAll parts
  | .alt parts => parts ≠ [] ∧ FeasibleAll parts

/-- Whether no part of any of some trees is impossible. -/
def FeasibleAll : List (Tree α) → Prop
  | [] => True
  | part :: rest => part.Feasible ∧ FeasibleAll rest

end

theorem feasibleAll_iff {parts : List (Tree α)} :
    FeasibleAll parts ↔ ∀ part ∈ parts, part.Feasible := by
  induction parts with
  | nil => simp [FeasibleAll]
  | cons part rest ih => simp [FeasibleAll, ih]

theorem feasible_seq {parts : List (Tree α)} :
    (seq parts).Feasible ↔ ∀ part ∈ parts, part.Feasible := by
  rw [Feasible, feasibleAll_iff]

theorem feasible_alt {parts : List (Tree α)} :
    (alt parts).Feasible ↔ parts ≠ [] ∧ ∀ part ∈ parts, part.Feasible := by
  rw [Feasible, feasibleAll_iff]

theorem mem_leavesOfAll {x : α} {parts : List (Tree α)} :
    x ∈ leavesOfAll parts ↔ ∃ part ∈ parts, x ∈ part.leaves := by
  rw [leavesOfAll_eq, List.mem_flatMap]

theorem mem_leaves_alt {x : α} {parts : List (Tree α)} :
    x ∈ (alt parts).leaves ↔ ∃ part ∈ parts, x ∈ part.leaves := by
  rw [leaves, mem_leavesOfAll]

mutual

/-- A possible tree stands for some sequence. -/
theorem Feasible.exists_mem : {tree : Tree α} → tree.Feasible → ∃ s, s ∈ tree.language
  | .leaf item, _ => ⟨[item], by rw [language_leaf]; rfl⟩
  | .seq parts, h => by
      rw [Feasible] at h
      rw [language_seq]
      exact FeasibleAll.exists_mem h
  | .alt [], h => by
      rw [Feasible] at h
      exact absurd rfl h.1
  | .alt (part :: rest), h => by
      rw [Feasible, FeasibleAll] at h
      obtain ⟨s, hs⟩ := Feasible.exists_mem h.2.1
      refine ⟨s, ?_⟩
      rw [language_alt, mem_languageAlt]
      exact ⟨part, List.mem_cons_self, hs⟩

theorem FeasibleAll.exists_mem :
    {parts : List (Tree α)} → FeasibleAll parts → ∃ s, s ∈ languageSeq parts
  | [], _ => ⟨[], by rw [languageSeq_nil]; exact Language.nil_mem_one⟩
  | part :: rest, h => by
      rw [FeasibleAll] at h
      obtain ⟨a, ha⟩ := Feasible.exists_mem h.1
      obtain ⟨b, hb⟩ := FeasibleAll.exists_mem h.2
      refine ⟨a ++ b, ?_⟩
      rw [languageSeq_cons]
      exact Language.append_mem_mul ha hb

end

mutual

theorem mem_leaves_of_mem_language {s : List α} {x : α} :
    {tree : Tree α} → s ∈ tree.language → x ∈ s → x ∈ tree.leaves
  | .leaf item, hs, hx => by
      rw [language_leaf] at hs
      cases hs
      simpa [leaves] using hx
  | .seq parts, hs, hx => by
      rw [language_seq] at hs
      rw [leaves]
      exact mem_leavesOfAll_of_mem_languageSeq hs hx
  | .alt parts, hs, hx => by
      rw [language_alt] at hs
      rw [leaves]
      exact mem_leavesOfAll_of_mem_languageAlt hs hx

theorem mem_leavesOfAll_of_mem_languageSeq {s : List α} {x : α} :
    {parts : List (Tree α)} → s ∈ languageSeq parts → x ∈ s → x ∈ leavesOfAll parts
  | [], hs, hx => by
      rw [languageSeq_nil, Language.mem_one] at hs
      subst hs
      exact absurd hx List.not_mem_nil
  | part :: rest, hs, hx => by
      rw [languageSeq_cons] at hs
      obtain ⟨a, ha, b, hb, rfl⟩ := Language.mem_mul.1 hs
      rw [leavesOfAll]
      rcases List.mem_append.1 hx with hx | hx
      · exact List.mem_append_left _ (mem_leaves_of_mem_language ha hx)
      · exact List.mem_append_right _ (mem_leavesOfAll_of_mem_languageSeq hb hx)

theorem mem_leavesOfAll_of_mem_languageAlt {s : List α} {x : α} :
    {parts : List (Tree α)} → s ∈ languageAlt parts → x ∈ s → x ∈ leavesOfAll parts
  | [], hs, _ => by simp [languageAlt] at hs
  | part :: rest, hs, hx => by
      rw [languageAlt, Language.mem_add] at hs
      rw [leavesOfAll]
      rcases hs with hs | hs
      · exact List.mem_append_left _ (mem_leaves_of_mem_language hs hx)
      · exact List.mem_append_right _ (mem_leavesOfAll_of_mem_languageAlt hs hx)

end

mutual

theorem exists_mem_language_of_mem_leaves {x : α} :
    {tree : Tree α} → tree.Feasible → x ∈ tree.leaves → ∃ s ∈ tree.language, x ∈ s
  | .leaf item, _, hx => ⟨[item], by rw [language_leaf]; rfl, by simpa [leaves] using hx⟩
  | .seq parts, h, hx => by
      rw [Feasible] at h
      rw [leaves] at hx
      rw [language_seq]
      exact exists_mem_languageSeq_of_mem_leaves h hx
  | .alt parts, h, hx => by
      rw [Feasible] at h
      rw [leaves] at hx
      rw [language_alt]
      exact exists_mem_languageAlt_of_mem_leaves h.2 hx

theorem exists_mem_languageSeq_of_mem_leaves {x : α} :
    {parts : List (Tree α)} → FeasibleAll parts → x ∈ leavesOfAll parts →
      ∃ s ∈ languageSeq parts, x ∈ s
  | [], _, hx => by simp [leavesOfAll] at hx
  | part :: rest, h, hx => by
      rw [FeasibleAll] at h
      rw [leavesOfAll] at hx
      rw [languageSeq_cons]
      rcases List.mem_append.1 hx with hx | hx
      · -- The rest is possible, so it goes on in some way behind the leaf.
        obtain ⟨a, ha, hxa⟩ := exists_mem_language_of_mem_leaves h.1 hx
        obtain ⟨b, hb⟩ := h.2.exists_mem
        exact ⟨a ++ b, Language.append_mem_mul ha hb, List.mem_append_left _ hxa⟩
      · obtain ⟨a, ha⟩ := h.1.exists_mem
        obtain ⟨b, hb, hxb⟩ := exists_mem_languageSeq_of_mem_leaves h.2 hx
        exact ⟨a ++ b, Language.append_mem_mul ha hb, List.mem_append_right _ hxb⟩

theorem exists_mem_languageAlt_of_mem_leaves {x : α} :
    {parts : List (Tree α)} → FeasibleAll parts → x ∈ leavesOfAll parts →
      ∃ s ∈ languageAlt parts, x ∈ s
  | [], _, hx => by simp [leavesOfAll] at hx
  | part :: rest, h, hx => by
      rw [FeasibleAll] at h
      rw [leavesOfAll] at hx
      rw [languageAlt]
      rcases List.mem_append.1 hx with hx | hx
      · obtain ⟨s, hs, hxs⟩ := exists_mem_language_of_mem_leaves h.1 hx
        exact ⟨s, Or.inl hs, hxs⟩
      · obtain ⟨s, hs, hxs⟩ := exists_mem_languageAlt_of_mem_leaves h.2 hx
        exact ⟨s, Or.inr hs, hxs⟩

end

/-- In a tree without impossible parts the leaves are what occurs on some sequence. -/
theorem mem_leaves_iff {x : α} {tree : Tree α} (feasible : tree.Feasible) :
    x ∈ tree.leaves ↔ ∃ s ∈ tree.language, x ∈ s :=
  ⟨exists_mem_language_of_mem_leaves feasible,
    fun ⟨_, hs, hx⟩ => mem_leaves_of_mem_language hs hx⟩

end CallSearch.Tree
