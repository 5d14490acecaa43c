/-
# CallSearch.Proofs.Tree.Substitute — the canonical form after substitution

Putting trees in the place of leaves can join alternatives that were apart, turn leaves
into nothing or into what can never happen, and open new places to splice.  Still the
canonical form of the result depends on the canonical forms of the tree and of what is
put in alone: `normalize_flatMap_normalize`.

The two node kinds are told apart by what a normal part adds to the node around it.  To a
sequence it adds its own parts in order, or makes the sequence impossible (`segments`).
To an alternative it adds a set (`branches`), and only that set counts (`choice_congr`).
A rebuilt node adds what the parts it was rebuilt from add (`segments_chain`,
`mem_branches_choice`), so splicing before the substitution changes nothing.
-/
import CallSearch.Proofs.Tree.Feasible
import CallSearch.Proofs.Tree.Map
import CallSearch.Proofs.Tree.Normal

namespace CallSearch.Tree

set_option autoImplicit false
set_option linter.unusedSectionVars false

variable {α β : Type}

/-! ## Rebuilt nodes -/

section Chain

variable [Ord α]

/-- A rebuilt sequence adds what its parts add, one after another. -/
theorem segments_chain {parts : List (Tree α)} (normal : ∀ part ∈ parts, part.IsNormal) :
    segments (chain parts) = spliceSeq parts := by
  rw [chain]
  cases found : spliceSeq parts with
  | none => rfl
  | some flat =>
      have each := isNormalPart_of_spliceSeq normal found
      rcases flat with _ | ⟨part, _ | ⟨second, rest⟩⟩
      · rfl
      · obtain ⟨here, plain⟩ := each part (List.mem_singleton_self part)
        exact segments_of_plain here.ne_dead plain
      · rfl

/-- A sequence of one normal part is that part. -/
theorem chain_singleton {part : Tree α} (normal : part.IsNormal) : chain [part] = part := by
  rcases normal with rfl | normal
  · rfl
  · cases normal with
    | leaf item => rfl
    | seq several _ _ =>
        rw [chain, spliceSeq, spliceSeq, Option.map_some, List.append_nil]
        exact single_eq several
    | @alt parts several _ _ _ =>
        cases parts with
        | nil => cases several
        | cons first rest => rfl

end Chain

section Choice

variable [Ord α] [Std.TransOrd α] [Std.LawfulEqOrd α]

/-- An alternative is rebuilt from the set of what its parts add. -/
theorem choice_congr {first second : List (Tree α)}
    (same : ∀ x, x ∈ spliceAlt first ↔ x ∈ spliceAlt second) : choice first = choice second := by
  rw [choice, choice, sortUnique_congr same]

/-- A rebuilt alternative adds what its parts add. -/
theorem mem_branches_choice {parts : List (Tree α)} (normal : ∀ part ∈ parts, part.IsNormal)
    {x : Tree α} : x ∈ (choice parts).branches ↔ x ∈ spliceAlt parts := by
  have plain : ∀ part ∈ sortUnique (spliceAlt parts), ¬ part.IsAlt := fun part mem =>
    (isNormalPart_of_mem_spliceAlt normal part (mem_sortUnique.1 mem)).2
  have listed : x ∈ spliceAlt parts ↔ x ∈ sortUnique (spliceAlt parts) := mem_sortUnique.symm
  rw [choice, listed]
  generalize sortUnique (spliceAlt parts) = flat at plain ⊢
  rcases flat with _ | ⟨part, _ | ⟨second, rest⟩⟩
  · rfl
  · rw [single, branches_of_plain (plain part (List.mem_singleton_self part))]
  · rfl

theorem IsNormal.branches_increasing {part : Tree α} (normal : part.IsNormal) :
    part.branches.Pairwise fun a b => compare a b = .lt := by
  rcases normal with rfl | normal
  · exact .nil
  · cases normal with
    | leaf | seq => exact List.pairwise_singleton _ _
    | alt _ _ increasing _ => exact increasing

/-- An alternative of one normal part is that part. -/
theorem choice_singleton {part : Tree α} (normal : part.IsNormal) : choice [part] = part := by
  have spliced : spliceAlt [part] = part.branches := by
    match part with
    | .leaf item | .seq inner => rfl
    | .alt inner => exact List.append_nil inner
  rw [choice, spliced, sortUnique_eq_self normal.branches_increasing]
  rcases normal with rfl | normal
  · rfl
  · cases normal with
    | leaf | seq => rfl
    | alt several _ _ _ => exact single_eq (Nat.ne_of_gt several)

end Choice

/-! ## Substitution -/

section Substitute

variable [Ord α] [Std.LawfulEqOrd α] [Ord β] [Std.TransOrd β] [Std.LawfulEqOrd β]

/-- The canonical form of a tree with trees in the place of its leaves. -/
def substituted (f : α → Tree β) (tree : Tree α) : Tree β := (tree.flatMap f).normalize

variable (f : α → Tree β)

theorem isNormal_of_mem_substituted (parts : List (Tree α)) :
    ∀ part ∈ parts.map (substituted f), part.IsNormal := by
  intro part mem
  obtain ⟨source, -, rfl⟩ := List.mem_map.1 mem
  exact isNormal_normalize _

theorem substituted_seq (parts : List (Tree α)) :
    (seq parts).substituted f = chain (parts.map (substituted f)) := by
  rw [substituted, flatMap, normalize, normalizeAll_eq_map, flatMapAll_eq_map, List.map_map]
  rfl

theorem substituted_alt (parts : List (Tree α)) :
    (alt parts).substituted f = choice (parts.map (substituted f)) := by
  rw [substituted, flatMap, normalize, normalizeAll_eq_map, flatMapAll_eq_map, List.map_map]
  rfl

theorem substituted_dead : (alt []).substituted f = alt [] := by
  rw [substituted_alt, List.map_nil, choice, spliceAlt, sortUnique_eq_self .nil]
  rfl

/-- What a part adds to a sequence may be taken before the substitution. -/
theorem segments_substituted (part : Tree α) : segments (part.substituted f) =
    (segments part).bind fun inner => spliceSeq (inner.map (substituted f)) := by
  match part with
  | .alt [] =>
      rw [substituted_dead]
      rfl
  | .seq inner =>
      rw [substituted_seq, segments_chain (isNormal_of_mem_substituted f inner)]
      rfl
  | .leaf item | .alt (first :: rest) => exact (spliceSeq_singleton _).symm

/-- Sequences may be spliced before the substitution. -/
theorem spliceSeq_map_substituted (parts : List (Tree α)) :
    spliceSeq (parts.map (substituted f)) =
      (spliceSeq parts).bind fun flat => spliceSeq (flat.map (substituted f)) := by
  induction parts with
  | nil => simp [spliceSeq]
  | cons part rest ih =>
      rw [List.map_cons, spliceSeq_cons, spliceSeq_cons, segments_substituted, ih]
      cases segments part with
      | none => rfl
      | some inner =>
          cases spliceSeq rest with
          | none => simp
          | some flat => simp [spliceSeq_append]

/-- A sequence may be rebuilt before the substitution. -/
theorem substituted_chain (parts : List (Tree α)) :
    (chain parts).substituted f = chain (parts.map (substituted f)) := by
  have spliced := spliceSeq_map_substituted f parts
  cases found : spliceSeq parts with
  | none =>
      rw [found] at spliced
      rw [chain, chain, found, spliced]
      exact substituted_dead f
  | some flat =>
      have same : chain (parts.map (substituted f)) = chain (flat.map (substituted f)) := by
        rw [chain, chain, spliced, found, Option.bind_some]
      rw [same, chain, found]
      dsimp only
      rcases flat with _ | ⟨part, _ | ⟨second, rest⟩⟩
      · exact substituted_seq f []
      · exact (chain_singleton (isNormal_normalize _)).symm
      · exact substituted_seq f (part :: second :: rest)

theorem mem_spliceAlt_map_substituted {parts : List (Tree α)} {x : Tree β} :
    x ∈ spliceAlt (parts.map (substituted f)) ↔
      ∃ part ∈ parts, x ∈ (part.substituted f).branches := by
  rw [mem_spliceAlt]
  simp

/-- What a part adds to an alternative may be taken before the substitution. -/
theorem mem_branches_substituted {part : Tree α} {x : Tree β} :
    x ∈ (part.substituted f).branches ↔
      ∃ branch ∈ part.branches, x ∈ (branch.substituted f).branches := by
  cases part with
  | leaf | seq => simp [branches]
  | alt inner =>
      rw [substituted_alt, mem_branches_choice (isNormal_of_mem_substituted f inner),
        mem_spliceAlt_map_substituted, branches]

/-- An alternative may be rebuilt before the substitution: what it is spliced, sorted and thinned
out to adds the same set. -/
theorem substituted_choice (parts : List (Tree α)) :
    (choice parts).substituted f = choice (parts.map (substituted f)) := by
  have same : choice (parts.map (substituted f)) =
      choice ((sortUnique (spliceAlt parts)).map (substituted f)) := by
    refine choice_congr fun x => ?_
    rw [mem_spliceAlt_map_substituted, mem_spliceAlt_map_substituted]
    simp only [mem_sortUnique, mem_spliceAlt]
    constructor
    · rintro ⟨part, mem, adds⟩
      obtain ⟨branch, here, adds⟩ := (mem_branches_substituted f).1 adds
      exact ⟨branch, ⟨part, mem, here⟩, adds⟩
    · rintro ⟨branch, ⟨part, mem, here⟩, adds⟩
      exact ⟨part, mem, (mem_branches_substituted f).2 ⟨branch, here, adds⟩⟩
  rw [same, choice]
  rcases sortUnique (spliceAlt parts) with _ | ⟨part, _ | ⟨second, rest⟩⟩
  · exact substituted_alt f []
  · exact (choice_singleton (isNormal_normalize _)).symm
  · exact substituted_alt f (part :: second :: rest)

mutual

/-- Normalizing a tree first changes nothing. -/
theorem substituted_normalize : (tree : Tree α) →
    tree.normalize.substituted f = tree.substituted f
  | .leaf item => by rw [normalize]
  | .seq parts => by
      rw [normalize, substituted_chain, map_substituted_normalizeAll parts, substituted_seq]
  | .alt parts => by
      rw [normalize, substituted_choice, map_substituted_normalizeAll parts, substituted_alt]

theorem map_substituted_normalizeAll : (parts : List (Tree α)) →
    (normalizeAll parts).map (substituted f) = parts.map (substituted f)
  | [] => by rw [normalizeAll]
  | part :: rest => by
      rw [normalizeAll, List.map_cons, List.map_cons, substituted_normalize part,
        map_substituted_normalizeAll rest]

end

mutual

/-- Normalizing what is put in changes nothing. -/
theorem substituted_of_normalized : (tree : Tree α) →
    tree.substituted (fun item => (f item).normalize) = tree.substituted f
  | .leaf item => by
      rw [substituted, substituted, flatMap, flatMap]
      exact normalize_normalize (f item)
  | .seq parts => by rw [substituted_seq, substituted_seq, map_substituted_of_normalized parts]
  | .alt parts => by rw [substituted_alt, substituted_alt, map_substituted_of_normalized parts]

theorem map_substituted_of_normalized : (parts : List (Tree α)) →
    parts.map (substituted fun item => (f item).normalize) = parts.map (substituted f)
  | [] => rfl
  | part :: rest => by
      rw [List.map_cons, List.map_cons, substituted_of_normalized part,
        map_substituted_of_normalized rest]

end

/-- Normalizing a tree and what is put in the place of its leaves does not change the canonical
form of the result. -/
theorem normalize_flatMap_normalize (tree : Tree α) :
    (tree.flatMap f).normalize =
      (tree.normalize.flatMap fun item => (f item).normalize).normalize := by
  have first := substituted_normalize (fun item => (f item).normalize) tree
  exact (substituted_of_normalized f tree).symm.trans first.symm

end Substitute

/-- Two alternatives that start apart, one of them written as a nested alternative. -/
def sampleApart : Tree Nat :=
  .alt [.seq [.leaf 1, .leaf 2], .alt [.leaf 4, .seq [.leaf 3, .leaf 1]], .seq [.seq [.leaf 5]]]

/-- Leaves that come to the same, to nothing, and to what can never happen. -/
def sampleImage : Nat → Tree Nat
  | 1 => .alt [.leaf 9, .alt [.leaf 8]]
  | 2 => .seq []
  | 3 => .alt []
  | 4 => .seq [.alt [.leaf 8]]
  | item => .seq [.leaf item, .seq [.leaf item]]

/-- Either way the alternatives of the sample are joined to the same three. -/
theorem normalize_flatMap_normalize_sampleApart :
    (sampleApart.normalize.flatMap fun item => (sampleImage item).normalize).normalize =
      .alt [.leaf 8, .leaf 9, .seq [.leaf 5, .leaf 5]] := by
  rw [← normalize_flatMap_normalize sampleImage sampleApart]
  cbv

end CallSearch.Tree
