/-
# CallSearch.Proofs.Tree.Splice — what a part adds to the node around it

A node is rebuilt from what its parts add.  To a sequence a part adds its own parts in
order, or makes the sequence impossible (`segments`).  To an alternative it adds its own
alternatives (`branches`).  So what splicing keeps is shown for one part:

* `exists_spliceSeq`: a sequence without impossible parts can be spliced;
* `exists_of_mem_spliceSeq`, `mem_spliceAlt`: a spliced node has what its parts add;
* `leavesOfAll_spliceSeq`, `leavesOfAll_spliceAlt`: splicing keeps the leaves.
-/
import CallSearch.Tree.Normal

namespace CallSearch.Tree

set_option autoImplicit false

variable {α : Type}

/-! ## What a part adds to a sequence -/

/-- What a normal part adds to the sequence around it; `none` if it can never happen. -/
def segments : Tree α → Option (List (Tree α))
  | .alt [] => none
  | .seq inner => some inner
  | part => some [part]

@[simp]
theorem segments_leaf (item : α) : segments (leaf item) = some [leaf item] := rfl

@[simp]
theorem segments_seq (inner : List (Tree α)) : segments (seq inner) = some inner := rfl

@[simp]
theorem segments_dead : segments (alt ([] : List (Tree α))) = none := rfl

@[simp]
theorem segments_alt_cons (first : Tree α) (rest : List (Tree α)) :
    segments (alt (first :: rest)) = some [alt (first :: rest)] := rfl

/-- A part adds itself, or as a sequence the parts that it has. -/
theorem segments_eq_some {part : Tree α} {inner : List (Tree α)}
    (added : part.segments = some inner) : part = seq inner ∨ inner = [part] := by
  match part with
  | .alt [] => cases added
  | .seq parts =>
      cases added
      exact Or.inl rfl
  | .leaf item | .alt (first :: rest) =>
      cases added
      exact Or.inr rfl

theorem segments_eq_none {part : Tree α} (dead : part.segments = none) : part = alt [] := by
  match part with
  | .alt [] => rfl
  | .leaf item | .seq inner | .alt (first :: rest) => cases dead

theorem spliceSeq_cons (part : Tree α) (rest : List (Tree α)) :
    spliceSeq (part :: rest) =
      (segments part).bind fun inner => (spliceSeq rest).map (inner ++ ·) := by
  match part with
  | .alt [] | .seq inner | .leaf item | .alt (first :: others) => rfl

theorem spliceSeq_cons_eq_some {part : Tree α} {rest flat : List (Tree α)} :
    spliceSeq (part :: rest) = some flat ↔ ∃ inner, part.segments = some inner ∧
      ∃ others, spliceSeq rest = some others ∧ inner ++ others = flat := by
  rw [spliceSeq_cons, Option.bind_eq_some_iff]
  simp only [Option.map_eq_some_iff]

theorem spliceSeq_singleton (part : Tree α) : spliceSeq [part] = segments part := by
  rw [spliceSeq_cons]
  cases segments part <;> simp [spliceSeq]

theorem spliceSeq_append (first second : List (Tree α)) :
    spliceSeq (first ++ second) =
      (spliceSeq first).bind fun inner => (spliceSeq second).map (inner ++ ·) := by
  induction first with
  | nil => simp [spliceSeq]
  | cons part rest ih =>
      rw [List.cons_append, spliceSeq_cons, spliceSeq_cons, ih]
      cases segments part with
      | none => rfl
      | some inner => cases spliceSeq rest <;> cases spliceSeq second <;> simp

/-- A sequence without impossible parts can be spliced. -/
theorem exists_spliceSeq {parts : List (Tree α)} (possible : ∀ part ∈ parts, part ≠ .alt []) :
    ∃ flat, spliceSeq parts = some flat := by
  induction parts with
  | nil => exact ⟨[], rfl⟩
  | cons part rest ih =>
      obtain ⟨others, found⟩ := ih fun other mem => possible other (List.mem_cons_of_mem _ mem)
      cases added : part.segments with
      | none => exact absurd (segments_eq_none added) (possible part List.mem_cons_self)
      | some inner => exact ⟨_, spliceSeq_cons_eq_some.2 ⟨inner, added, others, found, rfl⟩⟩

/-- What is in a spliced sequence was added by one of the parts. -/
theorem exists_of_mem_spliceSeq {parts flat : List (Tree α)} {x : Tree α}
    (found : spliceSeq parts = some flat) (mem : x ∈ flat) :
    ∃ part ∈ parts, ∃ inner, part.segments = some inner ∧ x ∈ inner := by
  induction parts generalizing flat with
  | nil =>
      cases found
      cases mem
  | cons part rest ih =>
      obtain ⟨inner, added, others, foundRest, rfl⟩ := spliceSeq_cons_eq_some.1 found
      rcases List.mem_append.1 mem with mem | mem
      · exact ⟨part, List.mem_cons_self, inner, added, mem⟩
      · obtain ⟨other, listed, adds⟩ := ih foundRest mem
        exact ⟨other, List.mem_cons_of_mem _ listed, adds⟩

/-! ## What a part adds to an alternative -/

/-- What a normal part adds to the alternative around it. -/
def branches : Tree α → List (Tree α)
  | .alt inner => inner
  | part => [part]

@[simp]
theorem branches_leaf (item : α) : branches (leaf item) = [leaf item] := rfl

@[simp]
theorem branches_seq (inner : List (Tree α)) : branches (seq inner) = [seq inner] := rfl

@[simp]
theorem branches_alt (inner : List (Tree α)) : branches (alt inner) = inner := rfl

/-- A part adds itself, or as an alternative the parts that it has. -/
theorem branches_cases (part : Tree α) : part = alt part.branches ∨ part.branches = [part] := by
  cases part with
  | alt inner => exact Or.inl rfl
  | leaf item | seq inner => exact Or.inr rfl

theorem spliceAlt_eq (parts : List (Tree α)) : spliceAlt parts = parts.flatMap branches := by
  induction parts with
  | nil => rfl
  | cons part rest ih =>
      rw [List.flatMap_cons, ← ih]
      cases part <;> rfl

theorem mem_spliceAlt {x : Tree α} {parts : List (Tree α)} :
    x ∈ spliceAlt parts ↔ ∃ part ∈ parts, x ∈ part.branches := by
  rw [spliceAlt_eq, List.mem_flatMap]

/-! ## Leaves -/

theorem leavesOfAll_eq (parts : List (Tree α)) : leavesOfAll parts = parts.flatMap leaves := by
  induction parts with
  | nil => rw [leavesOfAll, List.flatMap_nil]
  | cons part rest ih => rw [leavesOfAll, ih, List.flatMap_cons]

theorem leavesOfAll_singleton (part : Tree α) : leavesOfAll [part] = part.leaves := by
  rw [leavesOfAll, leavesOfAll, List.append_nil]

theorem leavesOfAll_segments {part : Tree α} {inner : List (Tree α)}
    (added : part.segments = some inner) : leavesOfAll inner = part.leaves := by
  rcases segments_eq_some added with rfl | rfl
  · rw [leaves]
  · exact leavesOfAll_singleton part

theorem leavesOfAll_branches (part : Tree α) : leavesOfAll part.branches = part.leaves := by
  cases part with
  | alt inner => rw [branches_alt, leaves]
  | leaf item | seq inner => exact leavesOfAll_singleton _

theorem leavesOfAll_spliceSeq {parts flat : List (Tree α)} (found : spliceSeq parts = some flat) :
    leavesOfAll flat = leavesOfAll parts := by
  induction parts generalizing flat with
  | nil =>
      cases found
      rfl
  | cons part rest ih =>
      obtain ⟨inner, added, others, foundRest, rfl⟩ := spliceSeq_cons_eq_some.1 found
      rw [leavesOfAll_eq, List.flatMap_append, ← leavesOfAll_eq, ← leavesOfAll_eq, ih foundRest,
        leavesOfAll_segments added, leavesOfAll]

theorem leavesOfAll_spliceAlt (parts : List (Tree α)) :
    leavesOfAll (spliceAlt parts) = leavesOfAll parts := by
  rw [spliceAlt_eq, leavesOfAll_eq, leavesOfAll_eq, List.flatMap_assoc]
  simp only [← leavesOfAll_eq, leavesOfAll_branches]

/-! ## Nodes of one part -/

theorem single_of {P : Tree α → Prop} {wrap : List (Tree α) → Tree α} {parts : List (Tree α)}
    (all : ∀ part ∈ parts, P part) (wrapped : P (wrap parts)) : P (single wrap parts) := by
  unfold single
  split
  · next part => exact all part (List.mem_singleton_self part)
  · exact wrapped

theorem single_eq {wrap : List (Tree α) → Tree α} {parts : List (Tree α)}
    (several : parts.length ≠ 1) : single wrap parts = wrap parts := by
  match parts with
  | [] => rfl
  | [part] => exact absurd rfl several
  | first :: second :: rest => rfl

theorem leaves_single (wrap : List (Tree α) → Tree α) {parts : List (Tree α)}
    (wrapped : (wrap parts).leaves = leavesOfAll parts) :
    (single wrap parts).leaves = leavesOfAll parts := by
  unfold single
  split
  · exact (leavesOfAll_singleton _).symm
  · exact wrapped

end CallSearch.Tree
