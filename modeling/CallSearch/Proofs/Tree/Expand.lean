/-
# CallSearch.Proofs.Tree.Expand — replacing leaves step by step

Replacing the leaves of a tree, or the items of a list, may change a state on the
way.  What one replacement keeps and does is stated once (`Effect`), and holds of the
whole tree: `expands_flatMapM`.
-/
import CallSearch.Proofs.Tree.Language

namespace CallSearch

set_option autoImplicit false
set_option linter.unusedSectionVars false

/-- What steps on a state keep (`inv`), do on the way to what their results hold (`step`), and
make true of a result for as long as there are further steps (`related`). -/
structure Effect (σ α γ β : Type) where
  /-- What a result holds. -/
  parts : γ → List β
  inv : σ → Prop
  step : σ → List β → σ → Prop
  idle : ∀ s, step s [] s
  append : ∀ {s s' s'' first second}, step s first s' → step s' second s'' →
    step s (first ++ second) s''
  related : σ → α → γ → Prop
  keep : ∀ {s s' item result more}, related s item result → step s more s' →
    related s' item result

/-- One step keeps and does what it should. -/
def Effect.Holds {σ α γ β : Type} (effect : Effect σ α γ β) (f : α → StateM σ γ) (item : α) :
    Prop :=
  ∀ s, effect.inv s → effect.inv (f item s).2 ∧
    effect.step s (effect.parts (f item s).1) (f item s).2 ∧
    effect.related (f item s).2 item (f item s).1

theorem Effect.mapM {σ α γ β : Type} (effect : Effect σ α γ β) {f : α → StateM σ γ}
    {items : List α} (each : ∀ item ∈ items, effect.Holds f item) {s : σ} (start : effect.inv s) :
    effect.inv (items.mapM f s).2 ∧
      effect.step s ((items.mapM f s).1.flatMap effect.parts) (items.mapM f s).2 ∧
      List.Forall₂ (effect.related (items.mapM f s).2) items (items.mapM f s).1 := by
  induction items generalizing s with
  | nil => exact ⟨start, effect.idle s, .nil⟩
  | cons item rest ih =>
      obtain ⟨inv, step, related⟩ := each item List.mem_cons_self s start
      obtain ⟨invRest, stepRest, relatedRest⟩ :=
        ih (fun other mem => each other (List.mem_cons_of_mem _ mem)) inv
      rw [List.mapM_cons]
      exact ⟨invRest, effect.append step stepRest,
        .cons (effect.keep related stepRest) relatedRest⟩

theorem exists_right_of_mem {α γ : Type} {related : α → γ → Prop} {items : List α}
    {results : List γ} (all : List.Forall₂ related items results) {item : α} (mem : item ∈ items) :
    ∃ result ∈ results, related item result := by
  obtain ⟨i, inside, rfl⟩ := List.getElem_of_mem mem
  have other := all.length_eq ▸ inside
  exact ⟨_, List.getElem_mem other, (List.forall₂_iff_get.1 all).2 i inside other⟩

theorem exists_left_of_mem {α γ : Type} {related : α → γ → Prop} {items : List α}
    {results : List γ} (all : List.Forall₂ related items results) {result : γ}
    (mem : result ∈ results) : ∃ item ∈ items, related item result :=
  exists_right_of_mem all.flip mem

/-! ## Equal steps -/

section Congr

variable {m : Type → Type} [Monad m] {α β : Type}

theorem mapM_congr [LawfulMonad m] {f g : α → m β} {items : List α}
    (same : ∀ item ∈ items, f item = g item) : items.mapM f = items.mapM g := by
  induction items with
  | nil => rfl
  | cons item rest ih =>
      rw [List.mapM_cons, List.mapM_cons, same item List.mem_cons_self,
        ih fun other mem => same other (List.mem_cons_of_mem _ mem)]

theorem foldlM_congr {f g : β → α → m β} {items : List α}
    (same : ∀ item ∈ items, ∀ state, f state item = g state item) (state : β) :
    items.foldlM f state = items.foldlM g state := by
  induction items generalizing state with
  | nil => rfl
  | cons item rest ih =>
      rw [List.foldlM_cons, List.foldlM_cons, same item List.mem_cons_self]
      exact congrArg _ (funext (ih fun other mem => same other (List.mem_cons_of_mem _ mem)))

theorem forM_congr {f g : α → m PUnit} {items : List α}
    (same : ∀ item ∈ items, f item = g item) : items.forM f = items.forM g := by
  induction items with
  | nil => rfl
  | cons item rest ih =>
      change (f item >>= fun _ => rest.forM f) = g item >>= fun _ => rest.forM g
      rw [same item List.mem_cons_self, ih fun other mem => same other (List.mem_cons_of_mem _ mem)]

mutual

theorem Tree.flatMapM_congr {f g : α → m (Tree β)} : (tree : Tree α) →
    (∀ item ∈ tree.leaves, f item = g item) → tree.flatMapM f = tree.flatMapM g
  | .leaf item, same => by
      rw [flatMapM, flatMapM]
      exact same item (by simp [leaves])
  | .seq parts, same => by
      rw [flatMapM, flatMapM, flatMapAllM_congr parts (by simpa only [leaves] using same)]
  | .alt parts, same => by
      rw [flatMapM, flatMapM, flatMapAllM_congr parts (by simpa only [leaves] using same)]

theorem Tree.flatMapAllM_congr {f g : α → m (Tree β)} : (parts : List (Tree α)) →
    (∀ item ∈ leavesOfAll parts, f item = g item) → flatMapAllM f parts = flatMapAllM g parts
  | [], _ => by rw [flatMapAllM, flatMapAllM]
  | part :: rest, same => by
      simp only [leavesOfAll, List.mem_append] at same
      rw [flatMapAllM, flatMapAllM, flatMapM_congr part fun item mem => same item (Or.inl mem),
        flatMapAllM_congr rest fun item mem => same item (Or.inr mem)]

end

end Congr

/-! ## Two runs -/

section Relate

variable {σ τ α β γ : Type} {related : σ → τ → Prop}

/-- Two runs over the same items whose steps keep their states related. -/
theorem mapM_related {f : α → StateM σ β} {g : α → StateM τ γ} {items : List α}
    (each : ∀ item ∈ items, ∀ {s t}, related s t → related (f item s).2 (g item t).2) {s : σ}
    {t : τ} (start : related s t) : related (items.mapM f s).2 (items.mapM g t).2 := by
  induction items generalizing s t with
  | nil => exact start
  | cons item rest ih =>
      rw [List.mapM_cons, List.mapM_cons]
      exact ih (fun other mem => each other (List.mem_cons_of_mem _ mem))
        (each item List.mem_cons_self start)

mutual

theorem Tree.flatMapM_related {f : α → StateM σ (Tree β)} {g : α → StateM τ (Tree γ)} :
    {tree : Tree α} →
    (∀ item ∈ tree.leaves, ∀ {s t}, related s t → related (f item s).2 (g item t).2) →
    ∀ {s t}, related s t → related (tree.flatMapM f s).2 (tree.flatMapM g t).2
  | .leaf item, each, _, _, start => each item (by simp [leaves]) start
  | .seq parts, each, _, _, start =>
      have all : ∀ item ∈ leavesOfAll parts, _ := by simpa only [leaves] using each
      flatMapAllM_related all start
  | .alt parts, each, _, _, start =>
      have all : ∀ item ∈ leavesOfAll parts, _ := by simpa only [leaves] using each
      flatMapAllM_related all start

theorem Tree.flatMapAllM_related {f : α → StateM σ (Tree β)} {g : α → StateM τ (Tree γ)} :
    {parts : List (Tree α)} →
    (∀ item ∈ leavesOfAll parts, ∀ {s t}, related s t → related (f item s).2 (g item t).2) →
    ∀ {s t}, related s t → related (flatMapAllM f parts s).2 (flatMapAllM g parts t).2
  | [], _, _, _, start => start
  | part :: rest, each, _, _, start => by
      simp only [leavesOfAll, List.mem_append] at each
      have first : related (part.flatMapM f _).2 (part.flatMapM g _).2 :=
        flatMapM_related (fun item mem => each item (Or.inl mem)) start
      exact flatMapAllM_related (fun item mem => each item (Or.inr mem)) first

end

/-- What every step keeps, the run keeps. -/
theorem mapM_keeps {keeps : σ → Prop} {f : α → StateM σ β} {items : List α}
    (each : ∀ item ∈ items, ∀ {s}, keeps s → keeps (f item s).2) {s : σ} (start : keeps s) :
    keeps (items.mapM f s).2 :=
  @mapM_related _ _ _ _ _ (fun s (_ : σ) => keeps s) f f items
    (fun item mem _ _ kept => each item mem kept) s s start

end Relate

/-! ## Trees -/

namespace Tree

variable {α β : Type}

mutual

/-- The second tree is the first with a tree in the place of every leaf, each related to its
leaf. -/
inductive Expands (related : α → Tree β → Prop) : Tree α → Tree β → Prop
  | leaf {item : α} {tree : Tree β} : related item tree → Expands related (.leaf item) tree
  | seq {parts : List (Tree α)} {others : List (Tree β)} :
      ExpandsAll related parts others → Expands related (.seq parts) (.seq others)
  | alt {parts : List (Tree α)} {others : List (Tree β)} :
      ExpandsAll related parts others → Expands related (.alt parts) (.alt others)

/-- The same for trees one by one. -/
inductive ExpandsAll (related : α → Tree β → Prop) : List (Tree α) → List (Tree β) → Prop
  | nil : ExpandsAll related [] []
  | cons {part : Tree α} {other : Tree β} {rest : List (Tree α)} {others : List (Tree β)} :
      Expands related part other → ExpandsAll related rest others →
      ExpandsAll related (part :: rest) (other :: others)

end

section

variable {related : α → Tree β → Prop}

mutual

/-- Every leaf of the expanded tree comes from a leaf. -/
theorem Expands.exists_leaf : {tree : Tree α} → {result : Tree β} → Expands related tree result →
    ∀ {x : β}, x ∈ result.leaves →
      ∃ item ∈ tree.leaves, ∃ part, related item part ∧ x ∈ part.leaves
  | _, _, .leaf h, x, mem => ⟨_, by simp [leaves], _, h, mem⟩
  | _, _, .seq h, x, mem => by
      rw [leaves] at mem ⊢
      exact h.exists_leaf mem
  | _, _, .alt h, x, mem => by
      rw [leaves] at mem ⊢
      exact h.exists_leaf mem

theorem ExpandsAll.exists_leaf : {parts : List (Tree α)} → {others : List (Tree β)} →
    ExpandsAll related parts others → ∀ {x : β}, x ∈ leavesOfAll others →
      ∃ item ∈ leavesOfAll parts, ∃ part, related item part ∧ x ∈ part.leaves
  | _, _, .nil, x, mem => by simp [leavesOfAll] at mem
  | _, _, .cons first rest, x, mem => by
      rw [leavesOfAll, List.mem_append] at mem
      simp only [leavesOfAll, List.mem_append]
      rcases mem with mem | mem
      · obtain ⟨item, listed, found⟩ := first.exists_leaf mem
        exact ⟨item, Or.inl listed, found⟩
      · obtain ⟨item, listed, found⟩ := rest.exists_leaf mem
        exact ⟨item, Or.inr listed, found⟩

end

mutual

/-- Every leaf is expanded to some leaves of the expanded tree. -/
theorem Expands.exists_part : {tree : Tree α} → {result : Tree β} → Expands related tree result →
    ∀ {item : α}, item ∈ tree.leaves →
      ∃ part, related item part ∧ ∀ x ∈ part.leaves, x ∈ result.leaves
  | _, _, .leaf h, item, mem => by
      rw [leaves, List.mem_singleton] at mem
      exact ⟨_, mem ▸ h, fun _ here => here⟩
  | _, _, .seq h, item, mem => by
      rw [leaves] at mem ⊢
      exact h.exists_part mem
  | _, _, .alt h, item, mem => by
      rw [leaves] at mem ⊢
      exact h.exists_part mem

theorem ExpandsAll.exists_part : {parts : List (Tree α)} → {others : List (Tree β)} →
    ExpandsAll related parts others → ∀ {item : α}, item ∈ leavesOfAll parts →
      ∃ part, related item part ∧ ∀ x ∈ part.leaves, x ∈ leavesOfAll others
  | _, _, .nil, item, mem => by simp [leavesOfAll] at mem
  | _, _, .cons first rest, item, mem => by
      rw [leavesOfAll, List.mem_append] at mem
      simp only [leavesOfAll, List.mem_append]
      rcases mem with mem | mem
      · obtain ⟨found, holds, sub⟩ := first.exists_part mem
        exact ⟨found, holds, fun x here => Or.inl (sub x here)⟩
      · obtain ⟨found, holds, sub⟩ := rest.exists_part mem
        exact ⟨found, holds, fun x here => Or.inr (sub x here)⟩

end

mutual

/-- Expanding a tree by possible trees gives a possible tree. -/
theorem Expands.feasible (possible : ∀ item part, related item part → part.Feasible) :
    {tree : Tree α} → {result : Tree β} → Expands related tree result → tree.Feasible →
      result.Feasible
  | _, _, .leaf h, _ => possible _ _ h
  | _, _, .seq h, feasible => by
      rw [Feasible] at feasible ⊢
      exact h.feasible possible feasible
  | _, _, .alt h, feasible => by
      rw [Feasible] at feasible ⊢
      refine ⟨?_, h.feasible possible feasible.2⟩
      cases h with
      | nil => exact absurd rfl feasible.1
      | cons => exact List.cons_ne_nil _ _

theorem ExpandsAll.feasible (possible : ∀ item part, related item part → part.Feasible) :
    {parts : List (Tree α)} → {others : List (Tree β)} → ExpandsAll related parts others →
      FeasibleAll parts → FeasibleAll others
  | _, _, .nil, _ => by simp [FeasibleAll]
  | _, _, .cons first rest, feasible => by
      rw [FeasibleAll] at feasible ⊢
      exact ⟨first.feasible possible feasible.1, rest.feasible possible feasible.2⟩

end

mutual

theorem Expands.imp {other : α → Tree β → Prop} (h : ∀ item part, related item part → other item part) :
    {tree : Tree α} → {result : Tree β} → Expands related tree result → Expands other tree result
  | _, _, .leaf holds => .leaf (h _ _ holds)
  | _, _, .seq all => .seq (all.imp h)
  | _, _, .alt all => .alt (all.imp h)

theorem ExpandsAll.imp {other : α → Tree β → Prop}
    (h : ∀ item part, related item part → other item part) : {parts : List (Tree α)} →
    {others : List (Tree β)} → ExpandsAll related parts others → ExpandsAll other parts others
  | _, _, .nil => .nil
  | _, _, .cons first rest => .cons (first.imp h) (rest.imp h)

end

end

section Effects

variable {σ : Type} (effect : Effect σ α (Tree β) β) (leaves_eq : effect.parts = leaves)
  {f : α → StateM σ (Tree β)}

include leaves_eq

mutual

/-- What replacing one leaf keeps and does, replacing all leaves of a tree does. -/
theorem expands_flatMapM : (tree : Tree α) → (∀ item ∈ tree.leaves, effect.Holds f item) →
    {s : σ} → effect.inv s →
    effect.inv (tree.flatMapM f s).2 ∧
      effect.step s (tree.flatMapM f s).1.leaves (tree.flatMapM f s).2 ∧
      Expands (effect.related (tree.flatMapM f s).2) tree (tree.flatMapM f s).1
  | .leaf item, each, s, start => by
      obtain ⟨inv, step, related⟩ := each item (by simp [leaves]) s start
      rw [leaves_eq] at step
      exact ⟨inv, step, .leaf related⟩
  | .seq parts, each, s, start => by
      obtain ⟨inv, step, all⟩ := expands_flatMapAllM parts (by simpa [leaves] using each) start
      exact ⟨inv, step, .seq all⟩
  | .alt parts, each, s, start => by
      obtain ⟨inv, step, all⟩ := expands_flatMapAllM parts (by simpa [leaves] using each) start
      exact ⟨inv, step, .alt all⟩

theorem expands_flatMapAllM : (parts : List (Tree α)) →
    (∀ item ∈ leavesOfAll parts, effect.Holds f item) → {s : σ} → effect.inv s →
    effect.inv (flatMapAllM f parts s).2 ∧
      effect.step s (leavesOfAll (flatMapAllM f parts s).1) (flatMapAllM f parts s).2 ∧
      ExpandsAll (effect.related (flatMapAllM f parts s).2) parts (flatMapAllM f parts s).1
  | [], _, s, start => ⟨start, effect.idle s, .nil⟩
  | part :: rest, each, s, start => by
      simp only [leavesOfAll, List.mem_append] at each
      obtain ⟨inv, step, first⟩ :=
        expands_flatMapM part (fun item mem => each item (Or.inl mem)) start
      obtain ⟨invRest, stepRest, all⟩ :=
        expands_flatMapAllM rest (fun item mem => each item (Or.inr mem)) inv
      exact ⟨invRest, effect.append step stepRest,
        .cons (first.imp fun _ _ h => effect.keep h stepRest) all⟩

end

end Effects

end Tree

end CallSearch
