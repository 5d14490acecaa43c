/-
# CallSearch.Proofs.Layers — layers are distances

A search layer by layer finds each element by a shortest chain: the layer of an element
is its distance from the start (`mem_layers_iff`).  Every element of a shortest chain
but the last has a successor and no two are at one distance, so there are no more rounds
to go than there are elements with a successor (`IsDistance.le_length`).
-/
import CallSearch.Layers
import Mathlib.Data.List.Basic
import Mathlib.Data.List.Nodup
import Mathlib.Order.Nat

namespace CallSearch

set_option autoImplicit false

variable {α : Type} {next : α → List α}

/-! ## Shortest chains -/

/-- The second element is reached from the first in a number of steps. -/
inductive Steps (next : α → List α) : Nat → α → α → Prop
  | zero (a : α) : Steps next 0 a a
  | succ {n : Nat} {a b c : α} : Steps next n a b → c ∈ next b → Steps next (n + 1) a c

/-- The second element is reached from the first in a number of steps and in no fewer. -/
def IsDistance (next : α → List α) (n : Nat) (a b : α) : Prop :=
  Steps next n a b ∧ ∀ m, Steps next m a b → n ≤ m

theorem steps_zero {a b : α} : Steps next 0 a b ↔ b = a := by
  constructor
  · intro steps
    cases steps
    rfl
  · rintro rfl
    exact .zero b

/-- A chain goes on from the first step. -/
theorem steps_succ_iff {n : Nat} {a c : α} :
    Steps next (n + 1) a c ↔ ∃ b ∈ next a, Steps next n b c := by
  constructor
  · intro steps
    induction n generalizing c with
    | zero =>
        cases steps with
        | succ before last =>
            obtain rfl := steps_zero.1 before
            exact ⟨c, last, .zero c⟩
    | succ n ih =>
        cases steps with
        | succ before last =>
            obtain ⟨b, first, rest⟩ := ih before
            exact ⟨b, first, .succ rest last⟩
  · rintro ⟨b, first, rest⟩
    induction rest with
    | zero => exact .succ (.zero a) first
    | succ _ last ih => exact .succ (ih first) last

/-- A chain has a start of each smaller length. -/
theorem Steps.exists_at {m n : Nat} {a c : α} (steps : Steps next n a c) (le : m ≤ n) :
    ∃ b, Steps next m a b := by
  induction steps with
  | zero a =>
      obtain rfl := Nat.le_zero.1 le
      exact ⟨a, .zero a⟩
  | @succ n a b c before last ih =>
      by_cases whole : m = n + 1
      · subst whole
        exact ⟨c, .succ before last⟩
      · exact ih (by omega)

/-- A chain goes on with a chain from its end. -/
theorem Steps.trans {m n : Nat} {a b c : α} (first : Steps next m a b) (second : Steps next n b c) :
    Steps next (m + n) a c := by
  induction second with
  | zero _ => exact first
  | succ _ last ih => exact .succ (ih first) last

theorem Steps.exists_isDistance {n : Nat} {a b : α} (steps : Steps next n a b) :
    ∃ m, IsDistance next m a b := by
  classical
  have reached : ∃ m, Steps next m a b := ⟨n, steps⟩
  exact ⟨Nat.find reached, Nat.find_spec reached, fun _ other => Nat.find_min' reached other⟩

namespace IsDistance

theorem unique {n m : Nat} {a b : α} (h : IsDistance next n a b) (h' : IsDistance next m a b) :
    n = m :=
  Nat.le_antisymm (h.2 m h'.1) (h'.2 n h.1)

theorem zero_iff {a b : α} : IsDistance next 0 a b ↔ b = a :=
  ⟨fun h => steps_zero.1 h.1, fun same => ⟨steps_zero.2 same, fun _ _ => Nat.zero_le _⟩⟩

/-- On a shortest chain the last element but one is one step nearer. -/
theorem exists_last {n : Nat} {a c : α} (h : IsDistance next (n + 1) a c) :
    ∃ b, IsDistance next n a b ∧ c ∈ next b := by
  obtain ⟨steps, least⟩ := h
  cases steps with
  | @succ _ _ b _ before last =>
      refine ⟨b, ⟨before, fun m other => ?_⟩, last⟩
      have := least (m + 1) (.succ other last)
      omega

/-- What is one step further and not reached before is one step more away. -/
theorem succ {n : Nat} {a b c : α} (h : IsDistance next n a b) (step : c ∈ next b)
    (fresh : ∀ m, m ≤ n → ¬Steps next m a c) : IsDistance next (n + 1) a c := by
  refine ⟨.succ h.1 step, fun m other => ?_⟩
  by_contra less
  exact fresh m (by omega) other

/-- There is an element at every smaller distance. -/
theorem exists_at {n m : Nat} {a c : α} (h : IsDistance next n a c) (le : m ≤ n) :
    ∃ b, IsDistance next m a b := by
  induction n generalizing c with
  | zero => exact ⟨c, Nat.le_zero.1 le ▸ h⟩
  | succ n ih =>
      by_cases last : m = n + 1
      · exact ⟨c, last ▸ h⟩
      · obtain ⟨b, before, -⟩ := h.exists_last
        exact ih before (by omega)

/-- A shortest chain up to its last element: the elements have successors and are different, as
their distances are. -/
theorem exists_chain {n : Nat} {a c : α} (h : IsDistance next n a c) :
    ∃ chain : List α, chain.length = n ∧ chain.Nodup ∧
      ∀ b ∈ chain, next b ≠ [] ∧ ∃ m < n, IsDistance next m a b := by
  induction n generalizing c with
  | zero => exact ⟨[], rfl, List.nodup_nil, by simp⟩
  | succ n ih =>
      obtain ⟨b, before, step⟩ := h.exists_last
      obtain ⟨chain, length, distinct, nearer⟩ := ih before
      refine ⟨b :: chain, by rw [List.length_cons, length], List.nodup_cons.2 ⟨fun mem => ?_,
        distinct⟩, fun other mem => ?_⟩
      · obtain ⟨-, m, less, distance⟩ := nearer b mem
        have := distance.unique before
        omega
      · rcases List.mem_cons.1 mem with rfl | mem
        · exact ⟨List.ne_nil_of_mem step, n, Nat.lt_succ_self n, before⟩
        · obtain ⟨expands, m, less, distance⟩ := nearer other mem
          exact ⟨expands, m, Nat.lt_succ_of_lt less, distance⟩

/-- No distance is greater than the number of elements with a successor. -/
theorem le_length {n : Nat} {a c : α} (h : IsDistance next n a c) {all : List α}
    (listed : ∀ b, next b ≠ [] → b ∈ all) : n ≤ all.length := by
  obtain ⟨chain, rfl, distinct, nearer⟩ := h.exists_chain
  exact distinct.length_le_of_subset fun b mem => listed b (nearer b mem).1

end IsDistance

/-! ## Layers -/

section Layers

variable [DecidableEq α]

theorem mem_nextLayer {seen layer : List α} {a : α} :
    a ∈ nextLayer next seen layer ↔
      (∃ b ∈ layer, a ∈ next b) ∧ a ∉ seen ∧ a ∉ layer := by
  simp [nextLayer]

section Step

variable {start : α} {i : Nat} {seen layer : List α}
  (before : ∀ a, a ∈ seen ↔ ∃ m < i, IsDistance next m start a)
  (here : ∀ a, a ∈ layer ↔ IsDistance next i start a)

include before here

omit [DecidableEq α] in
/-- What was seen and the layer are the elements at a smaller distance than the next layer. -/
theorem mem_layer_append_iff (a : α) :
    a ∈ layer ++ seen ↔ ∃ m < i + 1, IsDistance next m start a := by
  rw [List.mem_append, here, before]
  constructor
  · rintro (distance | ⟨m, less, distance⟩)
    · exact ⟨i, Nat.lt_succ_self i, distance⟩
    · exact ⟨m, Nat.lt_succ_of_lt less, distance⟩
  · rintro ⟨m, less, distance⟩
    by_cases last : m = i
    · exact Or.inl (last ▸ distance)
    · exact Or.inr ⟨m, by omega, distance⟩

/-- The next layer holds the elements one step further away. -/
theorem mem_nextLayer_iff (a : α) :
    a ∈ nextLayer next seen layer ↔ IsDistance next (i + 1) start a := by
  rw [mem_nextLayer]
  constructor
  · rintro ⟨⟨b, mem, step⟩, notSeen, notLayer⟩
    refine ((here b).1 mem).succ step fun m le steps => ?_
    obtain ⟨least, distance⟩ := steps.exists_isDistance
    have := distance.2 m steps
    by_cases last : least = i
    · exact notLayer ((here a).2 (last ▸ distance))
    · exact notSeen ((before a).2 ⟨least, by omega, distance⟩)
  · intro distance
    obtain ⟨b, nearer, step⟩ := distance.exists_last
    refine ⟨⟨b, (here b).2 nearer, step⟩, fun seen => ?_, fun mem => ?_⟩
    · obtain ⟨m, less, other⟩ := (before a).1 seen
      have := other.unique distance
      omega
    · have := ((here a).1 mem).unique distance
      omega

end Step

/-- The layers still to come hold the elements at the distances still to come. -/
theorem mem_getElem?_layers {start : α} {rounds i : Nat} {seen layer : List α}
    (before : ∀ a, a ∈ seen ↔ ∃ m < i, IsDistance next m start a)
    (here : ∀ a, a ∈ layer ↔ IsDistance next i start a) {j : Nat} {a : α} :
    (∃ found, (layers next rounds seen layer)[j]? = some found ∧ a ∈ found) ↔
      j < rounds ∧ IsDistance next (i + j) start a := by
  induction rounds generalizing i seen layer j with
  | zero => simp [layers]
  | succ rounds ih =>
      rw [layers]
      by_cases empty : layer = []
      · subst empty
        -- Nothing is at this distance, so nothing is further away.
        have none : ¬IsDistance next (i + j) start a := fun distance => by
          obtain ⟨b, between⟩ := distance.exists_at (Nat.le_add_right i j)
          exact List.not_mem_nil ((here b).2 between)
        simp [none]
      · rw [if_neg (by simpa using empty)]
        cases j with
        | zero => simp [here]
        | succ j =>
            rw [List.getElem?_cons_succ,
              ih (mem_layer_append_iff before here) (mem_nextLayer_iff before here),
              Nat.add_right_comm, Nat.add_assoc i j 1]
            exact and_congr_left' (by omega)

/-- The layer of an element is its distance from the start, as far as there are rounds. -/
theorem mem_layers_iff {rounds n : Nat} {start a : α} :
    (∃ layer, (layers next rounds [] [start])[n]? = some layer ∧ a ∈ layer) ↔
      n < rounds ∧ IsDistance next n start a := by
  have here : ∀ b, b ∈ [start] ↔ IsDistance next 0 start b := by simp [IsDistance.zero_iff]
  have before : ∀ b, b ∈ ([] : List α) ↔ ∃ m < 0, IsDistance next m start b := by simp
  rw [mem_getElem?_layers before here, Nat.zero_add]

end Layers

end CallSearch
