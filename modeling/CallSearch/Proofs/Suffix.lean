/-
# CallSearch.Proofs.Suffix — places in a list as suffixes

A place in a list of instructions or regions is the part of the list from there on.
Jumps lead to the suffix that starts with a label, and where no label is defined
twice there is only one such suffix (`suffix_eq_of_name`).
-/
import Mathlib.Data.List.Nodup

namespace CallSearch

set_option autoImplicit false

variable {α β : Type}

/-- A suffix of two lists in a row lies in the second, or starts in the first. -/
theorem suffix_append_iff {u a b : List α} :
    u <:+ a ++ b ↔ u <:+ b ∨ ∃ a', a' ≠ [] ∧ a' <:+ a ∧ u = a' ++ b := by
  induction a with
  | nil =>
      constructor
      · exact fun h => Or.inl h
      · rintro (h | ⟨a', some, sub, rfl⟩)
        · exact h
        · exact absurd (List.suffix_nil.1 sub) some
  | cons x a ih =>
      rw [List.cons_append, List.suffix_cons_iff, ih]
      constructor
      · rintro (rfl | h | ⟨a', some, sub, rfl⟩)
        · exact Or.inr ⟨x :: a, List.cons_ne_nil _ _, List.suffix_rfl, rfl⟩
        · exact Or.inl h
        · exact Or.inr ⟨a', some, sub.trans (List.suffix_cons _ _), rfl⟩
      · rintro (h | ⟨a', some, sub, rfl⟩)
        · exact Or.inr (Or.inl h)
        · rcases List.suffix_cons_iff.1 sub with rfl | sub
          · exact Or.inl rfl
          · exact Or.inr (Or.inr ⟨a', some, sub, rfl⟩)

theorem suffix_append_right {a' a : List α} (b : List α) (h : a' <:+ a) : a' ++ b <:+ a ++ b :=
  List.suffix_append_self_iff.2 h

theorem suffix_of_cons {x : α} {u l : List α} (h : x :: u <:+ l) : u <:+ l :=
  (List.suffix_cons x u).trans h

theorem mem_of_suffix {x : α} {u l : List α} (h : x :: u <:+ l) : x ∈ l :=
  h.subset List.mem_cons_self

theorem exists_suffix_of_mem {x : α} {l : List α} (h : x ∈ l) : ∃ u, x :: u <:+ l := by
  obtain ⟨before, after, rfl⟩ := List.append_of_mem h
  exact ⟨after, List.suffix_append _ _⟩

/-- Where names are not repeated, the suffix that starts with a name is unique. -/
theorem suffix_eq_of_name {name? : α → Option β} {l : List α} (distinct : (l.filterMap name?).Nodup)
    {x y : α} {u v : List α} {name : β} (hx : name? x = some name) (hy : name? y = some name)
    (hu : x :: u <:+ l) (hv : y :: v <:+ l) : x :: u = y :: v := by
  have apart : ∀ {x y : α} {u v : List α}, name? x = some name → name? y = some name →
      y :: v <:+ l → ¬ x :: u <:+ v := by
    intro x y u v hx hy hv hu
    have nodup := (hv.filterMap name?).sublist.nodup distinct
    rw [List.filterMap_cons_some hy, List.nodup_cons] at nodup
    exact nodup.1 (List.mem_filterMap.2 ⟨x, mem_of_suffix hu, hx⟩)
  rcases List.suffix_or_suffix_of_suffix hu hv with h | h
  · rcases List.suffix_cons_iff.1 h with h | h
    · exact h
    · exact absurd h (apart hx hy hv)
  · rcases List.suffix_cons_iff.1 h with h | h
    · exact h.symm
    · exact absurd h (apart hy hx hu)

end CallSearch
