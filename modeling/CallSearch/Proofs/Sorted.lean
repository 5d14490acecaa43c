/-
# CallSearch.Proofs.Sorted — increasing lists are determined by their members

Two increasing lists with the same members are the same list, so a sorted result
depends on the set of what was sorted alone.  Sorting commutes with any map that
compares as its arguments do: `map_sortUnique`.

What is sorted by a comparison of its own needs that comparison to be transitive, which
follows from the strict part (`transCmp_of_lt`), and for comparisons one after the other
from each of them (`then_lt_trans`).
-/
import CallSearch.Sorted
import Mathlib.Data.List.Sort

namespace CallSearch

set_option autoImplicit false

universe u v

/-! ## Comparisons -/

/-- A comparison is transitive if it is so strictly and takes no two things for equal. -/
theorem transCmp_of_lt {α : Type} {cmp : α → α → Ordering}
    (swap : ∀ a b, cmp b a = (cmp a b).swap) (eq : ∀ a b, cmp a b = .eq → a = b)
    (lt : ∀ a b c, cmp a b = .lt → cmp b c = .lt → cmp a c = .lt) : Std.TransCmp cmp where
  eq_swap {a b} := swap b a
  isLE_trans {a b c} first second := by
    cases left : cmp a b with
    | gt =>
        rw [left] at first
        cases first
    | eq => rwa [eq a b left]
    | lt =>
        cases right : cmp b c with
        | gt =>
            rw [right] at second
            cases second
        | eq => rwa [← eq b c right]
        | lt =>
            rw [lt a b c left right]
            rfl

/-- Two comparisons one after the other are transitive if both are. -/
theorem then_lt_trans {α : Type} {cmp : α → α → Ordering} {a b c : α}
    {first second both : Ordering} (eq : ∀ a b, cmp a b = .eq → a = b)
    (lt : cmp a b = .lt → cmp b c = .lt → cmp a c = .lt)
    (rest : first = .lt → second = .lt → both = .lt)
    (h : (cmp a b).then first = .lt) (h' : (cmp b c).then second = .lt) :
    (cmp a c).then both = .lt := by
  rw [Ordering.then_eq_lt] at h h' ⊢
  -- What decides is where one of the two finds a difference first.
  rcases h with less | ⟨same, less⟩
  · rcases h' with less' | ⟨same', -⟩
    · exact Or.inl (lt less less')
    · exact Or.inl (eq b c same' ▸ less)
  · obtain rfl := eq a b same
    exact h'.imp_right (And.imp_right (rest less))

/-! ## Increasing lists -/

/-- Lists with the same members are equal if both are increasing by some key. -/
theorem eq_of_increasing_by {α : Type u} {κ : Type v} [Ord κ] [Std.TransOrd κ] (key : α → κ)
    {first second : List α}
    (increasing : first.Pairwise fun a b => compare (key a) (key b) = .lt)
    (increasing' : second.Pairwise fun a b => compare (key a) (key b) = .lt)
    (same : ∀ a, a ∈ first ↔ a ∈ second) : first = second := by
  have : Std.Irrefl fun a b : α => compare (key a) (key b) = .lt := ⟨fun a less => by
    have equal : compare (key a) (key a) = .eq := Std.ReflCmp.compare_self
    rw [equal] at less
    cases less⟩
  have : Std.Antisymm fun a b : α => compare (key a) (key b) = .lt := ⟨fun a b less less' => by
    have swapped : compare (key b) (key a) = (compare (key a) (key b)).swap :=
      Std.OrientedCmp.eq_swap
    rw [swapped, less] at less'
    cases less'⟩
  exact increasing.eq_of_mem_iff increasing' same

/-- Sorting by a key that differs from item to item puts the keys in strictly increasing order. -/
theorem mergeSort_increasing_by {α : Type u} {κ : Type v} [Ord κ] [Std.TransOrd κ]
    [Std.LawfulEqOrd κ] (key : α → κ) {items : List α} (distinct : (items.map key).Nodup) :
    (items.mergeSort fun a b => (compare (key a) (key b)).isLE).Pairwise
      fun a b => compare (key a) (key b) = .lt := by
  have ordered : (items.mergeSort fun a b => (compare (key a) (key b)).isLE).Pairwise
      fun a b => (compare (key a) (key b)).isLE = true :=
    List.pairwise_mergeSort (fun _ _ _ => Std.TransCmp.isLE_trans)
      (fun a b => by
        have swapped : compare (key b) (key a) = (compare (key a) (key b)).swap :=
          Std.OrientedCmp.eq_swap
        rw [swapped]
        cases compare (key a) (key b) <;> rfl)
      items
  have differ : (items.mergeSort fun a b => (compare (key a) (key b)).isLE).Pairwise
      fun a b => key a ≠ key b :=
    List.pairwise_map.1 (((List.mergeSort_perm items _).map key).nodup_iff.2 distinct)
  refine (differ.and ordered).imp ?_
  rintro a b ⟨apart, le⟩
  cases order : compare (key a) (key b) with
  | lt => rfl
  | eq => exact absurd (Std.LawfulEqOrd.eq_of_compare order) apart
  | gt => rw [order] at le; cases le

section

variable {α : Type u} [Ord α] [Std.TransOrd α]

/-- Increasing lists with the same members are equal. -/
theorem eq_of_increasing {first second : List α}
    (increasing : first.Pairwise fun a b => compare a b = .lt)
    (increasing' : second.Pairwise fun a b => compare a b = .lt)
    (same : ∀ a, a ∈ first ↔ a ∈ second) : first = second :=
  eq_of_increasing_by id increasing increasing' same

/-- Sets with the same members are equal. -/
theorem SortedSet.eq_of_mem_iff {s t : SortedSet α} (same : ∀ a, a ∈ s ↔ a ∈ t) : s = t :=
  SortedSet.ext (eq_of_increasing s.increasing t.increasing same)

/-- Sorting and dropping repetitions leaves nothing of the order and number of the items. -/
theorem sortUnique_congr [Std.LawfulEqOrd α] {first second : List α}
    (same : ∀ a, a ∈ first ↔ a ∈ second) : sortUnique first = sortUnique second :=
  eq_of_increasing (sortUnique_pairwise first) (sortUnique_pairwise second) fun a => by
    rw [mem_sortUnique, mem_sortUnique, same]

/-- What sorting puts first is the least. -/
theorem head?_sortAscending [Std.LawfulEqOrd α] {items : List α} {first : α} :
    (sortAscending items).head? = some first ↔
      first ∈ items ∧ ∀ other ∈ items, (compare first other).isLE = true := by
  have mem : ∀ {a}, a ∈ sortAscending items ↔ a ∈ items :=
    (List.mergeSort_perm items _).mem_iff
  have ordered := sortAscending_pairwise items
  cases sorted : sortAscending items with
  | nil =>
      rw [sorted] at mem
      simp [← mem]
  | cons least rest =>
      rw [sorted] at mem ordered
      have le : ∀ other ∈ items, (compare least other).isLE = true := fun other here => by
        rcases List.mem_cons.1 (mem.2 here) with rfl | later
        · have equal : compare other other = .eq := Std.ReflCmp.compare_self
          rw [equal]
          rfl
        · exact List.rel_of_pairwise_cons ordered later
      have here := mem.1 List.mem_cons_self
      rw [List.head?_cons, Option.some.injEq]
      refine ⟨by rintro rfl; exact ⟨here, le⟩, fun ⟨here', le'⟩ => ?_⟩
      exact Std.LawfulEqOrd.eq_of_compare
        (Std.OrientedCmp.isLE_antisymm (le first here') (le' least here))

/-- Sorting puts distinct items in strictly increasing order. -/
theorem sortAscending_increasing [Std.LawfulEqOrd α] {items : List α} (distinct : items.Nodup) :
    (sortAscending items).Pairwise fun a b => compare a b = .lt :=
  mergeSort_increasing_by id (by rwa [List.map_id])

/-- Sorting leaves an increasing list alone. -/
theorem sortUnique_eq_self [Std.LawfulEqOrd α] {items : List α}
    (increasing : items.Pairwise fun a b => compare a b = .lt) : sortUnique items = items :=
  eq_of_increasing (sortUnique_pairwise items) increasing fun _ => mem_sortUnique

end

section Map

variable {α : Type u} {β : Type v} [Ord α] [Ord β] {f : α → β}

theorem map_dropRepeatsAfter {last : α} {items : List α}
    (same : ∀ a ∈ last :: items, ∀ b ∈ last :: items, compare (f a) (f b) = compare a b) :
    (dropRepeatsAfter last items).map f = dropRepeatsAfter (f last) (items.map f) := by
  induction items generalizing last with
  | nil => rfl
  | cons a rest ih =>
      have here := same last List.mem_cons_self a (List.mem_cons_of_mem _ List.mem_cons_self)
      rw [dropRepeatsAfter, List.map_cons, dropRepeatsAfter, here]
      split
      · refine ih fun b memB c memC => same b ?_ c ?_
        · exact List.mem_cons.2 ((List.mem_cons.1 memB).imp_right (List.mem_cons_of_mem _))
        · exact List.mem_cons.2 ((List.mem_cons.1 memC).imp_right (List.mem_cons_of_mem _))
      · rw [List.map_cons, ih fun b memB c memC =>
          same b (List.mem_cons_of_mem _ memB) c (List.mem_cons_of_mem _ memC)]

theorem map_dropRepeats {items : List α}
    (same : ∀ a ∈ items, ∀ b ∈ items, compare (f a) (f b) = compare a b) :
    (dropRepeats items).map f = dropRepeats (items.map f) := by
  cases items with
  | nil => rfl
  | cons a rest => rw [dropRepeats, List.map_cons, List.map_cons, dropRepeats,
      map_dropRepeatsAfter same]

/-- Sorting before a map that compares as its arguments do is sorting after it. -/
theorem map_sortUnique {items : List α}
    (same : ∀ a ∈ items, ∀ b ∈ items, compare (f a) (f b) = compare a b) :
    (sortUnique items).map f = sortUnique (items.map f) := by
  have sorted : (sortAscending items).map f = sortAscending (items.map f) :=
    List.map_mergeSort fun a memA b memB => by rw [same a memA b memB]
  have mem : ∀ {a}, a ∈ sortAscending items ↔ a ∈ items :=
    (List.mergeSort_perm items _).mem_iff
  rw [sortUnique, sortUnique, ← sorted, map_dropRepeats fun a memA b memB =>
    same a (mem.1 memA) b (mem.1 memB)]

end Map

end CallSearch
