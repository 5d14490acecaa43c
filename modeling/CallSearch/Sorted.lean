/-
# CallSearch.Sorted — sorted lists without repetitions

Every set the engine reports is written in increasing order, so a set is kept as
the list that will be written.  `sortUnique` turns any list into that form, and
`SortedSet` carries the proof that the form was reached.

* `mem_sortUnique`: sorting and dropping repetitions keeps the members;
* `sortUnique_pairwise`: the result is strictly increasing.
-/

namespace CallSearch

set_option autoImplicit false

universe u

section

variable {α : Type u} [Ord α]

/-- What follows `last`, with every run of elements equal to its predecessor cut
to its first element. -/
def dropRepeatsAfter (last : α) : List α → List α
  | [] => []
  | a :: rest =>
      if compare last a = .eq then dropRepeatsAfter last rest
      else a :: dropRepeatsAfter a rest

/-- Keep the first element of every run of equal neighbours. -/
def dropRepeats : List α → List α
  | [] => []
  | a :: rest => a :: dropRepeatsAfter a rest

/-- The stable increasing rearrangement of a list. -/
def sortAscending (items : List α) : List α :=
  items.mergeSort fun a b => (compare a b).isLE

/-- The members of a list, in increasing order and each once. -/
def sortUnique (items : List α) : List α :=
  dropRepeats (sortAscending items)

end

section Laws

variable {α : Type u} [Ord α]

theorem mem_of_mem_dropRepeatsAfter {x last : α} {items : List α}
    (h : x ∈ dropRepeatsAfter last items) : x ∈ items := by
  induction items generalizing last with
  | nil => exact h
  | cons a rest ih =>
    rw [dropRepeatsAfter] at h
    split at h
    · exact List.mem_cons_of_mem _ (ih h)
    · cases h with
      | head => exact List.mem_cons_self
      | tail _ h => exact List.mem_cons_of_mem _ (ih h)

theorem mem_of_mem_dropRepeats {x : α} {items : List α} (h : x ∈ dropRepeats items) :
    x ∈ items := by
  cases items with
  | nil => exact h
  | cons a rest =>
    cases h with
    | head => exact List.mem_cons_self
    | tail _ h => exact List.mem_cons_of_mem _ (mem_of_mem_dropRepeatsAfter h)

variable [Std.LawfulEqOrd α]

theorem mem_dropRepeatsAfter {x : α} (last : α) {items : List α} (h : x ∈ items) :
    x = last ∨ x ∈ dropRepeatsAfter last items := by
  induction items generalizing last with
  | nil => exact absurd h List.not_mem_nil
  | cons a rest ih =>
    rw [dropRepeatsAfter]
    by_cases same : compare last a = .eq
    · rw [if_pos same]
      cases h with
      | head => exact .inl (Std.LawfulEqOrd.eq_of_compare same).symm
      | tail _ h => exact ih last h
    · rw [if_neg same]
      cases h with
      | head => exact .inr List.mem_cons_self
      | tail _ h =>
        rcases ih a h with rfl | h
        · exact .inr List.mem_cons_self
        · exact .inr (List.mem_cons_of_mem _ h)

@[simp]
theorem mem_dropRepeats {x : α} {items : List α} : x ∈ dropRepeats items ↔ x ∈ items := by
  refine ⟨mem_of_mem_dropRepeats, fun h => ?_⟩
  cases items with
  | nil => exact h
  | cons a rest =>
    cases h with
    | head => exact List.mem_cons_self
    | tail _ h =>
      rcases mem_dropRepeatsAfter a h with rfl | h
      · exact List.mem_cons_self
      · exact List.mem_cons_of_mem _ h

/-- Sorting and dropping repetitions keeps the members. -/
@[simp]
theorem mem_sortUnique {x : α} {items : List α} : x ∈ sortUnique items ↔ x ∈ items := by
  rw [sortUnique, mem_dropRepeats, sortAscending, List.Perm.mem_iff (List.mergeSort_perm _ _)]

end Laws

section Increasing

variable {α : Type u} [Ord α] [Std.TransOrd α]

theorem sortAscending_pairwise (items : List α) :
    (sortAscending items).Pairwise fun a b => (compare a b).isLE = true :=
  List.pairwise_mergeSort (fun _ _ _ => Std.TransCmp.isLE_trans)
    (fun a b => by
      have swapped : compare b a = (compare a b).swap := Std.OrientedCmp.eq_swap
      rw [swapped]
      cases compare a b <;> rfl)
    items

theorem dropRepeatsAfter_pairwise {last : α} {items : List α}
    (ordered : (last :: items).Pairwise fun a b => (compare a b).isLE = true) :
    (last :: dropRepeatsAfter last items).Pairwise fun a b => compare a b = .lt := by
  induction items generalizing last with
  | nil => exact List.pairwise_singleton _ _
  | cons a rest ih =>
    obtain ⟨above, tail⟩ := List.pairwise_cons.1 ordered
    rw [dropRepeatsAfter]
    by_cases same : compare last a = .eq
    · rw [if_pos same]
      refine ih (List.pairwise_cons.2 ⟨fun b hb => above b (List.mem_cons_of_mem _ hb), ?_⟩)
      exact (List.pairwise_cons.1 tail).2
    · rw [if_neg same]
      have below : compare last a = .lt := by
        have le := above a List.mem_cons_self
        revert le same
        cases compare last a <;> simp
      refine List.pairwise_cons.2 ⟨fun b hb => ?_, ih tail⟩
      cases hb with
      | head => exact below
      | tail _ hb =>
        have le := (List.pairwise_cons.1 tail).1 b (mem_of_mem_dropRepeatsAfter hb)
        exact Std.TransCmp.lt_of_lt_of_isLE below le

/-- The result of sorting and dropping repetitions is strictly increasing. -/
theorem sortUnique_pairwise (items : List α) :
    (sortUnique items).Pairwise fun a b => compare a b = .lt := by
  have ordered := sortAscending_pairwise items
  rw [sortUnique]
  cases h : sortAscending items with
  | nil => exact List.Pairwise.nil
  | cons a rest => exact dropRepeatsAfter_pairwise (h ▸ ordered)

end Increasing

/-- A finite set, held as the strictly increasing list of its members. -/
structure SortedSet (α : Type u) [Ord α] where
  toList : List α
  increasing : toList.Pairwise fun a b => compare a b = .lt

namespace SortedSet

variable {α : Type u} [Ord α]

instance : EmptyCollection (SortedSet α) := ⟨⟨[], List.Pairwise.nil⟩⟩

instance : Inhabited (SortedSet α) := ⟨∅⟩

instance : Membership α (SortedSet α) := ⟨fun s a => a ∈ s.toList⟩

@[ext]
theorem ext {s t : SortedSet α} (h : s.toList = t.toList) : s = t := by
  cases s
  cases t
  cases h
  rfl

section

variable [Std.TransOrd α]

/-- The set of the members of a list. -/
def ofList (items : List α) : SortedSet α := ⟨sortUnique items, sortUnique_pairwise items⟩

/-- A set with one more member. -/
def insert (s : SortedSet α) (item : α) : SortedSet α := ofList (item :: s.toList)

/-- The set of what belongs to either set. -/
def union (s t : SortedSet α) : SortedSet α := ofList (s.toList ++ t.toList)

instance : Union (SortedSet α) := ⟨union⟩

end

/-- Whether an element is a member. -/
def contains [BEq α] (s : SortedSet α) (item : α) : Bool := s.toList.contains item

/-- Whether every member of `s` is a member of `t`. -/
def subset [BEq α] (s t : SortedSet α) : Bool := s.toList.all t.toList.contains

section

variable [Std.TransOrd α] [Std.LawfulEqOrd α]

@[simp]
theorem mem_ofList {x : α} {items : List α} : x ∈ ofList items ↔ x ∈ items :=
  mem_sortUnique

@[simp]
theorem mem_insert {x item : α} {s : SortedSet α} : x ∈ s.insert item ↔ x = item ∨ x ∈ s :=
  mem_ofList.trans List.mem_cons

@[simp]
theorem mem_union {x : α} {s t : SortedSet α} : x ∈ s ∪ t ↔ x ∈ s ∨ x ∈ t :=
  mem_ofList.trans List.mem_append

end

end SortedSet

end CallSearch
