/-
# CallSearch.Proofs.Hierarchy — ancestors and descendants by shortest chains

The ancestors recorded for a class are those reached by at least one inheritance step,
each with the length of the shortest chain (`mem_ancestorsOf`), and the descendants of a
class are the classes it is an ancestor of (`mem_descendants`).  Inheritance may be
cyclic, and parents may be missing from the program.
-/
import CallSearch.Hierarchy
import CallSearch.Proofs.Layers
import CallSearch.Proofs.Table

namespace CallSearch.Hierarchy

set_option autoImplicit false

variable {classes : ClassTable}

/-- A class is so many inheritance steps below a proper ancestor, and no fewer. -/
def IsBelow (classes : ClassTable) (n : Nat) (sub sup : String) : Prop :=
  1 ≤ n ∧ IsDistance (parents classes) n sub sup

/-- A class is a proper descendant of another. -/
def Descends (classes : ClassTable) (sub sup : String) : Prop := ∃ n, IsBelow classes n sub sup

/-- Only classes of the program have parents. -/
theorem mem_names_of_parents {name : String} (some : parents classes name ≠ []) :
    name ∈ classes.names := by
  rw [parents] at some
  cases found : classes.get? name with
  | none =>
      rw [found] at some
      exact absurd rfl some
  | some cls => exact Table.mem_keys_of_get? found

theorem IsBelow.mem_names {n : Nat} {sub sup : String} (h : IsBelow classes n sub sup) :
    sub ∈ classes.names := by
  obtain ⟨positive, distance⟩ := h
  obtain ⟨first, near⟩ := distance.exists_at positive
  obtain ⟨start, here, step⟩ := near.exists_last
  obtain rfl := IsDistance.zero_iff.1 here
  exact mem_names_of_parents (List.ne_nil_of_mem step)

/-- The ancestors of a class are listed with their distance: no distance is greater than the number
of classes. -/
theorem mem_ancestorsOf {name ancestor : String} {n : Nat} :
    (ancestor, n) ∈ ancestorsOf classes name ↔ IsBelow classes n name ancestor := by
  have enough : IsDistance (parents classes) n name ancestor → n < classes.size + 1 := by
    intro distance
    have bound : n ≤ classes.names.length :=
      distance.le_length fun _ => mem_names_of_parents
    rw [ClassTable.names, Table.keys, List.length_map] at bound
    exact Nat.lt_succ_of_le bound
  have layer : (ancestor, n) ∈ ancestorsOf classes name ↔ 1 ≤ n ∧ ∃ layer,
      (layers (parents classes) (classes.size + 1) [] [name])[n]? = some layer ∧
        ancestor ∈ layer := by
    rw [ancestorsOf]
    cases layers (parents classes) (classes.size + 1) [] [name] with
    | nil => simp
    | cons first rest =>
        rw [List.zipIdx_cons, List.tail_cons, List.mem_flatMap]
        constructor
        · rintro ⟨⟨found, m⟩, listed, paired⟩
          obtain ⟨other, mem, same⟩ := List.mem_map.1 paired
          cases same
          obtain ⟨le, here⟩ := List.mk_mem_zipIdx_iff_le_and_getElem?_sub.1 listed
          obtain ⟨k, rfl⟩ : ∃ k, m = k + 1 := ⟨m - 1, by omega⟩
          exact ⟨by omega, found, by simpa using here, mem⟩
        · rintro ⟨le, found, here, mem⟩
          obtain ⟨k, rfl⟩ : ∃ k, n = k + 1 := ⟨n - 1, by omega⟩
          refine ⟨(found, k + 1), ?_, List.mem_map.2 ⟨ancestor, mem, rfl⟩⟩
          exact List.mk_mem_zipIdx_iff_le_and_getElem?_sub.2 ⟨by omega, by simpa using here⟩
  rw [layer, mem_layers_iff, IsBelow]
  exact and_congr_right fun _ => and_iff_right_of_imp enough

theorem get?_ancestors {name : String} {ancestors : List (String × Nat)} :
    (ofClasses classes).ancestors.get? name = some ancestors ↔
      name ∈ classes.names ∧ ancestorsOf classes name = ancestors := by
  have distinct : ((classes.names.map fun name => (name, ancestorsOf classes name)).map
      Prod.fst).Nodup := by
    rw [List.map_map]
    exact (List.map_id classes.names).symm ▸ classes.table.nodup_keys
  rw [ofClasses, Table.get?_ofList distinct, List.mem_map]
  constructor
  · rintro ⟨other, mem, same⟩
    cases same
    exact ⟨mem, rfl⟩
  · rintro ⟨mem, rfl⟩
    exact ⟨name, mem, rfl⟩

/-- The ancestors of a class; a name that is none has none. -/
theorem mem_ancestors {name ancestor : String} {n : Nat} :
    (ancestor, n) ∈ ((ofClasses classes).ancestors.get? name).getD [] ↔
      IsBelow classes n name ancestor := by
  cases found : (ofClasses classes).ancestors.get? name with
  | none =>
      refine iff_of_false List.not_mem_nil fun below => ?_
      rw [get?_ancestors.2 ⟨below.mem_names, rfl⟩] at found
      cases found
  | some ancestors =>
      obtain ⟨-, rfl⟩ := get?_ancestors.1 found
      exact mem_ancestorsOf

/-- What is looked up in a list that has one value for it. -/
theorem lookup_eq_some_iff {entries : List (String × Nat)} {name : String}
    (unique : ∀ n m, (name, n) ∈ entries → (name, m) ∈ entries → n = m) {n : Nat} :
    entries.lookup name = some n ↔ (name, n) ∈ entries := by
  induction entries with
  | nil => simp
  | cons entry rest ih =>
      obtain ⟨other, m⟩ := entry
      rw [List.lookup_cons]
      by_cases same : name = other
      · subst same
        simp only [beq_self_eq_true, Option.some.injEq, List.mem_cons, Prod.mk.injEq, true_and]
        refine ⟨fun here => Or.inl here.symm, ?_⟩
        rintro (rfl | mem)
        · rfl
        · exact unique m n List.mem_cons_self (List.mem_cons_of_mem _ mem)
      · simp only [beq_eq_false_iff_ne.2 same, List.mem_cons, Prod.mk.injEq, same, false_and,
          false_or]
        exact ih fun n m mem mem' =>
          unique n m (List.mem_cons_of_mem _ mem) (List.mem_cons_of_mem _ mem')

theorem lookup_ancestorsOf {name ancestor : String} {n : Nat} :
    (ancestorsOf classes name).lookup ancestor = some n ↔ IsBelow classes n name ancestor := by
  rw [lookup_eq_some_iff fun n m h h' =>
    (mem_ancestorsOf.1 h).2.unique (mem_ancestorsOf.1 h').2, mem_ancestorsOf]

/-- The descendants of a class, with their distance. -/
theorem mem_descendants {name sub : String} {n : Nat} :
    (sub, n) ∈ (ofClasses classes).descendants name ↔ IsBelow classes n sub name := by
  rw [descendants, List.mem_filterMap]
  constructor
  · rintro ⟨⟨other, ancestors⟩, listed, found⟩
    obtain ⟨-, rfl⟩ := get?_ancestors.1 (Table.get?_eq_some_iff.2 listed)
    obtain ⟨m, found, same⟩ := Option.map_eq_some_iff.1 found
    cases same
    exact lookup_ancestorsOf.1 found
  · intro below
    refine ⟨(sub, ancestorsOf classes sub),
      Table.get?_eq_some_iff.1 (get?_ancestors.2 ⟨below.mem_names, rfl⟩), ?_⟩
    rw [lookup_ancestorsOf.2 below, Option.map_some]

end CallSearch.Hierarchy
