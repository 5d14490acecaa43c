/-
# CallSearch.Proofs.Hierarchy.Distance — a distance is the length of a shortest chain

What looking up a distance answers, without the search that recorded it.  An inheritance
step goes from a class of the program to its superclass or to one of its interfaces
(`Extends`), and a chain makes a number of steps one after another (`Chain`).

* `distance?_exact`: different names are as far apart as a shortest chain between them is
  long, and there is no distance where no chain leads;
* `IsBelow.trans`: the distance along two stretches is at least the distance at once.

Inheritance may be cyclic, and parents may be missing from the program: a chain may end
at a name that is no class, but it does not go on from there.
-/
import CallSearch.Proofs.Hierarchy
import Mathlib.Order.Bounds.Basic

namespace CallSearch.Hierarchy

set_option autoImplicit false

section Chains

variable (classes : ClassTable)

/-- A class of the program names another as its superclass or as one of its interfaces. -/
def Extends (sub sup : String) : Prop :=
  ∃ cls, classes.get? sub = some cls ∧ (cls.superName = some sup ∨ sup ∈ cls.interfaces)

/-- A number of inheritance steps, one after another, leads from one name up to another. -/
inductive Chain : Nat → String → String → Prop
  | here (name : String) : Chain 0 name name
  | step {n : Nat} {sub middle sup : String} : Extends classes sub middle →
      Chain n middle sup → Chain (n + 1) sub sup

end Chains

variable {classes : ClassTable} {sub middle sup : String} {m n : Nat}

theorem mem_parents_iff : sup ∈ parents classes sub ↔ Extends classes sub sup := by
  rw [parents, Extends]
  cases classes.get? sub with
  | none => simp
  | some cls => simp [Class.parents]

theorem chain_iff_steps : Chain classes n sub sup ↔ Steps (parents classes) n sub sup := by
  constructor
  · intro chain
    induction chain with
    | here name => exact .zero name
    | step first _ ih => exact steps_succ_iff.2 ⟨_, mem_parents_iff.2 first, ih⟩
  · intro steps
    induction n generalizing sub with
    | zero =>
        obtain rfl := steps_zero.1 steps
        exact .here sup
    | succ n ih =>
        obtain ⟨next, first, rest⟩ := steps_succ_iff.1 steps
        exact .step (mem_parents_iff.1 first) (ih rest)

/-- The least length of a chain is the distance in the graph of direct ancestors. -/
theorem isLeast_chain_iff :
    IsLeast {n | Chain classes n sub sup} n ↔ IsDistance (parents classes) n sub sup := by
  have lengths : {n | Chain classes n sub sup} = {n | Steps (parents classes) n sub sup} := by
    ext n
    exact chain_iff_steps
  rw [lengths]
  exact Iff.rfl

/-- A shortest chain makes a step exactly if it leads to another name. -/
theorem isBelow_iff : IsBelow classes n sub sup ↔
    sup ≠ sub ∧ IsDistance (parents classes) n sub sup := by
  rw [IsBelow]
  refine and_congr_left fun distance => ?_
  constructor
  · rintro positive rfl
    have none : n ≤ 0 := distance.2 0 (.zero sup)
    omega
  · intro apart
    by_contra less
    obtain rfl : n = 0 := by omega
    exact apart (IsDistance.zero_iff.1 distance)

/-- A chain to another name is no shorter than the distance. -/
theorem exists_isBelow_of_chain (apart : sup ≠ sub) (chain : Chain classes n sub sup) :
    ∃ k ≤ n, IsBelow classes k sub sup := by
  obtain ⟨k, distance⟩ := (chain_iff_steps.1 chain).exists_isDistance
  exact ⟨k, distance.2 n (chain_iff_steps.1 chain), isBelow_iff.2 ⟨apart, distance⟩⟩

/-- A proper descendant is another class from which a chain leads up. -/
theorem descends_iff : Descends classes sub sup ↔ sup ≠ sub ∧ ∃ n, Chain classes n sub sup := by
  constructor
  · rintro ⟨n, below⟩
    exact ⟨(isBelow_iff.1 below).1, n, chain_iff_steps.2 below.2.1⟩
  · rintro ⟨apart, n, chain⟩
    obtain ⟨k, -, below⟩ := exists_isBelow_of_chain apart chain
    exact ⟨k, below⟩

theorem distance?_eq_some_iff :
    (ofClasses classes).distance? sup sub = some n ↔ IsBelow classes n sub sup := by
  rw [distance?]
  constructor
  · intro near
    obtain ⟨ancestors, found, near⟩ := Option.bind_eq_some_iff.1 near
    obtain ⟨-, rfl⟩ := get?_ancestors.1 found
    exact lookup_ancestorsOf.1 near
  · intro below
    have found := get?_ancestors.2 ⟨below.mem_names, rfl⟩
    exact Option.bind_eq_some_iff.2 ⟨_, found, lookup_ancestorsOf.2 below⟩

/-- Going up in two stretches leads at least as far as going up at once, or back to the start. -/
theorem IsBelow.trans (first : IsBelow classes m sub middle) (second : IsBelow classes n middle sup)
    (apart : sup ≠ sub) : ∃ k ≤ m + n, IsBelow classes k sub sup := by
  have steps := first.2.1.trans second.2.1
  exact exists_isBelow_of_chain apart (chain_iff_steps.2 steps)

/-- A name that is a proper ancestor is named as a superclass or as an interface. -/
theorem IsBelow.exists_extends (below : IsBelow classes n sub sup) :
    ∃ other, Extends classes other sup := by
  obtain ⟨k, rfl⟩ : ∃ k, n = k + 1 := ⟨n - 1, by have := below.1; omega⟩
  obtain ⟨other, -, last⟩ := below.2.exists_last
  exact ⟨other, mem_parents_iff.1 last⟩

/-- The distance of a class from another name is the least length of a chain of inheritance steps
that leads there.  There is none from a class to itself, from a name that is no class of the
program, and where no chain leads. -/
theorem distance?_exact (classes : ClassTable) (sup sub : String) :
    (∀ n, (ofClasses classes).distance? sup sub = some n ↔
      sub ∈ classes.names ∧ sup ≠ sub ∧ IsLeast {m | Chain classes m sub sup} n) ∧
    ((ofClasses classes).distance? sup sub = none ↔
      ¬(sub ∈ classes.names ∧ sup ≠ sub ∧ ∃ n, Chain classes n sub sup)) := by
  constructor
  · intro n
    rw [distance?_eq_some_iff, isLeast_chain_iff, ← isBelow_iff]
    exact (and_iff_right_of_imp IsBelow.mem_names).symm
  · rw [Option.eq_none_iff_forall_ne_some, not_iff_not.symm, not_not, not_forall]
    constructor
    · rintro ⟨n, near⟩
      have below := distance?_eq_some_iff.1 (not_not.1 near)
      exact ⟨below.mem_names, (isBelow_iff.1 below).1, n, chain_iff_steps.2 below.2.1⟩
    · rintro ⟨-, apart, n, chain⟩
      obtain ⟨k, -, below⟩ := exists_isBelow_of_chain apart chain
      exact ⟨k, not_not.2 (distance?_eq_some_iff.2 below)⟩

/-- Three classes that inherit in a ring; the last has an interface that is no class here. -/
def sampleRing : ClassTable :=
  .ofList [⟨"A", some "B", [], ∅, []⟩, ⟨"B", some "C", ["C"], ∅, []⟩, ⟨"C", some "A", ["I"], ∅, []⟩]

example : (ofClasses sampleRing).distance? "I" "A" = some 3 ∧
    (ofClasses sampleRing).distance? "A" "A" = none ∧
    (ofClasses sampleRing).distance? "A" "I" = none := by decide +kernel

end CallSearch.Hierarchy
