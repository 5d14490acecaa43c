/-
# CallSearch.Proofs.Dispatch — which declarations are candidates

The candidates of a call on a class are the declarations of the classes that supply it
(`mem_candidates_iff`): the class itself, its descendants and, if it declares nothing of
the shape, its nearest ancestors that do.

What runs on an object is found another way, up its superclasses alone (`RunsIn`).  The
two agree where the class called is one of the superclasses and none of its ancestors
that declare the shape is nearer than the one whose declaration runs.  They come apart
where a class gets the method of an interface from a superclass that does not implement
the interface (`running_not_mem_candidates`).
-/
import CallSearch.Proofs.Dispatch.Table
import CallSearch.Proofs.Sample
import Mathlib.Logic.Relation

namespace CallSearch

set_option autoImplicit false

open Relation

/-- Every method is filed under the class that its signature names. -/
def ClassTable.Owned (classes : ClassTable) : Prop :=
  ∀ name cls, classes.get? name = some cls → ∀ method ∈ cls.methods, method.signature.owner = name

namespace Dispatch

open Hierarchy (IsBelow Descends)

variable (classes : ClassTable) (shape : Signature)

/-- A class whose declarations of a shape are candidates of a call on another. -/
def Supplies (name holder : String) : Prop :=
  holder = name ∨ Descends classes holder name ∨
    ¬Declares classes shape name ∧ ∃ n, IsNearest classes shape name n holder

/-- A class has a superclass. -/
def HasSuper (sub sup : String) : Prop :=
  ∃ cls, classes.get? sub = some cls ∧ cls.superName = some sup

/-- The class whose declarations of a shape run on an object of a class: the first that has some,
going up the superclasses that belong to the program. -/
inductive RunsIn : String → String → Prop
  | own {name : String} : Declares classes shape name → RunsIn name name
  | inherit {name sup holder : String} : ¬Declares classes shape name →
      HasSuper classes name sup → RunsIn sup holder → RunsIn name holder

variable {classes shape} {name sub holder : String} {method : Signature}

/-! ## Candidates -/

theorem IsDeclared.owner_eq (owned : classes.Owned)
    (declared : IsDeclared classes shape name method) : method.owner = name := by
  obtain ⟨cls, found, own, listed, rfl⟩ := declared.listed
  exact owned name cls found own listed

/-- The candidates of a call are the declarations of the classes that supply it, if the class
called has or inherits any. -/
theorem mem_candidates_iff : method ∈ (ofClasses classes).candidates name shape ↔
    (ofClasses classes).candidates name shape ≠ [] ∧
      ∃ holder, Supplies classes shape name holder ∧ IsDeclared classes shape holder method := by
  rw [candidates_ne_nil_iff, mem_candidates_iff_offers]
  constructor
  · intro offers
    refine ⟨offers.exists_sees, ?_⟩
    cases offers with
    | seen sees =>
        cases sees with
        | own here => exact ⟨name, Or.inl rfl, here⟩
        | inherited silent nearest here => exact ⟨_, Or.inr (Or.inr ⟨silent, _, nearest⟩), here⟩
    | below _ apart chain here =>
        exact ⟨_, Or.inr (Or.inl (Hierarchy.descends_iff.2 ⟨apart.symm, _, chain⟩)), here⟩
  · rintro ⟨⟨other, sees⟩, holder, rfl | below | ⟨silent, n, nearest⟩, here⟩
    · exact .seen (.own here)
    · obtain ⟨apart, n, chain⟩ := Hierarchy.descends_iff.1 below
      exact .below sees apart.symm chain here
    · exact .seen (.inherited silent nearest here)

/-! ## What runs -/

theorem RunsIn.declares (runs : RunsIn classes shape sub holder) :
    Declares classes shape holder := by
  induction runs with
  | own declares => exact declares
  | inherit _ _ _ ih => exact ih

theorem RunsIn.reaches (runs : RunsIn classes shape sub holder) :
    ReflTransGen (HasSuper classes) sub holder := by
  induction runs with
  | own _ => exact .refl
  | inherit _ super _ ih => exact .head super ih

/-- Going up the superclasses from a class leads to the class itself or to proper ancestors. -/
theorem eq_or_descends (path : ReflTransGen (HasSuper classes) sub name) :
    sub = name ∨ Descends classes sub name := by
  have steps : ∃ n, Steps (Hierarchy.parents classes) n sub name := by
    induction path with
    | refl => exact ⟨0, .zero sub⟩
    | @tail middle sup _ super ih =>
        obtain ⟨n, before⟩ := ih
        obtain ⟨cls, found, isSuper⟩ := super
        refine ⟨n + 1, .succ before ?_⟩
        rw [Hierarchy.parents, found, Option.map_some, Option.getD_some, Class.parents, isSuper]
        simp
  obtain ⟨n, steps⟩ := steps
  obtain ⟨m, distance⟩ := steps.exists_isDistance
  cases m with
  | zero => exact Or.inl (IsDistance.zero_iff.1 distance).symm
  | succ m => exact Or.inr ⟨m + 1, Nat.succ_pos m, distance⟩

/-- Whatever runs is found at or before a superclass, or runs on that superclass as well. -/
theorem RunsIn.split (runs : RunsIn classes shape sub holder)
    (path : ReflTransGen (HasSuper classes) sub name) :
    ReflTransGen (HasSuper classes) holder name ∨ RunsIn classes shape name holder := by
  induction path using ReflTransGen.head_induction_on with
  | refl => exact Or.inr runs
  | @head sub next super path ih =>
      cases runs with
      | own _ => exact Or.inl (.head super path)
      | inherit _ super' runs =>
          obtain ⟨cls, found, isSuper⟩ := super
          obtain ⟨cls', found', isSuper'⟩ := super'
          cases found.symm.trans found'
          cases isSuper.symm.trans isSuper'
          exact ih runs

/-- The declarations that run on an object of a class are candidates of a call on another exactly
where the class that has them supplies the class called.  Where the class called is one of the
superclasses of the object it does so, unless another of its ancestors that declare the shape is
nearer. -/
theorem running_candidates (known : (ofClasses classes).candidates name shape ≠ [])
    (runs : RunsIn classes shape sub holder) :
    (Supplies classes shape name holder → ∀ method, IsDeclared classes shape holder method →
      method ∈ (ofClasses classes).candidates name shape) ∧
    (classes.Owned → (∀ method, IsDeclared classes shape holder method →
      method ∈ (ofClasses classes).candidates name shape) → Supplies classes shape name holder) ∧
    (ReflTransGen (HasSuper classes) sub name →
      (∀ n m other, IsBelow classes n name holder → IsBelow classes m name other →
        Declares classes shape other → n ≤ m) →
      ∀ method, IsDeclared classes shape holder method →
        method ∈ (ofClasses classes).candidates name shape) := by
  have supplied (supplies : Supplies classes shape name holder) (method : Signature)
      (here : IsDeclared classes shape holder method) :
      method ∈ (ofClasses classes).candidates name shape :=
    mem_candidates_iff.2 ⟨known, holder, supplies, here⟩
  refine ⟨supplied, fun owned all => ?_, fun path nearest => supplied ?_⟩
  · obtain ⟨method, here⟩ := runs.declares
    obtain ⟨-, other, supplies, there⟩ := mem_candidates_iff.1 (all method here)
    rwa [← here.owner_eq owned, there.owner_eq owned]
  · rcases runs.split path with up | runs
    · exact (eq_or_descends up).imp_right Or.inl
    · cases id runs with
      | own _ => exact Or.inl rfl
      | inherit silent _ _ =>
          rcases eq_or_descends runs.reaches with rfl | ⟨n, below⟩
          · exact absurd runs.declares silent
          · exact Or.inr (Or.inr ⟨silent, n, isNearest_iff.2 ⟨below, runs.declares,
              fun m other below' declares => nearest n m other below below' declares⟩⟩)

/-! ## A method of an interface that a superclass brings -/

def sampleDeclaration (owner : String) : Signature := plainMethod owner "m"

def sampleType (name : String) (superName : Option String) (interfaces : List String)
    (declares : Bool) : Class :=
  { plainClass name (if declares then [⟨sampleDeclaration name, ∅, none⟩] else []) with
    superName, interfaces }

/-- `D` implements the interface `I` by the method of its superclass `B`, which does not. -/
def sampleInterface : ClassTable :=
  .ofList [sampleType "B" none [] true, sampleType "D" (some "B") ["I"] false,
    sampleType "I" none [] true]

/-- A call on the interface may land on an object of the class, but what runs there is no
candidate. -/
theorem running_not_mem_candidates :
    (ofClasses sampleInterface).candidates "I" (sampleDeclaration "I") = [sampleDeclaration "I"] ∧
      Descends sampleInterface "D" "I" ∧ RunsIn sampleInterface (sampleDeclaration "I") "D" "B" ∧
      IsDeclared sampleInterface (sampleDeclaration "I") "B" (sampleDeclaration "B") ∧
      sampleDeclaration "B" ∉
        (ofClasses sampleInterface).candidates "I" (sampleDeclaration "I") := by
  have candidates : (ofClasses sampleInterface).candidates "I" (sampleDeclaration "I") =
      [sampleDeclaration "I"] := by
    rw [candidates_eq_offered]
    decide +kernel
  have below : ("D", 1) ∈ (Hierarchy.ofClasses sampleInterface).descendants "I" := by
    decide +kernel
  refine ⟨candidates, ⟨1, Hierarchy.mem_descendants.1 below⟩, ?_, by decide +kernel, ?_⟩
  · exact .inherit (by decide +kernel) ⟨sampleType "D" (some "B") ["I"] false, rfl, rfl⟩
      (.own (by decide +kernel))
  · rw [candidates]
    decide

/-- A class without the method, and its superclass that has it. -/
def sampleSuper : ClassTable :=
  .ofList [sampleType "A" none [] true, sampleType "M" (some "A") [] false]

/-- What a class inherits from its superclass is a candidate of a call on the class. -/
theorem running_candidates_sample :
    (ofClasses sampleSuper).candidates "M" (sampleDeclaration "M") ≠ [] ∧
      RunsIn sampleSuper (sampleDeclaration "M") "M" "A" ∧
      sampleDeclaration "A" ∈
        (ofClasses sampleSuper).candidates "M" (sampleDeclaration "M") := by
  have known : (ofClasses sampleSuper).candidates "M" (sampleDeclaration "M") ≠ [] := by
    rw [candidates_eq_offered]
    decide +kernel
  have runs : RunsIn sampleSuper (sampleDeclaration "M") "M" "A" :=
    .inherit (by decide +kernel) ⟨sampleType "M" (some "A") [] false, rfl, rfl⟩
      (.own (by decide +kernel))
  obtain ⟨-, -, inherited⟩ := running_candidates known runs
  refine ⟨known, runs, inherited .refl (fun n m other below below' _ => ?_) _ (by decide +kernel)⟩
  have distance : (Hierarchy.ancestorsOf sampleSuper "M").lookup "A" = some 1 := by
    decide +kernel
  cases (Hierarchy.lookup_ancestorsOf.2 below).symm.trans distance
  exact below'.1

end Dispatch

end CallSearch
