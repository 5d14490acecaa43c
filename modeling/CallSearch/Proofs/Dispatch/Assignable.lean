/-
# CallSearch.Proofs.Dispatch.Assignable — assignability is transitive

Why a value of one type may stand for another: the types are the same, the value is
`null`, or the types are arrays of one dimension, perhaps none, and the element of the
one inherits from that of the other (`IsAssignable`).

Where the program uses the names of classes for classes alone (`WellNamed`), these
reasons can be chained and the distances obey the triangle inequality
(`IsAssignable.trans`): nothing inherits from `null` or from a primitive type, so `null`
stands for whatever is above a type that it stands for.  An argument of a narrower type
therefore fits wherever the wider one does (`isA_transitive`).
-/
import CallSearch.Proofs.Dispatch.Resolve
import CallSearch.Proofs.Hierarchy.Distance

namespace CallSearch

set_option autoImplicit false

namespace Hierarchy

/-! ## Names of classes -/

/-- A name that is the name of no other type. -/
structure IsClassName (name : String) : Prop where
  notNull : name ≠ "null"
  notVoid : name ≠ voidType
  notPrimitive : isPrimitive name = false
  notArray : ¬['[', ']'] <:+ name.toList

instance (name : String) : Decidable (IsClassName name) :=
  decidable_of_iff (name ≠ "null" ∧ name ≠ voidType ∧ isPrimitive name = false ∧
      ¬['[', ']'] <:+ name.toList)
    ⟨fun ⟨notNull, notVoid, notPrimitive, notArray⟩ => ⟨notNull, notVoid, notPrimitive, notArray⟩,
      fun ⟨notNull, notVoid, notPrimitive, notArray⟩ => ⟨notNull, notVoid, notPrimitive, notArray⟩⟩

/-- All classes of a program, their superclasses and their interfaces have names of classes. -/
def WellNamed (classes : ClassTable) : Prop :=
  ∀ cls ∈ classes.toList, IsClassName cls.name ∧ ∀ parent ∈ cls.parents, IsClassName parent

instance (classes : ClassTable) : Decidable (WellNamed classes) :=
  inferInstanceAs (Decidable (∀ cls ∈ classes.toList, _))

variable {classes : ClassTable} {a b c sub sup : String} {m n : Nat}

theorem mem_toList_of_get? {name : String} {cls : Class} (found : classes.get? name = some cls) :
    cls ∈ classes.toList :=
  List.mem_map.2 ⟨(name, cls), Table.get?_eq_some_iff.1 found, rfl⟩

theorem WellNamed.isClassName_of_extends (named : WellNamed classes)
    (step : Extends classes sub sup) : IsClassName sup := by
  have parent := mem_parents_iff.2 step
  obtain ⟨cls, found, -⟩ := step
  rw [parents, found] at parent
  exact (named cls (mem_toList_of_get? found)).2 sup parent

theorem WellNamed.isClassName_of_isBelow (named : WellNamed classes)
    (below : IsBelow classes n sub sup) : IsClassName sup := by
  obtain ⟨other, step⟩ := below.exists_extends
  exact named.isClassName_of_extends step

/-! ## Reasons to be assignable -/

/-- A value of one type may stand for another, and so far apart are the types. -/
inductive IsAssignable (classes : ClassTable) : Nat → String → String → Prop
  | same (type : String) : IsAssignable classes 0 type type
  | null {sup : String} : sup ≠ voidType → isPrimitive sup = false →
      IsAssignable classes 0 "null" sup
  | below {n : Nat} {sub sup : String} : sub ≠ "null" → sub ≠ voidType → sup ≠ voidType →
      (element sub).2 = (element sup).2 → IsBelow classes n (element sub).1 (element sup).1 →
      IsAssignable classes n sub sup

theorem isA_eq_some_iff :
    (ofClasses classes).isA sub sup = some n ↔ IsAssignable classes n sub sup := by
  constructor
  · intro near
    by_cases same : sub = sup
    · subst same
      cases (isA_self _ sub).symm.trans near
      exact .same sub
    by_cases noValue : sub = voidType ∨ sup = voidType
    · cases (isA_of_void _ same noValue).symm.trans near
    obtain ⟨subValue, supValue⟩ := not_or.1 noValue
    by_cases isNull : sub = "null"
    · subst isNull
      rw [isA_null _ same supValue] at near
      split at near
      · cases near
      · next notPrimitive =>
        cases near
        exact .null supValue (Bool.eq_false_of_not_eq_true notPrimitive)
    · rw [isA_of_value _ same isNull subValue supValue] at near
      split at near
      · next dimension =>
        exact .below isNull subValue supValue dimension (distance?_eq_some_iff.1 near)
      · cases near
  · intro reason
    cases reason with
    | same => exact isA_self _ sub
    | null value notPrimitive =>
        by_cases same : "null" = sup
        · exact same ▸ isA_self _ "null"
        · rw [isA_null _ same value, notPrimitive]
          rfl
    | below notNull subValue supValue dimension below =>
        have apart : sub ≠ sup := by
          rintro rfl
          exact (isBelow_iff.1 below).1 rfl
        rw [isA_of_value _ apart notNull subValue supValue, if_pos dimension]
        exact distance?_eq_some_iff.2 below

/-- Primitive types are no arrays. -/
theorem element_of_isPrimitive (primitive : isPrimitive sup = true) : element sup = (sup, 0) := by
  have all : ∀ type ∈ primitiveTypes, element type = (type, 0) := by decide +kernel
  exact all sup (List.contains_iff_mem.1 primitive)

/-- What a type inherits from, element by element, is no primitive type. -/
theorem WellNamed.not_isPrimitive (named : WellNamed classes)
    (below : IsBelow classes n (element sub).1 (element sup).1) : isPrimitive sup = false := by
  rw [← Bool.not_eq_true]
  intro primitive
  have proper := (named.isClassName_of_isBelow below).notPrimitive
  rw [element_of_isPrimitive primitive, primitive] at proper
  cases proper

/-- Reasons to be assignable can be chained, and no detour is shorter. -/
theorem IsAssignable.trans (named : WellNamed classes) (first : IsAssignable classes m a b)
    (second : IsAssignable classes n b c) : ∃ k ≤ m + n, IsAssignable classes k a c := by
  cases first with
  | same => exact ⟨n, by omega, second⟩
  | null notVoid notPrimitive =>
      cases second with
      | same => exact ⟨0, by omega, .null notVoid notPrimitive⟩
      | null notVoid notPrimitive => exact ⟨0, by omega, .null notVoid notPrimitive⟩
      | below _ _ notVoid _ below =>
          exact ⟨0, by omega, .null notVoid (named.not_isPrimitive below)⟩
  | below proper valueA valueB dimension below =>
      cases second with
      | same => exact ⟨m, by omega, .below proper valueA valueB dimension below⟩
      | null _ _ =>
          -- `null` is its own element, and nothing inherits from it.
          exact absurd rfl (named.isClassName_of_isBelow below).notNull
      | below _ _ valueC dimension' below' =>
          by_cases back : (element c).1 = (element a).1
          · have same : a = c := element_injective (Prod.ext back.symm (dimension.trans dimension'))
            subst same
            exact ⟨0, by omega, .same a⟩
          · obtain ⟨k, le, whole⟩ := below.trans below' back
            exact ⟨k, le, .below proper valueA valueC (dimension.trans dimension') whole⟩

theorem isA_triangle (named : WellNamed classes) (first : (ofClasses classes).isA a b = some m)
    (second : (ofClasses classes).isA b c = some n) :
    ∃ k, (ofClasses classes).isA a c = some k ∧ k ≤ m + n := by
  obtain ⟨k, le, reason⟩ := (isA_eq_some_iff.1 first).trans named (isA_eq_some_iff.1 second)
  exact ⟨k, isA_eq_some_iff.2 reason, le⟩

end Hierarchy

namespace Dispatch

open Hierarchy (WellNamed)

variable {classes : ClassTable}

/-! ## Narrower arguments -/

/-- Types that may stand for types of arguments that fit, fit as well. -/
theorem arguments_trans (named : WellNamed classes) {args middle params : List String}
    (first : List.Forall₂ (fun arg param => ((Hierarchy.ofClasses classes).isA arg param).isSome = true)
      args middle)
    (second : List.Forall₂
      (fun arg param => ((Hierarchy.ofClasses classes).isA arg param).isSome = true) middle params) :
    List.Forall₂ (fun arg param => ((Hierarchy.ofClasses classes).isA arg param).isSome = true)
      args params := by
  induction first generalizing params with
  | nil => exact second
  | cons near _ ih =>
      cases second with
      | cons near' rest =>
          obtain ⟨m, here⟩ := Option.isSome_iff_exists.1 near
          obtain ⟨n, there⟩ := Option.isSome_iff_exists.1 near'
          obtain ⟨k, whole, -⟩ := Hierarchy.isA_triangle named here there
          exact .cons (Option.isSome_iff_exists.2 ⟨k, whole⟩) (ih rest)

/-- Assignability is transitive, and no detour is shorter.  So a call goes on resolving to what it
resolves to when its arguments get types that may stand for the types they had. -/
theorem isA_transitive (named : WellNamed classes) :
    (∀ a b c i j, (Hierarchy.ofClasses classes).isA a b = some i →
      (Hierarchy.ofClasses classes).isA b c = some j →
      ∃ k, (Hierarchy.ofClasses classes).isA a c = some k ∧ k ≤ i + j) ∧
    ∀ (call : Invocation) (args : List String),
      List.Forall₂ (fun arg old => ((Hierarchy.ofClasses classes).isA arg old).isSome = true)
        args call.callee.params →
      ∀ method ∈ (ofClasses classes).resolve call,
        method ∈ (ofClasses classes).resolve (call.retarget { call.callee with params := args }) := by
  refine ⟨fun a b c i j => Hierarchy.isA_triangle named, fun call args narrower method mem => ?_⟩
  obtain ⟨offers, fits⟩ := mem_resolve_iff.1 mem
  have same : (ofClasses classes).candidates call.callee.owner call.callee =
      (ofClasses classes).candidates call.callee.owner { call.callee with params := args } :=
    candidates_congr rfl narrower.length_eq.symm
  refine mem_resolve_iff.2 ⟨?_, fits.stays, ?_, fits.result⟩
  · have candidate := mem_candidates_iff_offers.2 offers
    rw [same] at candidate
    exact mem_candidates_iff_offers.1 candidate
  · exact arguments_trans named narrower fits.arguments

/-- A class below an interface in two steps, and a method that takes arrays of the interface. -/
def sampleShapes : ClassTable :=
  .ofList [⟨"Circle", some "Round", [], ∅, []⟩, ⟨"Round", none, ["Shape"], ∅, []⟩,
    ⟨"Shape", none, [], ∅, [⟨⟨"Shape", voidType, "draw", ["Shape[]"]⟩, ∅, none⟩]⟩]

/-- The call that draws an array of some type. -/
def sampleDraw (type : String) : Invocation :=
  ⟨.static, ⟨"Shape", voidType, "draw", [type]⟩, [], none⟩

/-- Arrays of circles are as far from arrays of shapes as both steps together, and can be drawn. -/
theorem isA_transitive_sampleShapes :
    WellNamed sampleShapes ∧
      (Hierarchy.ofClasses sampleShapes).isA "Circle[]" "Round[]" = some 1 ∧
      (Hierarchy.ofClasses sampleShapes).isA "Round[]" "Shape[]" = some 1 ∧
      (∃ k, (Hierarchy.ofClasses sampleShapes).isA "Circle[]" "Shape[]" = some k ∧ k ≤ 1 + 1) ∧
      ⟨"Shape", voidType, "draw", ["Shape[]"]⟩ ∈
        (ofClasses sampleShapes).resolve (sampleDraw "Circle[]") := by
  have named : WellNamed sampleShapes := by decide +kernel
  have circle : (Hierarchy.ofClasses sampleShapes).isA "Circle[]" "Round[]" = some 1 := by
    decide +kernel
  have round : (Hierarchy.ofClasses sampleShapes).isA "Round[]" "Shape[]" = some 1 := by
    decide +kernel
  have drawn : ⟨"Shape", voidType, "draw", ["Shape[]"]⟩ ∈
      (ofClasses sampleShapes).resolve (sampleDraw "Round[]") := by
    have listed : ⟨"Shape", voidType, "draw", ["Shape[]"]⟩ ∈
        visible sampleShapes "Shape" (sampleDraw "Round[]").callee := by decide +kernel
    refine mem_resolve_iff.2 ⟨.seen (mem_visible.1 listed), fun _ => rfl, ?_, ?_⟩
    · exact .cons (Option.isSome_iff_exists.2 ⟨1, round⟩) .nil
    · exact absurd rfl
  obtain ⟨triangle, narrow⟩ := isA_transitive named
  refine ⟨named, circle, round, triangle _ _ _ _ _ circle round, ?_⟩
  exact narrow (sampleDraw "Round[]") ["Circle[]"]
    (.cons (Option.isSome_iff_exists.2 ⟨1, circle⟩) .nil) _ drawn

end Dispatch

end CallSearch
