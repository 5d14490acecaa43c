/-
# CallSearch.Invocation — typed calls

An `Invocation` is one call as the engine sees it: how it is dispatched, the method
it names with the types of its arguments, the string literals passed to it, and
where it was written.  Invocations are ordered by these parts in turn, an absent
part before any present one.
-/
import CallSearch.Signature

namespace CallSearch

set_option autoImplicit false

/-- How a call picks its target: by the class alone, or by the receiver's class. -/
inductive CallKind where
  | static
  | virtual
deriving DecidableEq, Inhabited

namespace CallKind

/-- The place of a kind in the order of kinds. -/
def rank : CallKind → Nat
  | .static => 0
  | .virtual => 1

instance : Ord CallKind := ⟨compareOn rank⟩

instance : Std.TransOrd CallKind := inferInstanceAs (Std.TransCmp (compareOn rank))

instance : Std.LawfulEqOrd CallKind where
  compare_self := Std.ReflCmp.compare_self
  eq_of_compare {a b} h := by
    revert h
    cases a <;> cases b <;> decide

end CallKind

/-- Where a call was written: the method around it, its number among the calls of that
method, and its line. -/
structure Locator where
  method : Signature
  ordinal : Nat
  line : Option Nat
deriving DecidableEq, Inhabited

namespace Locator

instance : Ord Locator :=
  ⟨compareLex (compareOn method) (compareLex (compareOn ordinal) (compareOn line))⟩

instance : Std.TransOrd Locator :=
  inferInstanceAs (Std.TransCmp
    (compareLex (compareOn method) (compareLex (compareOn ordinal) (compareOn line))))

instance : Std.LawfulEqOrd Locator where
  compare_self := Std.ReflCmp.compare_self
  eq_of_compare {a b} h := by
    have parts : (compare a.method b.method).then ((compare a.ordinal b.ordinal).then
        (compare a.line b.line)) = .eq := h
    simp only [Ordering.then_eq_eq, Std.LawfulEqCmp.compare_eq_iff_eq] at parts
    cases a
    cases b
    simpa using parts

end Locator

/-- A typed call. -/
structure Invocation where
  kind : CallKind
  /-- The method the call names: receiver type, result type, name and argument types. -/
  callee : Signature
  /-- The string literals passed, in increasing order when the call was typed here. -/
  literals : List String
  locator : Option Locator
deriving DecidableEq, Inhabited

namespace Invocation

instance : Ord Invocation :=
  ⟨compareLex (compareOn kind)
    (compareLex (compareOn callee) (compareLex (compareOn literals) (compareOn locator)))⟩

instance : Std.TransOrd Invocation :=
  inferInstanceAs (Std.TransCmp (compareLex (compareOn kind)
    (compareLex (compareOn callee) (compareLex (compareOn literals) (compareOn locator)))))

instance : Std.LawfulEqOrd Invocation where
  compare_self := Std.ReflCmp.compare_self
  eq_of_compare {a b} h := by
    have parts : (compare a.kind b.kind).then ((compare a.callee b.callee).then
        ((compare a.literals b.literals).then (compare a.locator b.locator))) = .eq := h
    simp only [Ordering.then_eq_eq, Std.LawfulEqCmp.compare_eq_iff_eq] at parts
    cases a
    cases b
    simpa using parts

/-- The same call bound to another method. -/
def retarget (call : Invocation) (callee : Signature) : Invocation := { call with callee }

/-- The same call without the place it was written at. -/
def withoutLocator (call : Invocation) : Invocation := { call with locator := none }

end Invocation

end CallSearch
