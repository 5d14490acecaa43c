/-
# CallSearch.Signature — methods by name

A `Signature` names a method completely: the class that declares it, its result
type, its name and its parameter types.  It is the identity of the method all over
the library, and signatures are ordered by these parts in turn.
-/

namespace CallSearch

set_option autoImplicit false

/-- The result type of a method that returns nothing. -/
def voidType : String := "void"

/-- A fully qualified method signature. -/
structure Signature where
  /-- The class the method belongs to. -/
  owner : String
  /-- The result type, `void` when the method returns nothing. -/
  result : String
  name : String
  params : List String
deriving DecidableEq, Inhabited

namespace Signature

instance : Ord Signature :=
  ⟨compareLex (compareOn owner)
    (compareLex (compareOn result) (compareLex (compareOn name) (compareOn params)))⟩

instance : Std.TransOrd Signature :=
  inferInstanceAs (Std.TransCmp (compareLex (compareOn owner)
    (compareLex (compareOn result) (compareLex (compareOn name) (compareOn params)))))

instance : Std.LawfulEqOrd Signature where
  compare_self := Std.ReflCmp.compare_self
  eq_of_compare {a b} h := by
    have parts : (compare a.owner b.owner).then ((compare a.result b.result).then
        ((compare a.name b.name).then (compare a.params b.params))) = .eq := h
    simp only [Ordering.then_eq_eq, Std.LawfulEqCmp.compare_eq_iff_eq] at parts
    cases a
    cases b
    simpa using parts

/-- The number of parameters. -/
def arity (signature : Signature) : Nat := signature.params.length

/-- Same name and number of parameters, whatever the class and the types. -/
def sameShape (a b : Signature) : Bool := a.name == b.name && a.arity == b.arity

/-- Every type a signature mentions: the class, the result, then the parameters. -/
def types (signature : Signature) : List String :=
  signature.owner :: signature.result :: signature.params

/-- `result owner.name(param, param)`. -/
def text (signature : Signature) : String :=
  signature.result ++ " " ++ signature.owner ++ "." ++ signature.name ++ "("
    ++ ", ".intercalate signature.params ++ ")"

end Signature

end CallSearch
