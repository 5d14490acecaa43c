/-
# CallSearch.Hierarchy — subtypes and how far apart they are

The distance of a class from an ancestor is the length of the shortest chain of
inheritance steps, where a step goes from a class of the program to its superclass
or to one of its interfaces.  Ancestors need not belong to the program.

`Hierarchy.isA` extends the distance to all types: every type is itself, `null` is
anything but a primitive, and arrays of the same dimension are as far apart as
their elements.
-/
import CallSearch.Layers
import CallSearch.Typing

namespace CallSearch

set_option autoImplicit false

/-- The proper ancestors of each class of a program, with their distance. -/
structure Hierarchy where
  ancestors : Table String (List (String × Nat))

namespace Hierarchy

/-- The direct ancestors of a name: none unless it is a class of the program. -/
def parents (classes : ClassTable) (name : String) : List String :=
  ((classes.get? name).map Class.parents).getD []

/-- The proper ancestors of a class, nearest first.  Every layer but the last holds a class of
the program, so there are no more layers than classes and one. -/
def ancestorsOf (classes : ClassTable) (name : String) : List (String × Nat) :=
  (layers (parents classes) (classes.size + 1) [] [name]).zipIdx.tail.flatMap fun layer =>
    layer.1.map fun ancestor => (ancestor, layer.2)

def ofClasses (classes : ClassTable) : Hierarchy where
  ancestors := .ofList (classes.names.map fun name => (name, ancestorsOf classes name))

/-- How many inheritance steps lead from `sub` up to its proper ancestor `sup`. -/
def distance? (hierarchy : Hierarchy) (sup sub : String) : Option Nat := do
  let ancestors ← hierarchy.ancestors.get? sub
  ancestors.lookup sup

/-- The proper descendants of a class with their distance, in the order of their names. -/
def descendants (hierarchy : Hierarchy) (name : String) : List (String × Nat) :=
  hierarchy.ancestors.entries.filterMap fun entry =>
    (entry.2.lookup name).map fun distance => (entry.1, distance)

/-- Take pairs of brackets off the end of a name that is given backwards. -/
def dropBrackets : List Char → List Char × Nat
  | ']' :: '[' :: rest =>
      let (element, dimension) := dropBrackets rest
      (element, dimension + 1)
  | name => (name, 0)

/-- The element type of an array type of any dimension, and the dimension. -/
def element (type : String) : String × Nat :=
  let (name, dimension) := dropBrackets type.toList.reverse
  (String.ofList name.reverse, dimension)

/-- How far a value of static type `sub` is from being a `sup`; `none` if it is not
assignable. -/
def isA (hierarchy : Hierarchy) (sub sup : String) : Option Nat :=
  if sub == sup then some 0
  else if sub == voidType || sup == voidType then none
  else if sub == "null" then if isPrimitive sup then none else some 0
  else
    let (subElement, subDimension) := element sub
    let (supElement, supDimension) := element sup
    if subDimension != supDimension then none
    else if subElement == supElement then some 0
    else hierarchy.distance? supElement subElement

end Hierarchy

end CallSearch
