/-
# CallSearch.Dispatch.Table — the methods filed for each receiver

The methods that calls may land on are filed under the class a call is made on, the name
of the method and the number of its parameters.  Two passes over the classes of a program
fill the table:

* the first files every declaration under its own class, with the declarations of its
  shape in all descendants, where an override may run instead;
* the second files under a class what its ancestors declare and it does not.  The
  ancestors come nearest first, and the distance at which the first method of a key was
  found is kept: farther ancestors add nothing to that key, equally near ones do.
-/
import CallSearch.Hierarchy
import CallSearch.Sorted

namespace CallSearch

set_option autoImplicit false

/-- What the methods that a call may land on are filed under. -/
structure DispatchKey where
  /-- The class the call is made on. -/
  receiver : String
  name : String
  arity : Nat
deriving DecidableEq, Inhabited

namespace DispatchKey

instance : Ord DispatchKey :=
  ⟨compareLex (compareOn receiver) (compareLex (compareOn name) (compareOn arity))⟩

instance : Std.TransOrd DispatchKey :=
  inferInstanceAs (Std.TransCmp (compareLex (compareOn receiver)
    (compareLex (compareOn name) (compareOn arity))))

instance : Std.LawfulEqOrd DispatchKey where
  compare_self := Std.ReflCmp.compare_self
  eq_of_compare {a b} h := by
    have parts : (compare a.receiver b.receiver).then
        ((compare a.name b.name).then (compare a.arity b.arity)) = .eq := h
    simp only [Ordering.then_eq_eq, Std.LawfulEqCmp.compare_eq_iff_eq] at parts
    cases a
    cases b
    simpa using parts

/-- The key of calls with the shape of a signature on a class. -/
def ofShape (receiver : String) (shape : Signature) : DispatchKey :=
  ⟨receiver, shape.name, shape.arity⟩

end DispatchKey

/-- An ancestor of a class, so many inheritance steps up. -/
structure Ancestor where
  distance : Nat
  name : String

namespace Ancestor

instance : Ord Ancestor := ⟨compareLex (compareOn distance) (compareOn name)⟩

instance : Std.TransOrd Ancestor :=
  inferInstanceAs (Std.TransCmp (compareLex (compareOn distance) (compareOn name)))

end Ancestor

/-- The ancestors of a class, the nearest first and equally near ones by name. -/
def Hierarchy.nearestFirst (hierarchy : Hierarchy) (name : String) : List Ancestor :=
  sortAscending (((hierarchy.ancestors.get? name).getD []).map fun (ancestor, distance) =>
    ⟨distance, ancestor⟩)

/-- The methods calls may land on, by receiver, name and number of parameters. -/
structure DispatchTable where
  entries : Table DispatchKey (SortedSet Signature)

namespace DispatchTable

instance : EmptyCollection DispatchTable := ⟨⟨∅⟩⟩

/-- The methods filed under a key. -/
def filed (table : DispatchTable) (key : DispatchKey) : SortedSet Signature :=
  (table.entries.get? key).getD ∅

/-- File some more methods under a key. -/
def file (table : DispatchTable) (key : DispatchKey) (methods : List Signature) :
    DispatchTable :=
  ⟨table.entries.insert key (table.filed key ∪ .ofList methods)⟩

section Passes

variable (classes : ClassTable) (hierarchy : Hierarchy)

/-- The declarations in a class with the shape of a signature. -/
def declared (name : String) (shape : Signature) : List Signature :=
  match classes.get? name with
  | none => []
  | some cls => (cls.methods.map Method.signature).filter fun own => own.sameShape shape

/-- The declarations of a shape in the descendants of a class. -/
def overriding (name : String) (shape : Signature) : List Signature :=
  (hierarchy.descendants name).flatMap fun descendant => declared classes descendant.1 shape

/-- File a declaration of a class, with its overloads of the same shape and what overrides it. -/
def fileOwn (cls : Class) (table : DispatchTable) (method : Method) : DispatchTable :=
  table.file (.ofShape cls.name method.signature)
    (declared classes cls.name method.signature ++
      overriding classes hierarchy cls.name method.signature)

/-- The first pass: what each class declares. -/
def ofDeclared : DispatchTable :=
  classes.toList.foldl (fun table cls => cls.methods.foldl (fileOwn classes hierarchy cls) table) ∅

/-- The table while the ancestors of a class are gone through. -/
structure Inheriting where
  /-- How far up the class the methods of a key were found first. -/
  nearest : Table DispatchKey Nat
  table : DispatchTable

/-- Let a class inherit a method from an ancestor, unless it declares the shape itself or has found
it in a nearer ancestor. -/
def inherit (cls : Class) (distance : Nat) (state : Inheriting) (method : Method) : Inheriting :=
  if cls.methods.any fun own => own.signature.sameShape method.signature then state
  else
    let key : DispatchKey := .ofShape cls.name method.signature
    let nearest := (state.nearest.get? key).getD distance
    { nearest := state.nearest.insert key nearest
      table :=
        if nearest = distance then
          state.table.file key
            (method.signature :: overriding classes hierarchy cls.name method.signature)
        else state.table }

/-- Let a class inherit the methods of an ancestor, if that belongs to the program. -/
def inheritFrom (cls : Class) (state : Inheriting) (ancestor : Ancestor) : Inheriting :=
  match classes.get? ancestor.name with
  | none => state
  | some holder => holder.methods.foldl (inherit classes hierarchy cls ancestor.distance) state

/-- Let a class inherit the methods of all its ancestors. -/
def inheritAll (table : DispatchTable) (cls : Class) : DispatchTable :=
  ((hierarchy.nearestFirst cls.name).foldl (inheritFrom classes hierarchy cls) ⟨∅, table⟩).table

/-- The table of a program: the second pass goes over the table that the first has filled. -/
def ofClasses : DispatchTable :=
  classes.toList.foldl (inheritAll classes hierarchy) (ofDeclared classes hierarchy)

end Passes

end DispatchTable

end CallSearch
