/-
# CallSearch.Proofs.Dispatch.Offers — which declarations a call should find

What a call on a class may land on by its shape, said without any table.  A class sees
the declarations of a shape that it has or, if it has none, those of all its nearest
ancestors that have some (`Sees`).  A call on the class offers what the class sees and, if
that is anything at all, the declarations of every descendant (`Offers`).

For one class and one shape these declarations can be listed at once (`offered`).

Inheritance may be cyclic, several ancestors may be equally near, and parents may be
missing from the program.
-/
import CallSearch.Dispatch
import CallSearch.Proofs.Hierarchy.Distance

namespace CallSearch

set_option autoImplicit false

theorem Signature.sameShape_iff {first second : Signature} : first.sameShape second = true ↔
    first.name = second.name ∧ first.arity = second.arity := by
  rw [sameShape, Bool.and_eq_true, beq_iff_eq, beq_iff_eq]

namespace Dispatch

open Hierarchy (Chain IsBelow Descends)

/-! ## Declarations -/

section Offers

variable (classes : ClassTable) (shape : Signature)

/-- A class of the program has a method with the name and the number of parameters of a shape. -/
structure IsDeclared (name : String) (method : Signature) : Prop where
  listed : ∃ cls, classes.get? name = some cls ∧ ∃ own ∈ cls.methods, own.signature = method
  sameName : method.name = shape.name
  sameArity : method.arity = shape.arity

/-- A class has declarations of a shape. -/
def Declares (name : String) : Prop := ∃ method, IsDeclared classes shape name method

/-- A proper ancestor that declares a shape, so many inheritance steps up, and no other that does
is nearer. -/
structure IsNearest (name : String) (n : Nat) (ancestor : String) : Prop where
  apart : ancestor ≠ name
  declares : Declares classes shape ancestor
  chain : Chain classes n name ancestor
  least : ∀ m other, other ≠ name → Declares classes shape other →
    Chain classes m name other → n ≤ m

/-- A declaration that a class has or, if it has none of the shape, finds in one of its nearest
ancestors that have some. -/
inductive Sees (name : String) (method : Signature) : Prop
  | own : IsDeclared classes shape name method → Sees name method
  | inherited {ancestor : String} {n : Nat} : ¬Declares classes shape name →
      IsNearest classes shape name n ancestor → IsDeclared classes shape ancestor method →
      Sees name method

/-- A declaration that a call on a class may land on by its shape.  Where the class sees none, it
may not land on those of its descendants either. -/
inductive Offers (name : String) (method : Signature) : Prop
  | seen : Sees classes shape name method → Offers name method
  | below {sub : String} {other : Signature} {n : Nat} : Sees classes shape name other →
      sub ≠ name → Chain classes n sub name → IsDeclared classes shape sub method →
      Offers name method

end Offers

variable {classes : ClassTable} {shape shape' : Signature} {name ancestor : String}
  {method : Signature} {n : Nat}

/-- The declarations of a class that are listed are its methods of the shape. -/
theorem mem_declared : method ∈ DispatchTable.declared classes name shape ↔
    IsDeclared classes shape name method := by
  rw [DispatchTable.declared]
  cases found : classes.get? name with
  | none =>
      refine iff_of_false List.not_mem_nil ?_
      rintro ⟨⟨cls, found', -⟩, -, -⟩
      cases found.symm.trans found'
  | some cls =>
      rw [List.mem_filter, List.mem_map, Signature.sameShape_iff]
      constructor
      · rintro ⟨listed, sameName, sameArity⟩
        exact ⟨⟨cls, found, listed⟩, sameName, sameArity⟩
      · rintro ⟨⟨other, found', listed⟩, sameName, sameArity⟩
        cases found.symm.trans found'
        exact ⟨listed, sameName, sameArity⟩

theorem declares_iff : Declares classes shape name ↔
    DispatchTable.declared classes name shape ≠ [] := by
  rw [Declares, ← List.isEmpty_eq_false_iff, List.isEmpty_eq_false_iff_exists_mem]
  exact exists_congr fun _ => mem_declared.symm

instance (name : String) : Decidable (Declares classes shape name) :=
  decidable_of_iff _ declares_iff.symm

instance (name : String) (method : Signature) : Decidable (IsDeclared classes shape name method) :=
  decidable_of_iff _ mem_declared

/-! ## Distances -/

/-- The nearest ancestors with declarations of a shape, by the distances recorded. -/
theorem isNearest_iff : IsNearest classes shape name n ancestor ↔
    IsBelow classes n name ancestor ∧ Declares classes shape ancestor ∧
      ∀ m other, IsBelow classes m name other → Declares classes shape other → n ≤ m := by
  constructor
  · rintro ⟨apart, declares, chain, least⟩
    refine ⟨Hierarchy.isBelow_iff.2 ⟨apart, Hierarchy.isLeast_chain_iff.1 ⟨chain, fun m chain' =>
      least m ancestor apart declares chain'⟩⟩, declares, fun m other below declares' => ?_⟩
    obtain ⟨apart', distance⟩ := Hierarchy.isBelow_iff.1 below
    exact least m other apart' declares' (Hierarchy.isLeast_chain_iff.2 distance).1
  · rintro ⟨below, declares, least⟩
    obtain ⟨apart, distance⟩ := Hierarchy.isBelow_iff.1 below
    refine ⟨apart, declares, (Hierarchy.isLeast_chain_iff.2 distance).1,
      fun m other apart' declares' chain => ?_⟩
    obtain ⟨k, le, below'⟩ := Hierarchy.exists_isBelow_of_chain apart' chain
    exact (least k other below' declares').trans le

/-- Only a class of the program sees anything. -/
theorem Sees.mem_names (sees : Sees classes shape name method) : name ∈ classes.names := by
  cases sees with
  | own declared =>
      obtain ⟨cls, found, -⟩ := declared.listed
      exact Table.mem_keys_of_get? found
  | inherited _ nearest _ => exact (isNearest_iff.1 nearest).1.mem_names

theorem Offers.exists_sees (offers : Offers classes shape name method) :
    ∃ other, Sees classes shape name other := by
  cases offers with
  | seen sees => exact ⟨method, sees⟩
  | below sees _ _ _ => exact ⟨_, sees⟩

theorem Offers.mem_names (offers : Offers classes shape name method) : name ∈ classes.names := by
  obtain ⟨other, sees⟩ := offers.exists_sees
  exact sees.mem_names

/-! ## The declarations offered, listed -/

section Listed

variable (classes : ClassTable) (name : String) (shape : Signature)

/-- The declarations of a shape in the nearest ancestors of a class that have some. -/
def inherited : List Signature :=
  let ancestors := ((Hierarchy.ofClasses classes).ancestors.get? name).getD []
  let declaring := ancestors.filter fun ancestor => Declares classes shape ancestor.1
  match (declaring.map (·.2)).min? with
  | none => []
  | some nearest =>
      (declaring.filter fun ancestor => ancestor.2 == nearest).flatMap fun ancestor =>
        DispatchTable.declared classes ancestor.1 shape

/-- The declarations a class has or inherits. -/
def visible : List Signature :=
  if Declares classes shape name then DispatchTable.declared classes name shape
  else inherited classes name shape

/-- The declarations a call on a class offers, in the order of signatures. -/
def offered : List Signature :=
  if (visible classes name shape).isEmpty then []
  else
    sortUnique (visible classes name shape ++
      DispatchTable.overriding classes (.ofClasses classes) name shape)

end Listed

/-- What a class inherits are the declarations of its nearest ancestors that have some. -/
theorem mem_inherited : method ∈ inherited classes name shape ↔
    ∃ ancestor n, IsNearest classes shape name n ancestor ∧
      IsDeclared classes shape ancestor method := by
  rw [inherited]
  have listed : ∀ {ancestor n}, (ancestor, n) ∈
        ((Hierarchy.ofClasses classes).ancestors.get? name).getD [] ↔
      IsBelow classes n name ancestor := Hierarchy.mem_ancestors
  generalize ((Hierarchy.ofClasses classes).ancestors.get? name).getD [] = ancestors at listed ⊢
  have declaring : ∀ {ancestor n}, (ancestor, n) ∈
        (ancestors.filter fun ancestor => Declares classes shape ancestor.1) ↔
      IsBelow classes n name ancestor ∧ Declares classes shape ancestor := by
    intro ancestor n
    rw [List.mem_filter, listed, decide_eq_true_iff]
  generalize (ancestors.filter fun ancestor => Declares classes shape ancestor.1) = candidates
    at declaring ⊢
  cases least : (candidates.map (·.2)).min? with
  | none =>
      rw [List.min?_eq_none_iff, List.map_eq_nil_iff] at least
      refine iff_of_false List.not_mem_nil ?_
      rintro ⟨ancestor, n, nearest, -⟩
      have mem := declaring.2 ⟨(isNearest_iff.1 nearest).1, nearest.declares⟩
      rw [least] at mem
      cases mem
  | some nearest =>
      obtain ⟨mem, le⟩ := List.min?_eq_some_iff.1 least
      dsimp only
      rw [List.mem_flatMap]
      constructor
      · rintro ⟨⟨ancestor, n⟩, chosen, here⟩
        obtain ⟨picked, same⟩ := List.mem_filter.1 chosen
        obtain rfl : n = nearest := by simpa using same
        obtain ⟨below, declares⟩ := declaring.1 picked
        refine ⟨ancestor, n, isNearest_iff.2 ⟨below, declares, fun m other below declares => ?_⟩,
          mem_declared.1 here⟩
        exact le m (List.mem_map.2 ⟨_, declaring.2 ⟨below, declares⟩, rfl⟩)
      · rintro ⟨ancestor, n, isNearest, here⟩
        obtain ⟨below, declares, nearer⟩ := isNearest_iff.1 isNearest
        obtain ⟨⟨other, m⟩, chosen, rfl⟩ := List.mem_map.1 mem
        obtain ⟨below', declares'⟩ := declaring.1 chosen
        have chosen' := declaring.2 ⟨below, declares⟩
        have same := Nat.le_antisymm (nearer m other below' declares')
          (le n (List.mem_map.2 ⟨_, chosen', rfl⟩))
        exact ⟨(ancestor, n), List.mem_filter.2 ⟨chosen', by simpa using same⟩,
          mem_declared.2 here⟩

theorem mem_visible : method ∈ visible classes name shape ↔ Sees classes shape name method := by
  rw [visible]
  split
  · next declares =>
    rw [mem_declared]
    refine ⟨.own, fun sees => ?_⟩
    cases sees with
    | own declared => exact declared
    | inherited silent _ _ => exact absurd declares silent
  · next silent =>
    rw [mem_inherited]
    constructor
    · rintro ⟨ancestor, n, nearest, declared⟩
      exact .inherited silent nearest declared
    · intro sees
      cases sees with
      | own declared => exact absurd ⟨method, declared⟩ silent
      | inherited _ nearest declared => exact ⟨_, _, nearest, declared⟩

/-- The declarations of a shape in the descendants of a class. -/
theorem mem_overriding :
    method ∈ DispatchTable.overriding classes (.ofClasses classes) name shape ↔
      ∃ sub, Descends classes sub name ∧ IsDeclared classes shape sub method := by
  rw [DispatchTable.overriding, List.mem_flatMap]
  constructor
  · rintro ⟨⟨sub, n⟩, listed, here⟩
    exact ⟨sub, ⟨n, Hierarchy.mem_descendants.1 listed⟩, mem_declared.1 here⟩
  · rintro ⟨sub, ⟨n, below⟩, here⟩
    exact ⟨(sub, n), Hierarchy.mem_descendants.2 below, mem_declared.2 here⟩

/-- The declarations listed are those offered. -/
theorem mem_offered : method ∈ offered classes name shape ↔ Offers classes shape name method := by
  rw [offered]
  split
  · next none =>
    refine iff_of_false List.not_mem_nil fun offers => ?_
    obtain ⟨other, sees⟩ := offers.exists_sees
    exact List.ne_nil_of_mem (mem_visible.2 sees) (List.isEmpty_iff.1 none)
  · next some =>
    obtain ⟨other, listed⟩ :=
      List.isEmpty_eq_false_iff_exists_mem.1 (Bool.eq_false_of_not_eq_true some)
    rw [mem_sortUnique, List.mem_append, mem_visible, mem_overriding]
    constructor
    · rintro (sees | ⟨sub, below, declared⟩)
      · exact .seen sees
      · obtain ⟨apart, n, chain⟩ := Hierarchy.descends_iff.1 below
        exact .below (mem_visible.1 listed) apart.symm chain declared
    · rintro (sees | ⟨_, apart, chain, declared⟩)
      · exact Or.inl sees
      · exact Or.inr ⟨_, Hierarchy.descends_iff.2 ⟨apart.symm, _, chain⟩, declared⟩

theorem offered_pairwise :
    (offered classes name shape).Pairwise fun a b => compare a b = .lt := by
  rw [offered]
  split
  · exact .nil
  · exact sortUnique_pairwise _

end Dispatch

end CallSearch
