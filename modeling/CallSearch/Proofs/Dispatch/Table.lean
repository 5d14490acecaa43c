/-
# CallSearch.Proofs.Dispatch.Table — what the two passes file

Both passes only add to the table, so each is told by what one of its steps adds under a
key, and what a pass adds is the sum of that (`mem_filed_foldl`).

A step of the second pass goes through the ancestors of a class.  Its invariant is
`Inheriting.Holds`: the distance kept for a key is the least at which a method of the key
was met, and the methods filed are those met there, with what overrides them.  It is kept
because the ancestors come nearest first.

* `mem_filed_ofDeclared`, `mem_filed_inheritAll`: what the first pass files, and what a class
  adds in the second;
* `mem_filed_ofClasses`, `mem_candidates_iff_offers`: the table holds what calls offer;
* `candidates_eq_offered`: for one class and one shape this is what can be listed at once.
-/
import CallSearch.Proofs.Dispatch.Offers

namespace CallSearch

set_option autoImplicit false

theorem Signature.sameShape_trans {first second third : Signature}
    (before : first.sameShape second = true) (after : second.sameShape third = true) :
    first.sameShape third = true := by
  rw [sameShape_iff] at before after ⊢
  exact ⟨before.1.trans after.1, before.2.trans after.2⟩

namespace DispatchKey

variable {receiver receiver' : String} {shape shape' : Signature}

theorem ofShape_inj : ofShape receiver shape = ofShape receiver' shape' ↔
    receiver = receiver' ∧ shape.sameShape shape' = true := by
  rw [Signature.sameShape_iff]
  simp [ofShape]

end DispatchKey

namespace DispatchTable

open Dispatch Hierarchy

variable {classes : ClassTable} {shape shape' method : Signature} {name : String} {cls : Class}
  {table : DispatchTable} {key : DispatchKey}

/-! ## Filing -/

theorem mem_filed_empty : method ∉ (∅ : DispatchTable).filed key := List.not_mem_nil

theorem mem_filed_file {other : DispatchKey} {methods : List Signature} :
    method ∈ (table.file other methods).filed key ↔
      method ∈ table.filed key ∨ key = other ∧ method ∈ methods := by
  rw [file, filed, Table.get?_insert_eq]
  split
  · next same =>
    rw [Option.getD_some, SortedSet.mem_union, SortedSet.mem_ofList, and_iff_right same, same]
  · next apart => exact (or_iff_left fun added => apart added.1).symm

theorem filed_file_of_ne {other : DispatchKey} (apart : key ≠ other) (methods : List Signature) :
    (table.file other methods).filed key = table.filed key := by
  rw [file, filed, Table.get?_insert_eq, if_neg apart, filed]

/-- Steps that add to a table add, together, what each of them adds. -/
theorem mem_filed_foldl {α : Type} {add : DispatchTable → α → DispatchTable} {adds : α → Prop}
    (step : ∀ table item, method ∈ (add table item).filed key ↔
      method ∈ table.filed key ∨ adds item)
    (items : List α) (table : DispatchTable) : method ∈ (items.foldl add table).filed key ↔
      method ∈ table.filed key ∨ ∃ item ∈ items, adds item := by
  induction items generalizing table with
  | nil => simp
  | cons item items ih =>
      rw [List.foldl_cons, ih, step, or_assoc]
      simp

/-! ## What classes declare -/

theorem mem_toList_iff : cls ∈ classes.toList ↔ classes.get? cls.name = some cls := by
  rw [ClassTable.get?, Table.get?_eq_some_iff, ClassTable.toList, Table.values, List.mem_map]
  constructor
  · rintro ⟨⟨name, found⟩, listed, rfl⟩
    rwa [← classes.named _ listed]
  · exact fun listed => ⟨_, listed, rfl⟩

/-- Declarations depend on the name and the number of parameters of a shape alone. -/
theorem declared_congr (same : shape.sameShape shape' = true) :
    declared classes name shape = declared classes name shape' := by
  rw [Signature.sameShape_iff] at same
  have tests : (fun own : Signature => own.sameShape shape) = fun own => own.sameShape shape' := by
    funext own
    rw [Signature.sameShape, Signature.sameShape, same.1, same.2]
  rw [declared, declared, tests]

theorem overriding_congr {hierarchy : Hierarchy} (same : shape.sameShape shape' = true) :
    overriding classes hierarchy name shape = overriding classes hierarchy name shape' := by
  simp only [overriding, declared_congr same]

/-- A class declares a shape if it is in the list of classes and has a method of the shape. -/
theorem declares_iff_exists_class : Declares classes shape name ↔ ∃ cls ∈ classes.toList,
    cls.name = name ∧ ∃ own ∈ cls.methods, own.signature.sameShape shape = true := by
  constructor
  · rintro ⟨method, ⟨cls, found, own, mem, rfl⟩, sameName, sameArity⟩
    have named : cls.name = name := (classes.named _ (Table.get?_eq_some_iff.1 found)).symm
    subst named
    exact ⟨cls, mem_toList_iff.2 found, rfl, own, mem,
      Signature.sameShape_iff.2 ⟨sameName, sameArity⟩⟩
  · rintro ⟨cls, listed, rfl, own, mem, same⟩
    rw [Signature.sameShape_iff] at same
    exact ⟨own.signature, ⟨cls, mem_toList_iff.1 listed, own, mem, rfl⟩, same.1, same.2⟩

/-! ## The first pass -/

section Passes

variable {hierarchy : Hierarchy}

theorem mem_filed_fileOwn (own : Method) :
    method ∈ (fileOwn classes hierarchy cls table own).filed (.ofShape name shape) ↔
      method ∈ table.filed (.ofShape name shape) ∨
        (cls.name = name ∧ own.signature.sameShape shape = true) ∧
          method ∈ declared classes name shape ++ overriding classes hierarchy name shape := by
  rw [fileOwn, mem_filed_file, eq_comm, DispatchKey.ofShape_inj]
  refine or_congr_right (and_congr_right ?_)
  rintro ⟨rfl, same⟩
  rw [declared_congr same, overriding_congr same]

/-- The first pass files what a class declares, with what overrides it. -/
theorem mem_filed_ofDeclared :
    method ∈ (ofDeclared classes hierarchy).filed (.ofShape name shape) ↔
      Declares classes shape name ∧
        method ∈ declared classes name shape ++ overriding classes hierarchy name shape := by
  rw [ofDeclared, mem_filed_foldl fun table cls => mem_filed_foldl
    (fun _ own => mem_filed_fileOwn own) cls.methods table, or_iff_right mem_filed_empty,
    declares_iff_exists_class]
  constructor
  · rintro ⟨cls, listed, own, mem, ⟨named, same⟩, here⟩
    exact ⟨⟨cls, listed, named, own, mem, same⟩, here⟩
  · rintro ⟨⟨cls, listed, named, own, mem, same⟩, here⟩
    exact ⟨cls, listed, own, mem, ⟨named, same⟩, here⟩

/-! ## The second pass -/

/-- A class has no method of a shape. -/
def Lacks (cls : Class) (shape : Signature) : Prop :=
  ∀ own ∈ cls.methods, own.signature.sameShape shape = false

/-- A method of a shape is among those met, so far up. -/
def Met (met : List (Nat × Signature)) (shape : Signature) (n : Nat) (method : Signature) : Prop :=
  (n, method) ∈ met ∧ method.sameShape shape = true

/-- What a class without methods of a shape has inherited of it from the methods met so far: the
distance kept is the least, and the methods met there are filed, with what overrides them. -/
structure Inheriting.Holds (classes : ClassTable) (hierarchy : Hierarchy) (cls : Class)
    (shape : Signature) (before : DispatchTable) (met : List (Nat × Signature))
    (state : Inheriting) : Prop where
  nearest : ∀ n, state.nearest.get? (.ofShape cls.name shape) = some n ↔
    IsLeast {n | ∃ method, Met met shape n method} n
  filed : ∀ method, method ∈ state.table.filed (.ofShape cls.name shape) ↔
    method ∈ before.filed (.ofShape cls.name shape) ∨
      ∃ n, state.nearest.get? (.ofShape cls.name shape) = some n ∧
        (Met met shape n method ∨ method ∈ overriding classes hierarchy cls.name shape)

variable {state : Inheriting} {distance : Nat} {met : List (Nat × Signature)}
  {before : DispatchTable} {own : Method}

section

variable (classes hierarchy state distance)

/-- Inheriting a method changes nothing under other keys, nor under its own where the class
declares the shape. -/
theorem inherit_of_ne (other : key = .ofShape cls.name own.signature →
      ∃ mine ∈ cls.methods, mine.signature.sameShape own.signature = true) :
    (inherit classes hierarchy cls distance state own).nearest.get? key = state.nearest.get? key ∧
      (inherit classes hierarchy cls distance state own).table.filed key =
        state.table.filed key := by
  rw [inherit]
  split
  · exact ⟨rfl, rfl⟩
  · next fresh =>
    have apart : key ≠ .ofShape cls.name own.signature := fun same =>
      fresh (List.any_eq_true.2 (other same))
    refine ⟨(Table.get?_insert_eq ..).trans (if_neg apart), ?_⟩
    dsimp only
    split
    · exact filed_file_of_ne apart _
    · rfl

/-- Inheriting a method of a shape that the class lacks. -/
theorem inherit_of_sameShape (lacks : Lacks cls shape)
    (same : own.signature.sameShape shape = true) {nearest : Nat}
    (found : (state.nearest.get? (.ofShape cls.name shape)).getD distance = nearest) :
    (inherit classes hierarchy cls distance state own).nearest.get? (.ofShape cls.name shape) =
        some nearest ∧
      ∀ method, method ∈ (inherit classes hierarchy cls distance state own).table.filed
          (.ofShape cls.name shape) ↔
        method ∈ state.table.filed (.ofShape cls.name shape) ∨ nearest = distance ∧
          (method = own.signature ∨ method ∈ overriding classes hierarchy cls.name shape) := by
  have key : DispatchKey.ofShape cls.name own.signature = .ofShape cls.name shape :=
    DispatchKey.ofShape_inj.2 ⟨rfl, same⟩
  have fresh : ¬(cls.methods.any fun mine => mine.signature.sameShape own.signature) = true := by
    intro declares
    obtain ⟨mine, mem, same'⟩ := List.any_eq_true.1 declares
    exact Bool.false_ne_true ((lacks mine mem).symm.trans (Signature.sameShape_trans same' same))
  rw [inherit, if_neg fresh, key]
  simp only [found]
  refine ⟨(Table.get?_insert_eq ..).trans (if_pos rfl), fun method => ?_⟩
  split
  · next here =>
    rw [mem_filed_file, overriding_congr same, List.mem_cons]
    simp [here]
  · next farther => simp [farther]

end

theorem met_append {n : Nat} : Met (met ++ [(distance, own.signature)]) shape n method ↔
    Met met shape n method ∨
      own.signature.sameShape shape = true ∧ n = distance ∧ method = own.signature := by
  rw [Met, Met, List.mem_append, List.mem_singleton, Prod.mk.injEq, or_and_right]
  refine or_congr_right ⟨?_, ?_⟩
  · rintro ⟨⟨rfl, rfl⟩, same⟩
    exact ⟨same, rfl, rfl⟩
  · rintro ⟨same, rfl, rfl⟩
    exact ⟨⟨rfl, rfl⟩, same⟩

namespace Inheriting.Holds

/-- No method of the shape was met if no distance is kept. -/
theorem not_met (h : state.Holds classes hierarchy cls shape before met)
    (none : state.nearest.get? (.ofShape cls.name shape) = none) (n : Nat) (method : Signature) :
    ¬Met met shape n method := by
  classical
  intro here
  have some : ∃ n method, Met met shape n method := ⟨n, method, here⟩
  have least := (h.nearest (Nat.find some)).2 ⟨Nat.find_spec some, fun _ => Nat.find_min' some⟩
  cases none.symm.trans least

/-- A method of the shape is met, no nearer than those before.  The distance kept is still the
least: it is that of the new method only if no other was met. -/
theorem isLeast (h : state.Holds classes hierarchy cls shape before met)
    (farther : ∀ item ∈ met, item.1 ≤ distance) (same : own.signature.sameShape shape = true) :
    IsLeast {n | ∃ method, Met (met ++ [(distance, own.signature)]) shape n method}
      ((state.nearest.get? (.ofShape cls.name shape)).getD distance) := by
  cases found : state.nearest.get? (.ofShape cls.name shape) with
  | none =>
      refine ⟨⟨own.signature, met_append.2 (Or.inr ⟨same, rfl, rfl⟩)⟩, ?_⟩
      rintro n ⟨method, here⟩
      rcases met_append.1 here with here | ⟨-, rfl, -⟩
      · exact absurd here (h.not_met found n method)
      · exact le_rfl
  | some least =>
      obtain ⟨⟨first, here⟩, le⟩ := (h.nearest least).1 found
      refine ⟨⟨first, met_append.2 (Or.inl here)⟩, ?_⟩
      rintro n ⟨method, here'⟩
      rcases met_append.1 here' with here' | ⟨-, rfl, -⟩
      · exact le ⟨method, here'⟩
      · exact farther _ here.1

/-- One more method is met, no nearer than those before. -/
theorem inherit (own : Method) (h : state.Holds classes hierarchy cls shape before met)
    (lacks : Lacks cls shape) (farther : ∀ item ∈ met, item.1 ≤ distance) :
    (DispatchTable.inherit classes hierarchy cls distance state own).Holds classes hierarchy cls
      shape before (met ++ [(distance, own.signature)]) := by
  by_cases same : own.signature.sameShape shape = true
  · have least := h.isLeast farther same
    obtain ⟨nearest, filed⟩ :=
      inherit_of_sameShape classes hierarchy state distance lacks same rfl
    constructor
    · intro n
      rw [nearest, Option.some.injEq]
      exact ⟨fun equal => equal ▸ least, least.unique⟩
    · intro method
      rw [filed, h.filed, nearest, or_assoc]
      refine or_congr_right ?_
      simp only [met_append, same, true_and, Option.some.injEq, exists_eq_left']
      cases found : state.nearest.get? (.ofShape cls.name shape) with
      | none => simp [h.not_met found]
      | some least =>
          simp only [Option.some.injEq, exists_eq_left', Option.getD_some]
          tauto
  · have apart : DispatchKey.ofShape cls.name shape ≠ .ofShape cls.name own.signature := by
      rw [Ne, eq_comm, DispatchKey.ofShape_inj]
      exact fun equal => same equal.2
    obtain ⟨nearest, filed⟩ :=
      inherit_of_ne classes hierarchy state distance fun equal => absurd equal apart
    have unmet : ∀ n method, Met (met ++ [(distance, own.signature)]) shape n method ↔
        Met met shape n method := fun n method =>
      met_append.trans (or_iff_left fun added => same added.1)
    constructor
    · simp only [nearest, unmet, h.nearest, implies_true]
    · simp only [nearest, filed, unmet, h.filed, implies_true]

theorem foldl_inherit (lacks : Lacks cls shape) (methods : List Method)
    (h : state.Holds classes hierarchy cls shape before met)
    (farther : ∀ item ∈ met, item.1 ≤ distance) :
    (methods.foldl (DispatchTable.inherit classes hierarchy cls distance) state).Holds classes
      hierarchy cls shape before (met ++ methods.map fun own => (distance, own.signature)) := by
  induction methods generalizing state met with
  | nil => simpa using h
  | cons own methods ih =>
      have next := ih (h.inherit own lacks farther) fun item mem => by
        rcases List.mem_append.1 mem with old | new
        · exact farther item old
        · rw [List.mem_singleton.1 new]
      rwa [List.append_assoc, List.singleton_append] at next

end Inheriting.Holds

/-- The methods met in some ancestors, one ancestor after another. -/
def metIn (classes : ClassTable) (ancestors : List Ancestor) : List (Nat × Signature) :=
  ancestors.flatMap fun ancestor =>
    (((classes.get? ancestor.name).map Class.methods).getD []).map fun own =>
      (ancestor.distance, own.signature)

/-- All methods of some ancestors are met, the nearest first. -/
theorem Inheriting.Holds.foldl_inheritFrom (lacks : Lacks cls shape) {ancestors : List Ancestor}
    (ordered : ancestors.Pairwise fun first second => first.distance ≤ second.distance)
    (h : state.Holds classes hierarchy cls shape before met)
    (farther : ∀ ancestor ∈ ancestors, ∀ item ∈ met, item.1 ≤ ancestor.distance) :
    (ancestors.foldl (inheritFrom classes hierarchy cls) state).Holds classes hierarchy cls shape
      before (met ++ metIn classes ancestors) := by
  induction ancestors generalizing state met with
  | nil => simpa [metIn] using h
  | cons ancestor ancestors ih =>
      obtain ⟨nearest, ordered⟩ := List.pairwise_cons.1 ordered
      rw [List.foldl_cons, inheritFrom, metIn, List.flatMap_cons, ← List.append_assoc]
      cases found : classes.get? ancestor.name with
      | none =>
          refine ih ordered (by simpa using h) fun other mem item old => ?_
          exact farther other (List.mem_cons_of_mem _ mem) item (by simpa using old)
      | some holder =>
          refine ih ordered (h.foldl_inherit lacks holder.methods
            (farther ancestor List.mem_cons_self)) fun other mem item met => ?_
          rcases List.mem_append.1 met with old | new
          · exact farther other (List.mem_cons_of_mem _ mem) item old
          · obtain ⟨own, -, rfl⟩ := List.mem_map.1 new
            exact nearest other mem

theorem nearestFirst_pairwise (hierarchy : Hierarchy) (name : String) :
    (hierarchy.nearestFirst name).Pairwise fun first second =>
      first.distance ≤ second.distance := by
  refine (sortAscending_pairwise _).imp fun {first second} le => ?_
  have parts : ((compare first.distance second.distance).then
      (compare first.name second.name)).isLE = true := le
  by_contra less
  rw [Nat.compare_eq_gt.2 (Nat.lt_of_not_le less)] at parts
  cases parts

/-- What a class that lacks a shape is to inherit of it: the methods met nearest, with what
overrides them. -/
def Inherits (classes : ClassTable) (hierarchy : Hierarchy) (name : String)
    (shape method : Signature) : Prop :=
  let met := metIn classes (hierarchy.nearestFirst name)
  ∃ n, IsLeast {n | ∃ method, Met met shape n method} n ∧
    (Met met shape n method ∨ method ∈ overriding classes hierarchy name shape)

theorem mem_filed_inheritAll_self (lacks : Lacks cls shape) :
    method ∈ (inheritAll classes hierarchy table cls).filed (.ofShape cls.name shape) ↔
      method ∈ table.filed (.ofShape cls.name shape) ∨
        Inherits classes hierarchy cls.name shape method := by
  have start : (⟨∅, table⟩ : Inheriting).Holds classes hierarchy cls shape table [] := by
    have nothing : ∀ n (method : Signature), ¬Met [] shape n method := fun _ _ here =>
      List.not_mem_nil here.1
    constructor
    · intro n
      refine iff_of_false (fun none => by cases none) fun least => ?_
      obtain ⟨method, here⟩ := least.1
      exact nothing n method here
    · simp
  have after := start.foldl_inheritFrom lacks (nearestFirst_pairwise hierarchy cls.name)
    fun _ _ _ none => absurd none List.not_mem_nil
  rw [inheritAll, after.filed]
  simp only [after.nearest, List.nil_append]
  rfl

/-- A class adds nothing for other classes, nor for the shapes that it declares. -/
theorem filed_inheritAll_of_ne (other : key.receiver = cls.name →
      ∃ mine ∈ cls.methods, key = .ofShape cls.name mine.signature) :
    (inheritAll classes hierarchy table cls).filed key = table.filed key := by
  have single (state : Inheriting) (distance : Nat) (own : Method) :
      (inherit classes hierarchy cls distance state own).table.filed key =
        state.table.filed key := by
    refine (inherit_of_ne classes hierarchy state distance fun same => ?_).2
    obtain ⟨mine, mem, same'⟩ := other (congrArg DispatchKey.receiver same)
    exact ⟨mine, mem, (DispatchKey.ofShape_inj.1 (same'.symm.trans same)).2⟩
  refine List.foldlRecOn (motive := fun state : Inheriting => state.table.filed key =
    table.filed key) _ _ rfl fun state kept ancestor _ => ?_
  rw [inheritFrom]
  split
  · exact kept
  · exact List.foldlRecOn (motive := fun state : Inheriting => state.table.filed key =
      table.filed key) _ _ kept fun state kept own _ => (single state _ own).trans kept

/-- In the second pass a class that lacks a shape adds what it is to inherit. -/
theorem mem_filed_inheritAll (table : DispatchTable) (cls : Class) :
    method ∈ (inheritAll classes hierarchy table cls).filed (.ofShape name shape) ↔
      method ∈ table.filed (.ofShape name shape) ∨
        (cls.name = name ∧ Lacks cls shape) ∧ Inherits classes hierarchy name shape method := by
  by_cases adds : cls.name = name ∧ Lacks cls shape
  · obtain ⟨rfl, lacks⟩ := adds
    rw [mem_filed_inheritAll_self lacks, and_iff_right ⟨rfl, lacks⟩]
  · rw [filed_inheritAll_of_ne fun own => ?_, or_iff_left fun added => adds added.1]
    subst own
    by_contra none
    refine adds ⟨rfl, fun mine mem => Bool.eq_false_of_not_eq_true fun same => none ?_⟩
    exact ⟨mine, mem, (DispatchKey.ofShape_inj.2 ⟨rfl, same⟩).symm⟩

end Passes

/-! ## The whole table -/

/-- The methods met in the ancestors of a class are their declarations, as far up as they are. -/
theorem met_ancestors_iff {n : Nat} :
    Met (metIn classes ((Hierarchy.ofClasses classes).nearestFirst name)) shape n method ↔
      ∃ ancestor, IsBelow classes n name ancestor ∧ IsDeclared classes shape ancestor method := by
  have listed : ∀ {ancestor : Ancestor},
      ancestor ∈ (Hierarchy.ofClasses classes).nearestFirst name ↔
        IsBelow classes ancestor.distance name ancestor.name := by
    intro ancestor
    rw [Hierarchy.nearestFirst, sortAscending, (List.mergeSort_perm _ _).mem_iff, List.mem_map,
      ← mem_ancestors]
    constructor
    · rintro ⟨⟨other, m⟩, mem, rfl⟩
      exact mem
    · exact fun mem => ⟨_, mem, rfl⟩
  rw [Met, metIn, List.mem_flatMap, Signature.sameShape_iff]
  constructor
  · rintro ⟨⟨ancestor, mem, here⟩, sameName, sameArity⟩
    obtain ⟨own, own_mem, paired⟩ := List.mem_map.1 here
    cases paired
    cases found : classes.get? ancestor.name with
    | none =>
        rw [found] at own_mem
        cases own_mem
    | some holder =>
        rw [found] at own_mem
        exact ⟨ancestor.name, listed.1 mem, ⟨holder, found, own, own_mem, rfl⟩, sameName, sameArity⟩
  · rintro ⟨ancestor, below, ⟨holder, found, own, own_mem, rfl⟩, sameName, sameArity⟩
    refine ⟨⟨⟨n, ancestor⟩, listed.2 below, ?_⟩, sameName, sameArity⟩
    rw [found]
    exact List.mem_map.2 ⟨own, own_mem, rfl⟩

/-- The least distance of a method met is the distance of the nearest ancestors that declare the
shape. -/
theorem isLeast_met_iff {n : Nat} :
    IsLeast {n | ∃ method, Met (metIn classes ((Hierarchy.ofClasses classes).nearestFirst name))
        shape n method} n ↔ ∃ ancestor, IsNearest classes shape name n ancestor := by
  simp only [met_ancestors_iff]
  constructor
  · rintro ⟨⟨method, ancestor, below, declared⟩, least⟩
    refine ⟨ancestor, isNearest_iff.2 ⟨below, ⟨method, declared⟩, ?_⟩⟩
    exact fun m other below ⟨method, declared⟩ => least ⟨method, other, below, declared⟩
  · rintro ⟨ancestor, nearest⟩
    obtain ⟨below, ⟨method, declared⟩, least⟩ := isNearest_iff.1 nearest
    refine ⟨⟨method, ancestor, below, declared⟩, ?_⟩
    rintro m ⟨method, other, below, declared⟩
    exact least m other below ⟨method, declared⟩

/-- A class that lacks a shape inherits what it sees and, if that is anything, what is below it. -/
theorem inherits_iff : Inherits classes (.ofClasses classes) name shape method ↔
    ∃ n nearest, IsNearest classes shape name n nearest ∧
      ((∃ ancestor, IsBelow classes n name ancestor ∧ IsDeclared classes shape ancestor method) ∨
        ∃ sub, Descends classes sub name ∧ IsDeclared classes shape sub method) := by
  rw [Inherits]
  simp only [isLeast_met_iff]
  simp only [met_ancestors_iff, mem_overriding, exists_and_right]

/-- A call on a class that declares the shape offers what the first pass files. -/
theorem offers_iff_of_declares (declares : Declares classes shape name) :
    Offers classes shape name method ↔ method ∈ declared classes name shape ++
      overriding classes (.ofClasses classes) name shape := by
  rw [List.mem_append, mem_declared, mem_overriding]
  constructor
  · rintro ((own | ⟨silent, -, -⟩) | ⟨-, apart, chain, here⟩)
    · exact Or.inl own
    · exact absurd declares silent
    · exact Or.inr ⟨_, descends_iff.2 ⟨apart.symm, _, chain⟩, here⟩
  · rintro (own | ⟨sub, below, here⟩)
    · exact .seen (.own own)
    · obtain ⟨other, own⟩ := declares
      obtain ⟨apart, n, chain⟩ := descends_iff.1 below
      exact .below (.own own) apart.symm chain here

/-- A call on a class that does not declare the shape offers what the second pass files. -/
theorem offers_iff_of_silent (silent : ¬Declares classes shape name) :
    Offers classes shape name method ↔
      Inherits classes (.ofClasses classes) name shape method := by
  rw [inherits_iff]
  constructor
  · rintro ((own | @⟨ancestor, n, -, nearest, here⟩) | ⟨sees, apart, chain, here⟩)
    · exact absurd ⟨method, own⟩ silent
    · exact ⟨n, ancestor, nearest, Or.inl ⟨ancestor, (isNearest_iff.1 nearest).1, here⟩⟩
    · cases sees with
      | own own => exact absurd ⟨_, own⟩ silent
      | inherited _ nearest _ =>
          exact ⟨_, _, nearest, Or.inr ⟨_, descends_iff.2 ⟨apart.symm, _, chain⟩, here⟩⟩
  · rintro ⟨n, first, nearest, ⟨ancestor, below, here⟩ | ⟨sub, below, here⟩⟩
    · refine .seen (.inherited silent (isNearest_iff.2 ⟨below, ⟨method, here⟩, ?_⟩) here)
      exact (isNearest_iff.1 nearest).2.2
    · obtain ⟨other, own⟩ := nearest.declares
      obtain ⟨apart, m, chain⟩ := descends_iff.1 below
      exact .below (.inherited silent nearest own) apart.symm chain here

/-- A name is that of a class of the program that lacks a shape. -/
theorem exists_lacks_iff : (∃ cls ∈ classes.toList, cls.name = name ∧ Lacks cls shape) ↔
    name ∈ classes.names ∧ ¬Declares classes shape name := by
  rw [declares_iff_exists_class]
  constructor
  · rintro ⟨cls, listed, rfl, lacks⟩
    have found := mem_toList_iff.1 listed
    refine ⟨Table.mem_keys_of_get? found, ?_⟩
    rintro ⟨other, listed', named, own, mem, same⟩
    have found' := mem_toList_iff.1 listed'
    rw [named] at found'
    cases found.symm.trans found'
    exact Bool.false_ne_true ((lacks own mem).symm.trans same)
  · rintro ⟨known, none⟩
    obtain ⟨cls, found⟩ := Table.contains_iff.1 (Table.mem_keys_iff.1 known)
    have named : cls.name = name := (classes.named _ (Table.get?_eq_some_iff.1 found)).symm
    subst named
    have listed := mem_toList_iff.2 found
    refine ⟨cls, listed, rfl, fun mine mem => Bool.eq_false_of_not_eq_true fun same => ?_⟩
    exact none ⟨cls, listed, rfl, mine, mem, same⟩

/-- Under a class, a name and a number of parameters the table holds what a call offers. -/
theorem mem_filed_ofClasses :
    method ∈ (ofClasses classes (.ofClasses classes)).filed (.ofShape name shape) ↔
      Offers classes shape name method := by
  rw [ofClasses, mem_filed_foldl mem_filed_inheritAll, mem_filed_ofDeclared]
  by_cases declares : Declares classes shape name
  · rw [offers_iff_of_declares declares, and_iff_right declares]
    refine or_iff_left ?_
    rintro ⟨cls, listed, adds, -⟩
    exact (exists_lacks_iff.1 ⟨cls, listed, adds⟩).2 declares
  · rw [offers_iff_of_silent declares, or_iff_right fun first => declares first.1]
    constructor
    · rintro ⟨cls, listed, adds, filed⟩
      exact filed
    · intro filed
      have offers := (offers_iff_of_silent declares).2 filed
      obtain ⟨cls, listed, adds⟩ := exists_lacks_iff.2 ⟨offers.mem_names, declares⟩
      exact ⟨cls, listed, adds, filed⟩

end DispatchTable

namespace Dispatch

variable {classes : ClassTable} {shape method : Signature} {name : String}

/-- The candidates of a call are the declarations it offers. -/
theorem mem_candidates_iff_offers : method ∈ (ofClasses classes).candidates name shape ↔
    Offers classes shape name method :=
  DispatchTable.mem_filed_ofClasses

/-- What the two passes have filed for a call is what can be listed for it alone. -/
theorem candidates_eq_offered :
    (ofClasses classes).candidates name shape = offered classes name shape :=
  eq_of_increasing (SortedSet.increasing _) offered_pairwise fun _ =>
    mem_candidates_iff_offers.trans mem_offered.symm

theorem candidates_nodup : ((ofClasses classes).candidates name shape).Nodup := by
  refine (SortedSet.increasing _).imp fun {first second} less same => ?_
  have equal : compare first second = .eq := same ▸ Std.ReflCmp.compare_self
  cases equal.symm.trans less

/-- There are candidates if the class sees any declaration. -/
theorem candidates_ne_nil_iff : (ofClasses classes).candidates name shape ≠ [] ↔
    ∃ method, Sees classes shape name method := by
  rw [← List.isEmpty_eq_false_iff, List.isEmpty_eq_false_iff_exists_mem]
  constructor
  · rintro ⟨method, mem⟩
    exact (mem_candidates_iff_offers.1 mem).exists_sees
  · rintro ⟨method, sees⟩
    exact ⟨method, mem_candidates_iff_offers.2 (.seen sees)⟩

/-- Candidates depend on the shape of a signature alone. -/
theorem candidates_congr {shape' : Signature} (sameName : shape.name = shape'.name)
    (sameArity : shape.arity = shape'.arity) :
    (ofClasses classes).candidates name shape = (ofClasses classes).candidates name shape' := by
  rw [candidates, candidates, DispatchKey.ofShape, DispatchKey.ofShape, sameName, sameArity]

end Dispatch

end CallSearch
