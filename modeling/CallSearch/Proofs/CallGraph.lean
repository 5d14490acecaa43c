/-
# CallSearch.Proofs.CallGraph — calls between methods

`Calls` is the relation the call graph stands for, stated by the trees and the
dispatch alone.  The recursive methods found from an entry point are those it reaches
that lie on a cycle through another method, or call themselves if that counts:
`recursiveMethods_exact`.
-/
import CallSearch.Proofs.CallGraph.Search
import CallSearch.Proofs.Sample
import CallSearch.Proofs.Sorted

namespace CallSearch

set_option autoImplicit false

open Relation

/-- A call in the tree of the first method may land on the second, which has a tree. -/
def Calls (trees : MethodTrees) (dispatch : Dispatch) (caller callee : Signature) : Prop :=
  ∃ tree, trees.get? caller = some tree ∧
    (∃ call ∈ tree.leaves, callee ∈ dispatch.resolve call) ∧ trees.contains callee = true

theorem Calls.contains {trees : MethodTrees} {dispatch : Dispatch} {caller callee : Signature}
    (called : Calls trees dispatch caller callee) : trees.contains callee = true := by
  obtain ⟨-, -, -, contained⟩ := called
  exact contained

/-- A call in the tree of a method. -/
def HasCall (trees : MethodTrees) (method : Signature) (call : Invocation) : Prop :=
  ∃ tree, trees.get? method = some tree ∧ call ∈ tree.leaves

theorem HasCall.calls {trees : MethodTrees} {dispatch : Dispatch} {method target : Signature}
    {call : Invocation} (has : HasCall trees method call) (lands : target ∈ dispatch.resolve call)
    (contained : trees.contains target = true) : Calls trees dispatch method target := by
  obtain ⟨tree, found, mem⟩ := has
  exact ⟨tree, found, ⟨call, mem, lands⟩, contained⟩

/-- The second method is reached from the first by any number of calls. -/
abbrev Reaches (trees : MethodTrees) (dispatch : Dispatch) : Signature → Signature → Prop :=
  ReflTransGen (Calls trees dispatch)

/-- What is reached has a tree. -/
theorem contains_of_reaches {trees : MethodTrees} {dispatch : Dispatch} {root method : Signature}
    (path : Reaches trees dispatch root method) (contained : trees.contains root = true) :
    trees.contains method = true := by
  rcases ReflTransGen.cases_tail path with rfl | ⟨_, -, called⟩
  · exact contained
  · exact called.contains

/-- A way to another element has a first step that leaves the start for good. -/
theorem exists_first_step {α : Type} {step : α → α → Prop} {a b : α} (path : ReflTransGen step a b)
    (apart : a ≠ b) : ∃ c, step a c ∧ c ≠ a ∧ ReflTransGen step c b := by
  induction path using ReflTransGen.head_induction_on with
  | refl => exact absurd rfl apart
  | @head a c first rest ih =>
      by_cases same : c = a
      · subst same
        exact ih apart
      · exact ⟨c, first, same, rest⟩

namespace CallGraph

variable {trees : MethodTrees} {dispatch : Dispatch}

theorem get?_edges {caller : Signature} {callees : List Signature} :
    (ofTrees trees dispatch).edges.get? caller = some callees ↔
      ∃ tree, trees.get? caller = some tree ∧
        (tree.leaves.flatMap dispatch.resolve).filter trees.contains = callees := by
  have distinct : ((trees.entries.map fun entry =>
      (entry.1, (entry.2.leaves.flatMap dispatch.resolve).filter trees.contains)).map
        Prod.fst).Nodup := by
    rw [List.map_map]
    exact trees.nodup_keys
  rw [ofTrees, Table.get?_ofList distinct, List.mem_map]
  constructor
  · rintro ⟨⟨_, tree⟩, listed, same⟩
    cases same
    exact ⟨tree, Table.get?_eq_some_iff.2 listed, rfl⟩
  · rintro ⟨tree, found, rfl⟩
    exact ⟨(caller, tree), Table.get?_eq_some_iff.1 found, rfl⟩

/-- The edges of the call graph are the calls. -/
theorem mem_targets {caller callee : Signature} :
    callee ∈ (ofTrees trees dispatch).targets caller ↔ Calls trees dispatch caller callee := by
  rw [targets]
  constructor
  · intro mem
    cases found : (ofTrees trees dispatch).edges.get? caller with
    | none =>
        rw [found] at mem
        cases mem
    | some callees =>
        obtain ⟨tree, found', rfl⟩ := get?_edges.1 found
        rw [found, Option.getD_some, List.mem_filter] at mem
        exact ⟨tree, found', List.mem_flatMap.1 mem.1, mem.2⟩
  · rintro ⟨tree, found, call, contained⟩
    rw [get?_edges.2 ⟨tree, found, rfl⟩, Option.getD_some]
    exact List.mem_filter.2 ⟨List.mem_flatMap.2 call, contained⟩

theorem mem_keys_edges {method : Signature} :
    method ∈ (ofTrees trees dispatch).edges.keys ↔ trees.contains method = true := by
  rw [Table.mem_keys_iff, Table.contains_iff, Table.contains_iff]
  constructor
  · rintro ⟨callees, found⟩
    obtain ⟨tree, found, -⟩ := get?_edges.1 found
    exact ⟨tree, found⟩
  · rintro ⟨tree, found⟩
    exact ⟨_, get?_edges.2 ⟨tree, found, rfl⟩⟩

theorem mem_keys_of_edge {caller target : Signature}
    (edge : (ofTrees trees dispatch).Edge caller target) :
    target ∈ (ofTrees trees dispatch).edges.keys := by
  obtain ⟨_, -, -, contained⟩ := mem_targets.1 edge
  exact mem_keys_edges.2 contained

theorem size_edges_le : (ofTrees trees dispatch).edges.size ≤ trees.size := by
  have inside : (ofTrees trees dispatch).edges.keys ⊆ trees.keys := fun _ mem =>
    Table.mem_keys_iff.2 (mem_keys_edges.1 mem)
  have bound := (Table.nodup_keys _).length_le_of_subset inside
  rwa [Table.keys, Table.keys, List.length_map, List.length_map] at bound

/-- The search from a method with a tree finds the recursive methods that it reaches. -/
theorem mem_recursiveFrom {root method : Signature} (directRecursion : Bool)
    (contained : trees.contains root = true) :
    method ∈ (ofTrees trees dispatch).recursiveFrom directRecursion root ↔
      Reaches trees dispatch root method ∧
        Recursive (Calls trees dispatch) directRecursion method := by
  have edges : (ofTrees trees dispatch).Edge = Calls trees dispatch :=
    funext fun caller => funext fun callee => propext mem_targets
  rw [recursiveFrom, mem_sortUnique,
    mem_recursive_dig mem_keys_of_edge (mem_keys_edges.2 contained), LeadsTo, edges]

end CallGraph

theorem contains_of_resolveEntry {trees : MethodTrees} {dispatch : Dispatch}
    {entryPoint root : Signature} (h : resolveEntry trees dispatch entryPoint = .ok root) :
    trees.contains root = true := by
  rw [resolveEntry] at h
  split at h
  · split at h
    · next contained =>
      cases h
      exact contained
    · cases h
  · cases h

/-! ## The order of calls -/

/-- The same methods have trees, with the same calls in whatever order. -/
structure SameCalls (trees others : MethodTrees) : Prop where
  contains : ∀ method, others.contains method = trees.contains method
  hasCall : ∀ method call, HasCall others method call ↔ HasCall trees method call

namespace SameCalls

variable {trees others : MethodTrees} (same : SameCalls trees others)

include same

theorem symm : SameCalls others trees where
  contains method := (same.contains method).symm
  hasCall method call := (same.hasCall method call).symm

theorem calls {dispatch : Dispatch} {caller callee : Signature}
    (called : Calls trees dispatch caller callee) : Calls others dispatch caller callee := by
  obtain ⟨tree, found, ⟨call, mem, lands⟩, contained⟩ := called
  exact ((same.hasCall caller call).2 ⟨tree, found, mem⟩).calls lands
    ((same.contains callee).trans contained)

theorem calls_eq (dispatch : Dispatch) : Calls others dispatch = Calls trees dispatch :=
  funext fun _ => funext fun _ => propext ⟨same.symm.calls, same.calls⟩

theorem resolveEntry_eq (dispatch : Dispatch) (entryPoint : Signature) :
    resolveEntry others dispatch entryPoint = resolveEntry trees dispatch entryPoint := by
  unfold resolveEntry
  simp only [same.contains]

end SameCalls

/-! ## The recursive methods of an entry point -/

/-- From an entry point of a method with a tree the methods found are, each once, those reached
that lie on a cycle of calls through another method, or call themselves if that counts.  The
order of calls does not matter. -/
theorem recursiveMethods_exact {trees : MethodTrees} {dispatch : Dispatch}
    {entryPoint root : Signature} (directRecursion : Bool)
    (h : resolveEntry trees dispatch entryPoint = .ok root) :
    ∃ methods, recursiveMethods trees dispatch directRecursion entryPoint = .ok methods ∧
      (methods.Pairwise fun a b => compare a b = .lt) ∧
      (∀ method, method ∈ methods ↔ Reaches trees dispatch root method ∧
        CallGraph.Recursive (Calls trees dispatch) directRecursion method) ∧
      ∀ others, SameCalls trees others →
        recursiveMethods others dispatch directRecursion entryPoint = .ok methods := by
  have exact {trees' : MethodTrees} (h : resolveEntry trees' dispatch entryPoint = .ok root) :
      recursiveMethods trees' dispatch directRecursion entryPoint =
        .ok ((CallGraph.ofTrees trees' dispatch).recursiveFrom directRecursion root) := by
    rw [recursiveMethods, h]
    rfl
  refine ⟨_, exact h, sortUnique_pairwise _, fun method =>
    CallGraph.mem_recursiveFrom directRecursion (contains_of_resolveEntry h), fun others same => ?_⟩
  have h' := (same.resolveEntry_eq dispatch entryPoint).trans h
  have increasing {graph : CallGraph} :
      (graph.recursiveFrom directRecursion root).Pairwise fun a b => compare a b = .lt :=
    sortUnique_pairwise _
  rw [exact h', eq_of_increasing increasing increasing fun method => ?_]
  rw [CallGraph.mem_recursiveFrom directRecursion (contains_of_resolveEntry h'),
    CallGraph.mem_recursiveFrom directRecursion (contains_of_resolveEntry h), Reaches, Reaches,
    same.calls_eq]

/-! ## Two methods that call each other, and one that calls itself -/

namespace CallGraph

def sampleCalls (names : List String) : Tree Invocation :=
  .seq (names.map fun name => .leaf (sampleCall name))

def sampleTrees : MethodTrees :=
  .ofList [(sampleMethod "main", sampleCalls ["even", "log", "odd"]),
    (sampleMethod "even", sampleCalls ["odd"]), (sampleMethod "odd", sampleCalls ["even", "log"]),
    (sampleMethod "log", sampleCalls ["log"])]

def sampleDispatch : Dispatch :=
  .ofClasses (.ofList [sampleClass (["main", "even", "odd", "log"].map fun name =>
    ⟨sampleMethod name, ∅, none⟩)])

end CallGraph

open CallGraph in
/-- The methods that call each other are found, the method that calls itself is not. -/
theorem recursiveMethods_exact_sample :
    resolveEntry sampleTrees sampleDispatch (sampleMethod "main") = .ok (sampleMethod "main") ∧
      recursiveMethods sampleTrees sampleDispatch false (sampleMethod "main") =
        .ok [sampleMethod "even", sampleMethod "odd"] ∧
      ∀ method, method ∈ [sampleMethod "even", sampleMethod "odd"] ↔
        Reaches sampleTrees sampleDispatch (sampleMethod "main") method ∧
          Recursive (Calls sampleTrees sampleDispatch) false method := by
  have entered : resolveEntry sampleTrees sampleDispatch (sampleMethod "main") =
      .ok (sampleMethod "main") := by decide +kernel
  have dug : ((ofTrees sampleTrees sampleDispatch).dig false
      (ofTrees sampleTrees sampleDispatch).edges.size (sampleMethod "main") .empty).recursive =
        [sampleMethod "even", sampleMethod "odd"] := by decide +kernel
  have sorted : sortUnique [sampleMethod "even", sampleMethod "odd"] =
      [sampleMethod "even", sampleMethod "odd"] := sortUnique_eq_self (by decide +kernel)
  have found : recursiveMethods sampleTrees sampleDispatch false (sampleMethod "main") =
      .ok [sampleMethod "even", sampleMethod "odd"] := by
    rw [recursiveMethods, entered, ← sorted, ← dug]
    rfl
  obtain ⟨methods, found', -, exact', -⟩ := recursiveMethods_exact false entered
  cases found.symm.trans found'
  exact ⟨entered, found, exact'⟩

end CallSearch
