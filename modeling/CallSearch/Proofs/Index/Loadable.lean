/-
# CallSearch.Proofs.Index.Loadable — when an index that was built is accepted

Every node of an index that was built has a body and a summary, so all that can be wrong
with it are its roots.  These are the trees of the methods that the calls of the entry
points resolve to, and a call that enters a method need not resolve to it: the index is
accepted exactly where every entry point is the closest match of its call
(`validate_build`).  A method with another of the same name and parameter types in its
class may not be (`validate_sampleOverloaded`).
-/
import CallSearch.Proofs.Dispatch.Closest
import CallSearch.Proofs.Index.Matching
import CallSearch.Proofs.Index.Validate

namespace CallSearch

set_option autoImplicit false

/-- Entry points are methods of the program. -/
theorem ClassTable.exists_method_of_mem_entryPoints {classes : ClassTable} {named : List String}
    {entryPoint : Signature} (mem : entryPoint ∈ classes.entryPoints named) :
    ∃ name cls, classes.get? name = some cls ∧ ∃ own ∈ cls.methods, own.signature = entryPoint := by
  have declared : ∀ {kept : ClassTable}, (∀ entry ∈ kept.table.entries,
      entry ∈ classes.table.entries) → entryPoint ∈ kept.declaredMethods →
      ∃ name cls, classes.get? name = some cls ∧
        ∃ own ∈ cls.methods, own.signature = entryPoint := by
    intro kept sub mem
    obtain ⟨own, listed, same⟩ := List.mem_map.1 ((List.mergeSort_perm _ _).mem_iff.1 mem)
    obtain ⟨cls, here, inside⟩ := List.mem_flatMap.1 (List.mem_filter.1 listed).1
    obtain ⟨⟨name, cls⟩, entry, rfl⟩ := List.mem_map.1 here
    exact ⟨name, cls, Table.get?_eq_some_iff.2 (sub _ entry), own, inside, same⟩
  rw [entryPoints] at mem
  split at mem
  · exact declared (fun _ => id) (List.mem_filter.1 mem).1
  · exact declared (fun _ listed => (List.mem_filter.1 listed).1) mem

/-- What an entry point resolves to is the closest match of the call that enters it. -/
theorem head?_resolve_of_resolveEntry {trees : MethodTrees} {dispatch : Dispatch}
    {entryPoint root : Signature} (h : resolveEntry trees dispatch entryPoint = .ok root) :
    (dispatch.resolve (entryCall entryPoint)).head? = some root := by
  rw [resolveEntry] at h
  split at h
  · next first rest resolved =>
    split at h
    · cases h
      rw [resolved, List.head?_cons]
    · cases h
  · cases h

namespace Index

variable {config : AnalysisConfig} {classes : ClassTable} {entryPoints : List Signature}
  {index : Index}

/-- The roots of an index that was built are the closest matches of its entry points. -/
theorem roots_of_build (h : (build config classes entryPoints).result = .ok index) :
    index.entryPoints = entryPoints ∧ List.Forall₂ (fun entryPoint root =>
      ((Dispatch.ofClasses classes).resolve (entryCall entryPoint)).head? =
        some (CallNode.callee root)) entryPoints index.forest.roots := by
  obtain ⟨trees, -, h⟩ := Logged.result_bind.1 h
  obtain ⟨forest, built, h⟩ := Logged.result_bind.1 h
  obtain ⟨-, -, h⟩ := Logged.result_bind.1 h
  obtain rfl := Logged.result_pure.1 h
  obtain ⟨roots, resolved, rfl⟩ := Forest.exists_roots_of_build built
  refine ⟨rfl, ?_⟩
  have expanded := (Forest.expandRoots_spec
    (Forest.sourceOf config trees (.ofClasses classes) roots) roots).2
  have callees : List.Forall₂ (fun root node => root = CallNode.callee node) roots _ :=
    expanded.imp fun root node entered => by rw [CallNode.callee, entered.1]; rfl
  rw [← List.forall₂_map_right_iff, List.forall₂_eq_eq_eq] at callees
  have closest := resolved.imp fun _ _ => head?_resolve_of_resolveEntry
  rw [callees, List.forall₂_map_right_iff] at closest
  exact closest

/-- In an index that was built every node that can be reached has a body and a summary. -/
theorem complete_of_build (h : (build config classes entryPoints).result = .ok index)
    {node : CallNode} (reachable : index.forest.Reachable node) :
    (index.forest.body? node).isSome = true ∧ index.summaries.contains node.key = true := by
  obtain ⟨source, arena, expansion, summaries⟩ := exists_expansion_of_build h
  obtain ⟨summary, found, -⟩ := expansion.exists_summary reachable.mem_nodes
  exact ⟨expansion.body?_isSome reachable,
    Table.contains_iff.2 ⟨summary, summaries ▸ found⟩⟩

/-- All that can be wrong with an index that was built are its roots. -/
theorem fault?_eq_rootFault?_of_build
    (h : (build config classes entryPoints).result = .ok index) :
    index.fault? = index.rootFault? := by
  have met : index.forest.visits.findSome? index.nodeFault? = none :=
    List.findSome?_eq_none_iff.2 fun node mem =>
      nodeFault?_eq_none_iff.2 (complete_of_build h (Forest.reachable_of_mem_visits mem))
  rw [fault?, met, Option.or_none]

/-- An index that was built is accepted exactly where its entry points are the closest matches of
the calls that enter them. -/
theorem validate_eq_ok_iff_of_build
    (h : (build config classes entryPoints).result = .ok index) :
    index.validate = .ok () ↔ ∀ entryPoint ∈ entryPoints,
      ((Dispatch.ofClasses classes).resolve (entryCall entryPoint)).head? = some entryPoint := by
  obtain ⟨same, roots⟩ := roots_of_build h
  have accepted : index.validate = .ok () ↔ index.rootFault? = none := by
    rw [validate, fault?_eq_rootFault?_of_build h]
    cases index.rootFault? <;> simp
  rw [accepted, rootFault?_eq_none_iff, same]
  generalize index.forest.roots = nodes at roots ⊢
  clear h same
  induction roots with
  | nil => simp
  | cons first _ ih =>
      rw [List.map_cons, List.cons.injEq, List.forall_mem_cons, first, Option.some.injEq]
      exact and_congr eq_comm ih

/-- What is wrong with an index that is refused though it was built: an entry point resolves to
another method. -/
theorem exists_rootMismatch_of_build
    (h : (build config classes entryPoints).result = .ok index) {failure : Failure}
    (refused : index.validate = .error failure) :
    ∃ entryPoint ∈ entryPoints, ∃ found, found ≠ entryPoint ∧
      ((Dispatch.ofClasses classes).resolve (entryCall entryPoint)).head? = some found ∧
      failure = .inconsistentIndex (.rootMismatch found entryPoint) := by
  obtain ⟨rfl, roots⟩ := roots_of_build h
  rw [validate, fault?_eq_rootFault?_of_build h, rootFault?,
    if_neg (by simpa using roots.length_eq)] at refused
  split at refused
  · next fault faulty =>
    cases refused
    obtain ⟨⟨entryPoint, root⟩, paired, mismatch⟩ := List.exists_of_findSome?_eq_some faulty
    have found := (List.forall₂_iff_zip.1 roots).2 paired
    dsimp only at mismatch
    split at mismatch
    · next other =>
      cases mismatch
      exact ⟨entryPoint, (List.of_mem_zip paired).1, root.callee,
        fun same => by simp [same] at other, found, rfl⟩
    · cases mismatch
  · cases refused

/-- An index built from the entry points of a program is complete below its roots, and accepted
exactly where every entry point is a candidate of its own call without a rival; otherwise the error
names the entry point and the method found in its place.  Where classes have their methods filed
under their own names and no entry point shares its class, name and parameter types with a method
of another result, the index is accepted. -/
theorem validate_build {named : List String}
    (h : (build config classes (classes.entryPoints named)).result = .ok index) :
    (∀ node, index.forest.Reachable node →
        (index.forest.body? node).isSome = true ∧ index.summaries.contains node.key = true) ∧
      (index.validate = .ok () ↔ ∀ entryPoint ∈ classes.entryPoints named,
        entryPoint ∈ (Dispatch.ofClasses classes).candidates entryPoint.owner entryPoint ∧
          ∀ other, ¬(Dispatch.ofClasses classes).IsRival entryPoint other) ∧
      (∀ failure, index.validate = .error failure → ∃ entryPoint ∈ classes.entryPoints named,
        ∃ found, found ≠ entryPoint ∧
          ((Dispatch.ofClasses classes).resolve (entryCall entryPoint)).head? = some found ∧
          failure = .inconsistentIndex (.rootMismatch found entryPoint)) ∧
      (classes.Owned → (∀ entryPoint ∈ classes.entryPoints named,
        Dispatch.DeterminesResult classes entryPoint) → index.validate = .ok ()) := by
  have accepted := validate_eq_ok_iff_of_build h
  simp only [Dispatch.head?_resolve_entryCall] at accepted
  refine ⟨fun node => complete_of_build h, accepted, fun failure =>
    exists_rootMismatch_of_build h, fun owned determines => accepted.2 fun entryPoint mem => ?_⟩
  obtain ⟨name, cls, found, own, listed, rfl⟩ := ClassTable.exists_method_of_mem_entryPoints mem
  obtain rfl := owned name cls found own listed
  exact ⟨Dispatch.mem_candidates_self found listed rfl,
    fun other => (determines _ mem).not_isRival owned⟩

/-- A method with a result, by the name of the method that runs a task. -/
def sampleOverload (params : List String) : Signature :=
  { owner := "a.A", result := "int", name := "run", params }

/-- A task whose run method is overloaded. -/
def sampleTask (params : List String) : ClassTable :=
  .ofList [sampleClass [⟨sampleOverload params, ∅, some []⟩, sampleDefinition "run" []]]

/-- An overload with other parameters does no harm. -/
theorem validate_build_sampleTask :
    ∃ index, (build {} (sampleTask ["int"]) ((sampleTask ["int"]).entryPoints [])).result =
      .ok index ∧ index.forest.roots.length = 1 ∧ index.validate = .ok () := by
  obtain ⟨index, built, rooted⟩ := Logged.exists_ok_of_map (show
    (build {} (sampleTask ["int"]) ((sampleTask ["int"]).entryPoints [])).result.toOption.map
      (fun index => index.forest.roots.length) = some 1 by cbv)
  have entered : (sampleTask ["int"]).entryPoints [] = [sampleMethod "run"] := by cbv
  have single : ∀ entry ∈ (sampleTask ["int"]).table.entries, ∀ own ∈ entry.2.methods,
      own.signature.owner = entry.1 ∧ (own.signature.name = "run" → own.signature.params = [] →
        own.signature.result = voidType) := by decide +kernel
  obtain ⟨-, -, -, accepted⟩ := validate_build built
  refine ⟨index, built, rooted, accepted (fun name cls found own mem => ?_) fun entry mem => ?_⟩
  · exact (single _ (Table.get?_eq_some_iff.1 found) own mem).1
  · rw [entered, List.mem_singleton] at mem
    subst mem
    exact ⟨by decide, fun cls found own mem =>
      (single _ (Table.get?_eq_some_iff.1 found) own mem).2⟩

/-- The run method is the entry point of the task, but the tree found for it is that of an overload
with the same parameters. -/
theorem validate_sampleOverloaded :
    ∃ index, (build {} (sampleTask []) ((sampleTask []).entryPoints [])).result = .ok index ∧
      index.entryPoints = [sampleMethod "run"] ∧
      index.validate = .error (.inconsistentIndex
        (.rootMismatch (sampleOverload []) (sampleMethod "run"))) := by
  obtain ⟨index, built, refused⟩ := Logged.exists_ok_of_map (show
    (build {} (sampleTask []) ((sampleTask []).entryPoints [])).result.toOption.map
      (fun index => (index.entryPoints, index.validate)) = some ([sampleMethod "run"],
        .error (.inconsistentIndex (.rootMismatch (sampleOverload []) (sampleMethod "run")))) by
    cbv)
  exact ⟨index, built, congrArg Prod.fst refused, congrArg Prod.snd refused⟩

end Index

end CallSearch
