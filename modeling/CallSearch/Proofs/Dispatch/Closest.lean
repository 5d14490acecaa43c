/-
# CallSearch.Proofs.Dispatch.Closest — the closest match of the call that enters a method

A call is matched by types alone, so a method need not be the closest match of the call
that enters it: a rival of the same class may take the same arguments as well and come
before it in the order of signatures (`head?_resolve_entryCall`).  Among the methods of
a class that is one with the same parameter types, so it differs in the type of its
result (`IsRival.params_eq`).
-/
import CallSearch.CallGraph
import CallSearch.Proofs.Dispatch

namespace CallSearch

set_option autoImplicit false

attribute [ext] Signature

/-! ## Types at no distance -/

namespace Hierarchy

variable {classes : ClassTable} {sub sup : String}

/-- The brackets that were taken off a name, put back on. -/
theorem append_dropBrackets (name : List Char) :
    (List.replicate (dropBrackets name).2 [']', '[']).flatten ++ (dropBrackets name).1 = name := by
  fun_induction dropBrackets name with
  | case1 rest element dimension dropped ih =>
      rw [dropped] at ih
      rw [List.replicate_succ, List.flatten_cons, List.append_assoc, ih]
      rfl
  | case2 name => rfl

/-- A type is told by its element type and its dimension. -/
theorem element_injective (same : element sub = element sup) : sub = sup := by
  obtain ⟨name, dimension⟩ := Prod.mk.inj same
  have backwards : sub.toList.reverse = sup.toList.reverse := by
    rw [← append_dropBrackets sub.toList.reverse, ← append_dropBrackets sup.toList.reverse,
      dimension, List.reverse_injective (String.ofList_injective name)]
  exact String.toList_injective (List.reverse_injective backwards)

section Check

variable (hierarchy : Hierarchy)

theorem isA_self (type : String) : hierarchy.isA type type = some 0 := by
  rw [isA, if_pos (by simp)]

theorem isA_of_void (apart : sub ≠ sup) (noValue : sub = voidType ∨ sup = voidType) :
    hierarchy.isA sub sup = none := by
  rw [isA, if_neg (by simpa using apart), if_pos (by simpa using noValue)]

theorem isA_null (apart : "null" ≠ sup) (value : sup ≠ voidType) :
    hierarchy.isA "null" sup = if isPrimitive sup then none else some 0 := by
  have values : ¬("null" = voidType ∨ sup = voidType) := not_or.2 ⟨by decide, value⟩
  rw [isA, if_neg (by simpa using apart), if_neg (by simpa using values), if_pos (by simp)]

/-- Other types are as far apart as their elements. -/
theorem isA_of_value (apart : sub ≠ sup) (notNull : sub ≠ "null") (subValue : sub ≠ voidType)
    (supValue : sup ≠ voidType) :
    hierarchy.isA sub sup = if (element sub).2 = (element sup).2 then
      hierarchy.distance? (element sup).1 (element sub).1 else none := by
  rw [isA, if_neg (by simpa using apart), if_neg (by simpa using ⟨subValue, supValue⟩),
    if_neg (by simpa using notNull)]
  by_cases dimension : (element sub).2 = (element sup).2
  · have other : (element sub).1 ≠ (element sup).1 := fun name =>
      apart (element_injective (Prod.ext name dimension))
    simp [dimension, other]
  · simp [dimension]

end Check

/-- A proper ancestor is some distance away. -/
theorem distance?_ne_zero : (ofClasses classes).distance? sup sub ≠ some 0 := by
  intro none
  obtain ⟨ancestors, found, near⟩ := Option.bind_eq_some_iff.1 none
  obtain ⟨-, rfl⟩ := get?_ancestors.1 found
  exact absurd (lookup_ancestorsOf.1 near).1 (by decide)

/-- Only `null` is at no distance from another type. -/
theorem eq_of_isA_zero (proper : sub ≠ "null") (near : (ofClasses classes).isA sub sup = some 0) :
    sub = sup := by
  by_contra apart
  by_cases noValue : sub = voidType ∨ sup = voidType
  · cases (isA_of_void _ apart noValue).symm.trans near
  obtain ⟨subValue, supValue⟩ := not_or.1 noValue
  rw [isA_of_value _ apart proper subValue supValue] at near
  split at near
  · exact distance?_ne_zero near
  · cases near

end Hierarchy

namespace Dispatch

/-! ## Matches -/

instance : Std.TransOrd Match :=
  inferInstanceAs (Std.TransCmp (compareLex (compareOn Match.distance) (compareOn Match.target)))

instance : Std.LawfulEqOrd Match where
  compare_self := Std.ReflCmp.compare_self
  eq_of_compare {a b} h := by
    have parts : (compare a.distance b.distance).then (compare a.target b.target) = .eq := h
    simp only [Ordering.then_eq_eq, Std.LawfulEqCmp.compare_eq_iff_eq] at parts
    cases a
    cases b
    simpa using parts

theorem argumentDistance_self (hierarchy : Hierarchy) (params : List String) :
    argumentDistance hierarchy params params = some 0 := by
  induction params with
  | nil => rfl
  | cons param params ih => rw [argumentDistance, hierarchy.isA_self, ih]; rfl

/-- Arguments of proper types are at no distance from parameters of these types alone. -/
theorem eq_of_argumentDistance_zero {classes : ClassTable} {args params : List String}
    (lengths : args.length = params.length) (proper : "null" ∉ args)
    (near : argumentDistance (.ofClasses classes) args params = some 0) : args = params := by
  induction args generalizing params with
  | nil => exact (List.length_eq_zero_iff.1 lengths.symm).symm
  | cons arg args ih =>
      cases params with
      | nil => cases lengths
      | cons param params =>
          obtain ⟨first, rest⟩ := not_or.1 (List.mem_cons.not.1 proper)
          rw [argumentDistance] at near
          obtain ⟨m, here, near⟩ := Option.bind_eq_some_iff.1 near
          obtain ⟨n, there, total⟩ := Option.bind_eq_some_iff.1 near
          obtain ⟨rfl, rfl⟩ := Nat.add_eq_zero_iff.1 (Option.some.inj total)
          rw [Hierarchy.eq_of_isA_zero (Ne.symm first) here,
            ih (Nat.succ.inj lengths) rest there]

/-- A candidate matches a call if the class of a static call is its own and the types fit. -/
theorem match?_eq_some_iff {dispatch : Dispatch} {call : Invocation} {candidate : Signature}
    {found : Match} : dispatch.match? call candidate = some found ↔
      (call.kind = .static → candidate.owner = call.callee.owner) ∧
      argumentDistance dispatch.hierarchy call.callee.params candidate.params =
        some found.distance ∧
      (call.callee.result ≠ voidType →
        (dispatch.hierarchy.isA candidate.result call.callee.result).isSome = true) ∧
      candidate = found.target := by
  obtain ⟨distance, target⟩ := found
  rw [match?]
  by_cases elsewhere : call.kind = .static ∧ candidate.owner ≠ call.callee.owner
  · simp [elsewhere]
  have stays : call.kind = .static → candidate.owner = call.callee.owner := fun isStatic =>
    not_not.1 fun other => elsewhere ⟨isStatic, other⟩
  rw [and_iff_right stays, if_neg elsewhere]
  cases argumentDistance dispatch.hierarchy call.callee.params candidate.params with
  | none => simp
  | some near =>
      by_cases dropped : call.callee.result = voidType
      · simp [dropped]
      · cases dispatch.hierarchy.isA candidate.result call.callee.result <;> simp [dropped]

/-- What a call resolves to first is the candidate that matches it best. -/
theorem head?_resolve {dispatch : Dispatch} {call : Invocation} {first : Signature} :
    (dispatch.resolve call).head? = some first ↔
      ∃ found, found.target = first ∧
        first ∈ dispatch.candidates call.callee.owner call.callee ∧
        dispatch.match? call first = some found ∧
        ∀ candidate ∈ dispatch.candidates call.callee.owner call.callee, ∀ other,
          dispatch.match? call candidate = some other → (compare found other).isLE = true := by
  rw [resolve, List.head?_map, Option.map_eq_some_iff]
  refine exists_congr fun found => ?_
  rw [head?_sortAscending, and_comm]
  refine and_congr_right fun target => ?_
  subst target
  simp only [List.mem_filterMap]
  constructor
  · rintro ⟨⟨candidate, mem, matched⟩, least⟩
    obtain rfl := (match?_eq_some_iff.1 matched).2.2.2
    exact ⟨mem, matched, fun candidate mem other matched => least other ⟨candidate, mem, matched⟩⟩
  · rintro ⟨mem, matched, least⟩
    exact ⟨⟨_, mem, matched⟩, fun other ⟨candidate, mem, matched⟩ =>
      least candidate mem other matched⟩

/-! ## Entering a method -/

/-- Another candidate of the call that enters a method, of the same class: it takes the parameters
of the method as they are, its result fits, and it comes first in the order of signatures. -/
structure IsRival (dispatch : Dispatch) (method other : Signature) : Prop where
  candidate : other ∈ dispatch.candidates method.owner method
  sameOwner : other.owner = method.owner
  near : argumentDistance dispatch.hierarchy method.params other.params = some 0
  fits : method.result ≠ voidType →
    (dispatch.hierarchy.isA other.result method.result).isSome = true
  earlier : compare other method = .lt

/-- A method is the closest match of the call that enters it if it is a candidate and has no
rival. -/
theorem head?_resolve_entryCall {dispatch : Dispatch} {method : Signature} :
    (dispatch.resolve (entryCall method)).head? = some method ↔
      method ∈ dispatch.candidates method.owner method ∧
        ∀ other, ¬dispatch.IsRival method other := by
  have itself : dispatch.match? (entryCall method) method = some ⟨0, method⟩ :=
    match?_eq_some_iff.2 ⟨fun _ => rfl, argumentDistance_self _ _, fun _ => by
      rw [entryCall, Hierarchy.isA_self]; rfl, rfl⟩
  have compared : ∀ other : Match, (compare (⟨0, method⟩ : Match) other).isLE = true ↔
      ¬(other.distance = 0 ∧ compare other.target method = .lt) := by
    rintro ⟨distance, target⟩
    have unfolded : compare (⟨0, method⟩ : Match) ⟨distance, target⟩ =
        (compare 0 distance).then (compare method target) := rfl
    have swapped : compare target method = (compare method target).swap := Std.OrientedCmp.eq_swap
    rw [unfolded, swapped]
    cases distance with
    | zero => cases compare method target <;> simp
    | succ distance => simp [Nat.compare_eq_lt.2 (Nat.succ_pos distance)]
  rw [head?_resolve]
  constructor
  · rintro ⟨found, -, mem, matched, least⟩
    cases itself.symm.trans matched
    refine ⟨mem, fun other rival => (compared ⟨0, other⟩).1 (least other rival.candidate _ ?_)
      ⟨rfl, rival.earlier⟩⟩
    exact match?_eq_some_iff.2 ⟨fun _ => rival.sameOwner, rival.near, rival.fits, rfl⟩
  · rintro ⟨mem, unrivalled⟩
    refine ⟨⟨0, method⟩, rfl, mem, itself, fun candidate listed other matched => ?_⟩
    obtain ⟨stays, near, fits, rfl⟩ := match?_eq_some_iff.1 matched
    refine (compared other).2 fun ⟨nothing, earlier⟩ => unrivalled other.target ?_
    exact ⟨listed, stays rfl, nothing ▸ near, fits, earlier⟩

section Classes

variable {classes : ClassTable} {method other : Signature}

theorem sameShape_of_mem_candidates {name : String} {shape : Signature}
    (mem : method ∈ (ofClasses classes).candidates name shape) :
    method.name = shape.name ∧ method.arity = shape.arity := by
  obtain ⟨-, holder, -, here⟩ := mem_candidates_iff.1 mem
  exact ⟨here.sameName, here.sameArity⟩

/-- A rival of a method has the same parameter types. -/
theorem IsRival.params_eq (rival : (ofClasses classes).IsRival method other)
    (proper : "null" ∉ method.params) : other.params = method.params := by
  have lengths := (sameShape_of_mem_candidates rival.candidate).2
  exact (eq_of_argumentDistance_zero lengths.symm proper rival.near).symm

/-- No other method of its class has the name and the parameter types of a method, and none of
these is the type of `null`. -/
structure DeterminesResult (classes : ClassTable) (method : Signature) : Prop where
  proper : "null" ∉ method.params
  result : ∀ cls, classes.get? method.owner = some cls → ∀ other ∈ cls.methods,
    other.signature.name = method.name → other.signature.params = method.params →
    other.signature.result = method.result

/-- A method that tells its result by its name and parameter types has no rival. -/
theorem DeterminesResult.not_isRival (determines : DeterminesResult classes method)
    (owned : classes.Owned) : ¬(ofClasses classes).IsRival method other := by
  intro rival
  obtain ⟨-, holder, -, here⟩ := mem_candidates_iff.1 rival.candidate
  obtain rfl := here.owner_eq owned
  obtain ⟨cls, found, own, listed, rfl⟩ := here.listed
  have name := (sameShape_of_mem_candidates rival.candidate).1
  have params := rival.params_eq determines.proper
  have result := determines.result cls (rival.sameOwner ▸ found) own listed name params
  have same : own.signature = method := Signature.ext rival.sameOwner result name params
  have equal : compare own.signature method = .eq := same ▸ Std.ReflCmp.compare_self
  cases equal.symm.trans rival.earlier

/-- A method of a class is a candidate of the call that enters it. -/
theorem mem_candidates_self {cls : Class} (found : classes.get? method.owner = some cls)
    {own : Method} (mem : own ∈ cls.methods) (same : own.signature = method) :
    method ∈ (ofClasses classes).candidates method.owner method :=
  mem_candidates_iff_offers.2 (.seen (.own ⟨⟨cls, found, own, mem, same⟩, rfl, rfl⟩))

end Classes

end Dispatch

end CallSearch
