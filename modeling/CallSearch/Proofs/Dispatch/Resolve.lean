/-
# CallSearch.Proofs.Dispatch.Resolve — what a call resolves to

Of the declarations that a call offers (`Offers`) it keeps the methods its types fit
(`Fits`), each once, by the summed distance of the arguments and then by signature:
`resolve_exact`.  On a name that is no class of the program it resolves to nothing.
-/
import CallSearch.Proofs.Dispatch.Closest
import Mathlib.Algebra.GroupWithZero.Nat
import Mathlib.Data.List.Forall2

namespace CallSearch.Dispatch

set_option autoImplicit false

variable {classes : ClassTable} {name : String} {method : Signature}

/-! ## Matches -/

/-- The types of a call fit a method: a static call stays on its class, each argument may stand for
its parameter, and the result for what is expected, unless the result is dropped. -/
structure Fits (classes : ClassTable) (call : Invocation) (method : Signature) : Prop where
  stays : call.kind = .static → method.owner = call.callee.owner
  arguments : List.Forall₂
    (fun arg param => ((Hierarchy.ofClasses classes).isA arg param).isSome = true)
    call.callee.params method.params
  result : call.callee.result ≠ voidType →
    ((Hierarchy.ofClasses classes).isA method.result call.callee.result).isSome = true

/-- How far the arguments of a call are from the parameters of a method that they fit. -/
def summedDistance (classes : ClassTable) (call : Invocation) (method : Signature) : Nat :=
  (List.zipWith (fun arg param => ((Hierarchy.ofClasses classes).isA arg param).getD 0)
    call.callee.params method.params).sum

theorem argumentDistance_eq_some_iff {hierarchy : Hierarchy} {args params : List String}
    (lengths : args.length = params.length) {total : Nat} :
    argumentDistance hierarchy args params = some total ↔
      List.Forall₂ (fun arg param => (hierarchy.isA arg param).isSome = true) args params ∧
        total =
          (List.zipWith (fun arg param => (hierarchy.isA arg param).getD 0) args params).sum := by
  induction args generalizing params total with
  | nil =>
      obtain rfl := List.length_eq_zero_iff.1 lengths.symm
      have none : argumentDistance hierarchy [] [] = some 0 := rfl
      rw [none, Option.some.injEq, List.zipWith_nil_left, List.sum_nil, and_iff_right .nil]
      exact eq_comm
  | cons arg args ih =>
      match params with
      | [] => cases lengths
      | param :: params =>
          have rest := @ih params (Nat.succ.inj lengths)
          rw [argumentDistance, List.forall₂_cons, List.zipWith_cons_cons, List.sum_cons]
          constructor
          · intro near
            obtain ⟨m, here, near⟩ := Option.bind_eq_some_iff.1 near
            obtain ⟨n, there, sum⟩ := Option.bind_eq_some_iff.1 near
            obtain ⟨fits, rfl⟩ := rest.1 there
            refine ⟨⟨by rw [here]; rfl, fits⟩, ?_⟩
            rw [here, Option.getD_some]
            exact (Option.some.inj sum).symm
          · rintro ⟨⟨first, fits⟩, rfl⟩
            obtain ⟨m, here⟩ := Option.isSome_iff_exists.1 first
            rw [here, rest.2 ⟨fits, rfl⟩]
            rfl

/-- A candidate matches a call that fits it, at the summed distance of the arguments. -/
theorem match?_eq_some_iff_fits {call : Invocation} (arity : method.arity = call.callee.arity)
    {found : Match} : (ofClasses classes).match? call method = some found ↔
      Fits classes call method ∧ found = ⟨summedDistance classes call method, method⟩ := by
  obtain ⟨distance, target⟩ := found
  rw [match?_eq_some_iff, argumentDistance_eq_some_iff arity.symm]
  constructor
  · rintro ⟨stays, ⟨arguments, rfl⟩, result, rfl⟩
    exact ⟨⟨stays, arguments, result⟩, rfl⟩
  · rintro ⟨⟨stays, arguments, result⟩, same⟩
    cases same
    exact ⟨stays, ⟨arguments, rfl⟩, result, rfl⟩

section Resolve

variable {call : Invocation}

/-- The matches of a call, before they are sorted. -/
def matched (classes : ClassTable) (call : Invocation) : List Match :=
  ((ofClasses classes).candidates call.callee.owner call.callee).filterMap
    ((ofClasses classes).match? call)

theorem mem_matched_iff {found : Match} : found ∈ matched classes call ↔
    Offers classes call.callee call.callee.owner found.target ∧
      Fits classes call found.target ∧
      found.distance = summedDistance classes call found.target := by
  rw [matched, List.mem_filterMap]
  constructor
  · rintro ⟨method, mem, matched⟩
    obtain ⟨fits, rfl⟩ := (match?_eq_some_iff_fits (sameShape_of_mem_candidates mem).2).1 matched
    exact ⟨mem_candidates_iff_offers.1 mem, fits, rfl⟩
  · rintro ⟨offers, fits, near⟩
    have mem := mem_candidates_iff_offers.2 offers
    refine ⟨found.target, mem, ?_⟩
    rw [match?_eq_some_iff_fits (sameShape_of_mem_candidates mem).2, ← near]
    exact ⟨fits, rfl⟩

theorem matched_nodup : (matched classes call).Nodup := by
  refine candidates_nodup.filterMap fun first second found left right => ?_
  rw [(match?_eq_some_iff.1 left).2.2.2, (match?_eq_some_iff.1 right).2.2.2]

theorem compare_eq_lt_iff {first second : Match} : compare first second = .lt ↔
    first.distance < second.distance ∨
      first.distance = second.distance ∧ compare first.target second.target = .lt := by
  have unfolded : compare first second =
      (compare first.distance second.distance).then (compare first.target second.target) := rfl
  rw [unfolded, Ordering.then_eq_lt, Nat.compare_eq_lt, Nat.compare_eq_eq]

theorem mem_sorted_iff {found : Match} :
    found ∈ sortAscending (matched classes call) ↔ found ∈ matched classes call :=
  (List.mergeSort_perm _ _).mem_iff

/-- A call resolves to what it offers and fits. -/
theorem mem_resolve_iff : method ∈ (ofClasses classes).resolve call ↔
    Offers classes call.callee call.callee.owner method ∧ Fits classes call method := by
  have unfolded : (ofClasses classes).resolve call =
      (sortAscending (matched classes call)).map Match.target := rfl
  rw [unfolded, List.mem_map]
  constructor
  · rintro ⟨found, mem, rfl⟩
    obtain ⟨offers, fits, -⟩ := mem_matched_iff.1 (mem_sorted_iff.1 mem)
    exact ⟨offers, fits⟩
  · rintro ⟨offers, fits⟩
    refine ⟨⟨summedDistance classes call method, method⟩, mem_sorted_iff.2 ?_, rfl⟩
    exact mem_matched_iff.2 ⟨offers, fits, rfl⟩

/-- The closest methods come first, and equally close ones by signature. -/
theorem resolve_pairwise : ((ofClasses classes).resolve call).Pairwise fun first second =>
    summedDistance classes call first < summedDistance classes call second ∨
      summedDistance classes call first = summedDistance classes call second ∧
        compare first second = .lt := by
  have unfolded : (ofClasses classes).resolve call =
      (sortAscending (matched classes call)).map Match.target := rfl
  rw [unfolded, List.pairwise_map]
  refine (sortAscending_increasing matched_nodup).imp_of_mem fun {first second} mem mem' less => ?_
  obtain ⟨-, -, near⟩ := mem_matched_iff.1 (mem_sorted_iff.1 mem)
  obtain ⟨-, -, near'⟩ := mem_matched_iff.1 (mem_sorted_iff.1 mem')
  rw [← near, ← near']
  exact compare_eq_lt_iff.1 less

theorem resolve_nodup : ((ofClasses classes).resolve call).Nodup := by
  refine resolve_pairwise.imp ?_
  rintro first _ (less | ⟨-, less⟩) rfl
  · exact absurd less (lt_irrefl _)
  · cases Std.ReflCmp.compare_self.symm.trans less

end Resolve

/-- A call resolves to the methods that it offers and that its types fit, each once, by the summed
distance of the arguments and then by signature.  On a name that is no class of the program it
resolves to nothing. -/
theorem resolve_exact (classes : ClassTable) (call : Invocation) :
    (∀ method, method ∈ (ofClasses classes).resolve call ↔
      Offers classes call.callee call.callee.owner method ∧ Fits classes call method) ∧
    ((ofClasses classes).resolve call).Nodup ∧
    ((ofClasses classes).resolve call).Pairwise (fun first second =>
      summedDistance classes call first < summedDistance classes call second ∨
        summedDistance classes call first = summedDistance classes call second ∧
          compare first second = .lt) ∧
    (call.callee.owner ∉ classes.names → (ofClasses classes).resolve call = []) := by
  refine ⟨fun _ => mem_resolve_iff, resolve_nodup, resolve_pairwise, fun absent => ?_⟩
  refine List.eq_nil_iff_forall_not_mem.2 fun method mem => absent ?_
  exact (mem_resolve_iff.1 mem).1.mem_names

/-- Two parents of `C` declare the method, and one of them inherits from `C` in turn. -/
def sampleCycle : ClassTable :=
  .ofList [sampleType "C" (some "P") ["I"] false, sampleType "I" none [] true,
    sampleType "P" (some "C") [] true]

example : (ofClasses sampleCycle).resolve ⟨.virtual, sampleDeclaration "C", [], none⟩ =
    [sampleDeclaration "I", sampleDeclaration "P"] := by cbv

end CallSearch.Dispatch
