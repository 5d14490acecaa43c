/-
# CallSearch.Proofs.Notice — results of logged computations

Notices do not decide a result, so a logged computation that succeeds is taken apart
by the results of its steps.
-/
import CallSearch.Notice
import Mathlib.Data.List.Forall2

namespace CallSearch.Logged

set_option autoImplicit false

variable {ε α β : Type}

instance : LawfulMonad (Logged ε) := by
  refine .mk' (Logged ε) ?_ (fun _ _ => rfl) ?_
  · rintro _ ⟨notices, result⟩
    cases result <;> simp [Functor.map]
  · rintro _ _ _ ⟨notices, result⟩ second third
    cases result with
    | error failure => rfl
    | ok value =>
        cases following : (second value).result with
        | error failure => simp [bind, following]
        | ok value' => simp [bind, following, List.append_assoc]

/-- A computation with something to be computed from its result has succeeded. -/
theorem exists_ok_of_map {result : Except ε α} {f : α → β} {value : β}
    (h : result.toOption.map f = some value) : ∃ first, result = .ok first ∧ f first = value := by
  cases result with
  | error failure => cases h
  | ok first => exact ⟨first, rfl, Option.some.inj h⟩

/-- A computation of two steps succeeds if both succeed. -/
theorem result_bind {logged : Logged ε α} {next : α → Logged ε β} {value : β} :
    (logged >>= next).result = .ok value ↔
      ∃ first, logged.result = .ok first ∧ (next first).result = .ok value := by
  obtain ⟨notices, result⟩ := logged
  cases result with
  | error failure => simp [bind]
  | ok first => simp [bind]

/-- Steps that agree on the result of the first may follow it. -/
theorem bind_congr {logged : Logged ε α} {next other : α → Logged ε β}
    (same : ∀ value, logged.result = .ok value → next value = other value) :
    logged >>= next = logged >>= other := by
  obtain ⟨notices, result⟩ := logged
  cases result with
  | error failure => rfl
  | ok value => simp [bind, same value rfl]

theorem result_pure {value value' : α} :
    (pure value : Logged ε α).result = .ok value' ↔ value = value' :=
  Except.ok.injEq value value' ▸ Iff.rfl

/-- What every step keeps holds of the result. -/
theorem foldlM_invariant {step : β → α → Logged ε β} (inv : β → Prop) {items : List α}
    (keep : ∀ item ∈ items, ∀ {state next}, inv state → (step state item).result = .ok next →
      inv next)
    {state result : β} (start : inv state) (h : (items.foldlM step state).result = .ok result) :
    inv result := by
  induction items generalizing state with
  | nil => exact result_pure.1 h ▸ start
  | cons item rest ih =>
      rw [List.foldlM_cons] at h
      obtain ⟨next, stepped, h⟩ := result_bind.1 h
      exact ih (fun other mem => keep other (List.mem_cons_of_mem _ mem))
        (keep item List.mem_cons_self start stepped) h

/-- Each result is that of its item. -/
theorem forall₂_mapM {f : α → Except ε β} {items : List α} {results : List β}
    (h : (items.mapM fun item => (liftM (f item) : Logged ε β)).result = .ok results) :
    List.Forall₂ (fun item result => f item = .ok result) items results := by
  induction items generalizing results with
  | nil =>
      obtain rfl := result_pure.1 h
      exact .nil
  | cons item rest ih =>
      rw [List.mapM_cons] at h
      obtain ⟨first, found, h⟩ := result_bind.1 h
      obtain ⟨others, foundRest, h⟩ := result_bind.1 h
      obtain rfl := result_pure.1 h
      exact .cons found (ih foundRest)

end CallSearch.Logged
