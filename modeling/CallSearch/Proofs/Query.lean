/-
# CallSearch.Proofs.Query — words are matched by calls

Each word is matched by a method or a literal, and every method and literal of a summary
comes from a call.  Whether a query is fulfilled thus depends on the calls a summary is of
(`Query.isFulfilledBy_iff`), and more calls fulfil no less.
-/
import CallSearch.Proofs.Forest.Summary
import CallSearch.Query

namespace CallSearch

set_option autoImplicit false

variable {summary other : Summary} {shows others : Invocation → Prop}

theorem Summary.of_calls (calls : List Invocation) : (Summary.ofCalls calls).Of (· ∈ calls) where
  callees method := by simp [ofCalls]
  literals literal := by simp [ofCalls]

/-- More calls show no less. -/
theorem Summary.subset_ofCalls {calls others : List Invocation}
    (sub : ∀ call ∈ calls, call ∈ others) : (ofCalls calls).subset (ofCalls others) = true := by
  rw [subset, SortedSet.subset, SortedSet.subset, Bool.and_eq_true, List.all_eq_true,
    List.all_eq_true]
  constructor
  · intro method mem
    obtain ⟨call, shown, rfl⟩ := ((of_calls calls).callees method).1 mem
    exact List.contains_iff_mem.2 (((of_calls others).callees _).2 ⟨call, sub call shown, rfl⟩)
  · intro literal mem
    obtain ⟨call, shown, passed⟩ := ((of_calls calls).literals literal).1 mem
    exact List.contains_iff_mem.2
      (((of_calls others).literals _).2 ⟨call, sub call shown, passed⟩)

namespace Pattern

variable (pattern : Pattern)

/-- Whether a call matches by the method it names or by a literal it passes. -/
def matchesCall (call : Invocation) : Bool :=
  pattern.matchesCallee call.callee || call.literals.any pattern.matchesLiteral

theorem matchesCall_iff {call : Invocation} : pattern.matchesCall call = true ↔
    pattern.matchesCallee call.callee = true ∨
      ∃ literal ∈ call.literals, pattern.matchesLiteral literal = true := by
  rw [matchesCall, Bool.or_eq_true, List.any_eq_true]

theorem isMatchedBy_iff (h : summary.Of shows) :
    pattern.isMatchedBy summary = true ↔ ∃ call, shows call ∧ pattern.matchesCall call = true := by
  rw [isMatchedBy, Bool.or_eq_true, List.any_eq_true, List.any_eq_true]
  simp only [matchesCall_iff]
  constructor
  · rintro (⟨method, mem, matched⟩ | ⟨literal, mem, matched⟩)
    · obtain ⟨call, shown, rfl⟩ := (h.callees method).1 mem
      exact ⟨call, shown, Or.inl matched⟩
    · obtain ⟨call, shown, passed⟩ := (h.literals literal).1 mem
      exact ⟨call, shown, Or.inr ⟨literal, passed, matched⟩⟩
  · rintro ⟨call, shown, matched | ⟨literal, passed, matched⟩⟩
    · exact Or.inl ⟨call.callee, (h.callees _).2 ⟨call, shown, rfl⟩, matched⟩
    · exact Or.inr ⟨literal, (h.literals _).2 ⟨call, shown, passed⟩, matched⟩

end Pattern

namespace Query

variable (query : Query)

theorem isFulfilledBy_iff (h : summary.Of shows) : query.isFulfilledBy summary = true ↔
    ∀ pattern ∈ query.patterns, ∃ call, shows call ∧ pattern.matchesCall call = true := by
  rw [isFulfilledBy, List.all_eq_true]
  exact forall₂_congr fun pattern _ => pattern.isMatchedBy_iff h

/-- Whether some word is matched by the method a call names or by a literal it passes. -/
def matchesCall (call : Invocation) : Bool := query.patterns.any (·.matchesCall call)

theorem matchesCall_iff {call : Invocation} : query.matchesCall call = true ↔
    ∃ pattern ∈ query.patterns, pattern.matchesCall call = true := List.any_eq_true

/-- A call matches some word if its method does or one of its literals. -/
theorem matchesCall_iff_parts {call : Invocation} : query.matchesCall call = true ↔
    query.matchesCallee call.callee = true ∨
      ∃ literal ∈ call.literals, query.matchesLiteral literal = true := by
  simp only [matchesCall_iff, Pattern.matchesCall_iff, matchesCallee, matchesLiteral,
    List.any_eq_true]
  constructor
  · rintro ⟨pattern, listed, matched | ⟨literal, passed, matched⟩⟩
    · exact Or.inl ⟨pattern, listed, matched⟩
    · exact Or.inr ⟨literal, passed, pattern, listed, matched⟩
  · rintro (⟨pattern, listed, matched⟩ | ⟨literal, passed, pattern, listed, matched⟩)
    · exact ⟨pattern, listed, Or.inl matched⟩
    · exact ⟨pattern, listed, Or.inr ⟨literal, passed, matched⟩⟩

theorem isPartiallyFulfilledBy_iff (h : summary.Of shows) :
    query.isPartiallyFulfilledBy summary = true ↔
      ∃ pattern ∈ query.patterns, ∃ call, shows call ∧ pattern.matchesCall call = true := by
  have some : query.isPartiallyFulfilledBy summary = true ↔
      ∃ pattern ∈ query.patterns, pattern.isMatchedBy summary = true := by
    simp only [isPartiallyFulfilledBy, Pattern.isMatchedBy, matchesCallee, matchesLiteral,
      Bool.or_eq_true, List.any_eq_true]
    constructor
    · rintro (⟨method, mem, pattern, listed, matched⟩ | ⟨literal, mem, pattern, listed, matched⟩)
      · exact ⟨pattern, listed, Or.inl ⟨method, mem, matched⟩⟩
      · exact ⟨pattern, listed, Or.inr ⟨literal, mem, matched⟩⟩
    · rintro ⟨pattern, listed, ⟨method, mem, matched⟩ | ⟨literal, mem, matched⟩⟩
      · exact Or.inl ⟨method, mem, pattern, listed, matched⟩
      · exact Or.inr ⟨literal, mem, pattern, listed, matched⟩
  rw [some]
  exact exists_congr fun pattern => and_congr_right fun _ => pattern.isMatchedBy_iff h

/-- What fulfils a query still does with more calls. -/
theorem isFulfilledBy_mono (h : summary.Of shows) (h' : other.Of others)
    (more : ∀ call, shows call → others call) (fulfilled : query.isFulfilledBy summary = true) :
    query.isFulfilledBy other = true := by
  rw [query.isFulfilledBy_iff h] at fulfilled
  rw [query.isFulfilledBy_iff h']
  intro pattern listed
  obtain ⟨call, shown, matched⟩ := fulfilled pattern listed
  exact ⟨call, more call shown, matched⟩

end Query

end CallSearch
