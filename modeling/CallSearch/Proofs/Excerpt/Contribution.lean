/-
# CallSearch.Proofs.Excerpt.Contribution — what calls contribute to a query

Recording a call consults what was recorded before, yet the outcome depends on neither
the order of the calls nor on how often a call comes up.  What is recorded matched the
query when it was recorded, so asking the record and asking the query give the same answer
(`addAccepted_spec`), and a recorded contribution is the one of some set of calls:
`Contribution.Of`, which determines it (`Contribution.Of.unique`).

* `record_spec`: a call contributes if it matches some word, and recording adds what it
  shows;
* `Of.eq_recorded`: calls recorded one after another, in any order, leave the contribution
  of their set.
-/
import CallSearch.Excerpt.Prune
import CallSearch.Proofs.Query
import CallSearch.Proofs.Sorted

namespace CallSearch

set_option autoImplicit false

/-! ## Accepted items -/

namespace SortedSet

variable {α : Type} [Ord α]

theorem contains_iff [BEq α] [LawfulBEq α] {s : SortedSet α} {item : α} :
    s.contains item = true ↔ item ∈ s := List.contains_iff_mem

/-- A set grows by no item that fails the test or is a member already. -/
theorem mem_iff_of_skipped {s : SortedSet α} {test : α → Prop} {item : α}
    (known : test item → item ∈ s) (x : α) : x ∈ s ↔ x ∈ s ∨ item = x ∧ test x := by
  refine ⟨Or.inl, ?_⟩
  rintro (mem | ⟨rfl, passed⟩)
  · exact mem
  · exact known passed

variable [Std.TransOrd α] [Std.LawfulEqOrd α]

/-- A set grows by an item that passes the test. -/
theorem mem_insert_of_passed {s : SortedSet α} {test : α → Prop} {item : α} (passed : test item)
    (x : α) : x ∈ s.insert item ↔ x ∈ s ∨ item = x ∧ test x := by
  rw [mem_insert, or_comm, eq_comm]
  exact or_congr_right ⟨fun same => ⟨same, same ▸ passed⟩, And.left⟩

/-- Where asking a set of items that pass a test is asking the test, the items added are those
that pass. -/
theorem addAccepted_spec {accepts : SortedSet α → α → Bool} {test : α → Bool}
    (asks : ∀ set, (∀ item ∈ set, test item = true) → ∀ item, accepts set item = test item)
    {set : SortedSet α} (passed : ∀ item ∈ set, test item = true) (items : List α) :
    (set.addAccepted accepts items).1 = items.any test ∧
      ∀ x, x ∈ (set.addAccepted accepts items).2 ↔ x ∈ set ∨ x ∈ items ∧ test x = true := by
  suffices general : ∀ found,
      (items.foldl (addIf accepts) (found, set)).1 = (found || items.any test) ∧
        ∀ x, x ∈ (items.foldl (addIf accepts) (found, set)).2 ↔
          x ∈ set ∨ x ∈ items ∧ test x = true from general false
  induction items generalizing set with
  | nil => simp
  | cons item rest ih =>
      intro found
      rw [List.foldl_cons, addIf, asks set passed item]
      cases here : test item with
      | true =>
          have more : ∀ x ∈ set.insert item, test x = true := by
            intro x mem
            rcases mem_insert.1 mem with rfl | mem
            · exact here
            · exact passed x mem
          rw [if_pos rfl]
          obtain ⟨any, members⟩ := ih more true
          refine ⟨by simp [any, here], fun x => (members x).trans ?_⟩
          rw [mem_insert, List.mem_cons]
          constructor
          · rintro ((rfl | mem) | ⟨mem, pass⟩)
            · exact Or.inr ⟨Or.inl rfl, here⟩
            · exact Or.inl mem
            · exact Or.inr ⟨Or.inr mem, pass⟩
          · rintro (mem | ⟨rfl | mem, pass⟩)
            · exact Or.inl (Or.inr mem)
            · exact Or.inl (Or.inl rfl)
            · exact Or.inr ⟨mem, pass⟩
      | false =>
          rw [if_neg (by simp)]
          obtain ⟨any, members⟩ := ih passed found
          refine ⟨by simp [any, here], fun x => (members x).trans (or_congr_right ?_)⟩
          rw [List.mem_cons]
          refine and_congr_left fun pass => ⟨Or.inr, ?_⟩
          rintro (rfl | mem)
          · rw [here] at pass
            cases pass
          · exact mem

end SortedSet

/-! ## Calls that contribute -/

namespace Query

variable (query : Query)

/-- A method matches some word if one of its types does, or the method as a method. -/
theorem matchesCallee_eq (callee : Signature) : query.matchesCallee callee =
    (callee.types.any query.matchesType || query.matchesMethod callee) := by
  have each : ∀ pattern : Pattern, pattern.matchesCallee callee =
      (callee.types.any pattern.matchesType || pattern.matchesMethod callee) := by
    rintro ⟨word, scope⟩
    cases scope with
    | literal regex =>
        change false = (callee.types.any (fun _ => false) || false)
        simp
    | type regex => exact (Bool.or_false _).symm
    | method method =>
        change method.isMatch callee =
          (callee.types.any (fun _ => false) || method.isMatch callee)
        simp
    | any regex => exact Bool.or_comm _ _
  rw [Bool.eq_iff_iff, matchesCallee, Bool.or_eq_true, List.any_eq_true, List.any_eq_true]
  simp only [each, Bool.or_eq_true, List.any_eq_true, matchesType, matchesMethod]
  constructor
  · rintro ⟨pattern, listed, ⟨type, mem, matched⟩ | matched⟩
    · exact Or.inl ⟨type, mem, pattern, listed, matched⟩
    · exact Or.inr ⟨pattern, listed, matched⟩
  · rintro (⟨type, mem, pattern, listed, matched⟩ | ⟨pattern, listed, matched⟩)
    · exact ⟨pattern, listed, Or.inl ⟨type, mem, matched⟩⟩
    · exact ⟨pattern, listed, Or.inr matched⟩

/-- A call matches some word by a type, as a method or by a literal. -/
theorem matchesCall_eq (call : Invocation) : query.matchesCall call =
    (call.callee.types.any query.matchesType || query.matchesMethod call.callee
      || call.literals.any query.matchesLiteral) := by
  rw [Bool.eq_iff_iff, matchesCall_iff_parts, matchesCallee_eq, ← List.any_eq_true,
    ← Bool.or_eq_true]

/-- A method whose name matches by itself matches as a method. -/
theorem matchesMethod_of_matchesMethodName {callee : Signature}
    (matched : query.matchesMethodName callee.name = true) :
    query.matchesMethod callee = true := by
  rw [matchesMethodName, List.any_eq_true] at matched
  obtain ⟨⟨word, scope⟩, listed, matched⟩ := matched
  rw [matchesMethod, List.any_eq_true]
  refine ⟨⟨word, scope⟩, listed, ?_⟩
  cases scope with
  | literal regex | type regex => cases matched
  | any regex => exact matched
  | method method =>
      -- Only a pattern that gives nothing but a name has a name by itself.
      obtain ⟨owner, result, name, param⟩ := method
      change (MethodPattern.nameOnly? ⟨owner, result, name, param⟩).any (·.isMatch callee.name) =
        true at matched
      change MethodPattern.isMatch ⟨owner, result, name, param⟩ callee = true
      unfold MethodPattern.nameOnly? at matched
      split at matched
      · next same =>
        cases same
        simpa [MethodPattern.isMatch] using matched
      · cases matched

end Query

/-! ## The contribution of some calls -/

namespace Contribution

/-- What matched is what calls show that matches the query. -/
structure Of (contribution : Contribution) (query : Query) (shows : Invocation → Prop) : Prop where
  types : ∀ type, type ∈ contribution.types ↔
    query.matchesType type = true ∧ ∃ call, shows call ∧ type ∈ call.callee.types
  methodNames : ∀ name, name ∈ contribution.methodNames ↔
    query.matchesMethodName name = true ∧ ∃ call, shows call ∧ call.callee.name = name
  literals : ∀ literal, literal ∈ contribution.literals ↔
    query.matchesLiteral literal = true ∧ ∃ call, shows call ∧ literal ∈ call.literals
  callees : ∀ callee, callee ∈ contribution.callees ↔
    (query.matchesMethod callee = true ∧ query.matchesMethodName callee.name = false) ∧
      ∃ call, shows call ∧ call.callee = callee

variable {query : Query} {contribution other : Contribution} {shows others : Invocation → Prop}

theorem of_empty : (∅ : Contribution).Of query fun _ => False where
  types _ := by
    simp only [false_and, exists_false, and_false, iff_false]
    exact List.not_mem_nil
  methodNames _ := by
    simp only [false_and, exists_false, and_false, iff_false]
    exact List.not_mem_nil
  literals _ := by
    simp only [false_and, exists_false, and_false, iff_false]
    exact List.not_mem_nil
  callees _ := by
    simp only [false_and, exists_false, and_false, iff_false]
    exact List.not_mem_nil

theorem Of.congr (h : contribution.Of query shows) (same : ∀ call, shows call ↔ others call) :
    contribution.Of query others := by
  obtain rfl : shows = others := funext fun call => propext (same call)
  exact h

/-- There is one contribution of some calls. -/
theorem Of.unique (h : contribution.Of query shows) (h' : other.Of query shows) :
    contribution = other := by
  have types : contribution.types = other.types :=
    SortedSet.eq_of_mem_iff fun type => (h.types type).trans (h'.types type).symm
  have methodNames : contribution.methodNames = other.methodNames :=
    SortedSet.eq_of_mem_iff fun name => (h.methodNames name).trans (h'.methodNames name).symm
  have literals : contribution.literals = other.literals :=
    SortedSet.eq_of_mem_iff fun literal => (h.literals literal).trans (h'.literals literal).symm
  have callees : contribution.callees = other.callees :=
    SortedSet.eq_of_mem_iff fun callee => (h.callees callee).trans (h'.callees callee).symm
  cases contribution
  cases other
  simp only at types methodNames literals callees
  rw [types, methodNames, literals, callees]

/-- Calls that match no word contribute nothing, so a contribution is that of the calls that
match. -/
theorem Of.matching (h : contribution.Of query shows) :
    contribution.Of query fun call => query.matchesCall call = true ∧ shows call := by
  have only : ∀ {has : Invocation → Prop}, (∀ call, has call → query.matchesCall call = true) →
      ((∃ call, shows call ∧ has call) ↔
        ∃ call, (query.matchesCall call = true ∧ shows call) ∧ has call) := by
    intro has matched
    refine exists_congr fun call => and_congr_left fun here => ?_
    exact (and_iff_right (matched call here)).symm
  have parts : ∀ call, query.matchesCall call = true ↔
      ((∃ type ∈ call.callee.types, query.matchesType type = true) ∨
        query.matchesMethod call.callee = true) ∨
      ∃ literal ∈ call.literals, query.matchesLiteral literal = true := by
    intro call
    rw [query.matchesCall_eq, Bool.or_eq_true, Bool.or_eq_true, List.any_eq_true,
      List.any_eq_true]
  constructor
  · intro type
    rw [h.types]
    refine and_congr_right fun passed => only fun call mem => ?_
    exact (parts call).2 (Or.inl (Or.inl ⟨type, mem, passed⟩))
  · intro name
    rw [h.methodNames]
    refine and_congr_right fun passed => only fun call same => ?_
    have isMethod := query.matchesMethod_of_matchesMethodName (same ▸ passed)
    exact (parts call).2 (Or.inl (Or.inr isMethod))
  · intro literal
    rw [h.literals]
    refine and_congr_right fun passed => only fun call mem => ?_
    exact (parts call).2 (Or.inr ⟨literal, mem, passed⟩)
  · intro callee
    rw [h.callees]
    refine and_congr_right fun passed => only fun call same => ?_
    exact (parts call).2 (Or.inl (Or.inr (same ▸ passed.1)))

/-! ## Recording -/

theorem recordTypes_spec (h : ∀ type ∈ contribution.types, query.matchesType type = true)
    (callee : Signature) :
    (recordTypes query callee contribution).1 = callee.types.any query.matchesType ∧
      ∀ type, type ∈ (recordTypes query callee contribution).2.types ↔
        type ∈ contribution.types ∨ type ∈ callee.types ∧ query.matchesType type = true := by
  refine SortedSet.addAccepted_spec (fun types passed type => ?_) h callee.types
  rw [Bool.eq_iff_iff, Bool.or_eq_true, SortedSet.contains_iff]
  exact ⟨fun known => known.elim (passed type) id, Or.inr⟩

theorem recordLiterals_spec
    (h : ∀ literal ∈ contribution.literals, query.matchesLiteral literal = true)
    (literals : List String) :
    (recordLiterals query literals contribution).1 = literals.any query.matchesLiteral ∧
      ∀ literal, literal ∈ (recordLiterals query literals contribution).2.literals ↔
        literal ∈ contribution.literals ∨
          literal ∈ literals ∧ query.matchesLiteral literal = true := by
  refine SortedSet.addAccepted_spec (fun _ _ literal => ?_) h literals
  rfl

/-- A name recorded before matched by itself, so the method would be recorded by its name. -/
theorem recordMethod_spec
    (h : ∀ name ∈ contribution.methodNames, query.matchesMethodName name = true)
    (callee : Signature) :
    (recordMethod query callee contribution).1 = query.matchesMethod callee ∧
      (∀ name, name ∈ (recordMethod query callee contribution).2.methodNames ↔
        name ∈ contribution.methodNames ∨
          callee.name = name ∧ query.matchesMethodName name = true) ∧
      ∀ other, other ∈ (recordMethod query callee contribution).2.callees ↔
        other ∈ contribution.callees ∨ callee = other ∧ query.matchesMethod other = true ∧
          query.matchesMethodName other.name = false := by
  unfold recordMethod
  split
  · next known =>
    have byName := h callee.name (SortedSet.contains_iff.1 known)
    refine ⟨(query.matchesMethod_of_matchesMethodName byName).symm,
      SortedSet.mem_iff_of_skipped fun _ => SortedSet.contains_iff.1 known,
      SortedSet.mem_iff_of_skipped ?_⟩
    rintro ⟨-, notByName⟩
    rw [byName] at notByName
    cases notByName
  · split
    · next isMethod =>
      split
      · next byName =>
        refine ⟨isMethod.symm, SortedSet.mem_insert_of_passed byName,
          SortedSet.mem_iff_of_skipped ?_⟩
        rintro ⟨-, notByName⟩
        rw [byName] at notByName
        cases notByName
      · next notByName =>
        exact ⟨isMethod.symm, SortedSet.mem_iff_of_skipped fun byName => absurd byName notByName,
          SortedSet.mem_insert_of_passed ⟨isMethod, Bool.not_eq_true _ ▸ notByName⟩⟩
    · next notMethod =>
      refine ⟨(Bool.not_eq_true _ ▸ notMethod).symm, SortedSet.mem_iff_of_skipped fun byName => ?_,
        SortedSet.mem_iff_of_skipped fun passed => absurd passed.1 notMethod⟩
      exact absurd (query.matchesMethod_of_matchesMethodName byName) notMethod

theorem recordMethod_frame (callee : Signature) :
    (recordMethod query callee contribution).2.types = contribution.types ∧
      (recordMethod query callee contribution).2.literals = contribution.literals := by
  unfold recordMethod
  split
  · exact ⟨rfl, rfl⟩
  · split
    · split <;> exact ⟨rfl, rfl⟩
    · exact ⟨rfl, rfl⟩

/-- Recording a call tells whether it matches some word and adds it to the calls recorded. -/
theorem record_spec (h : contribution.Of query shows) (call : Invocation) :
    (record query call contribution).1 = query.matchesCall call ∧
      (record query call contribution).2.Of query fun other => shows other ∨ other = call := by
  -- Each of the three steps looks at its own part of the record and leaves the others alone.
  let afterTypes := (recordTypes query call.callee contribution).2
  let afterMethod := (recordMethod query call.callee afterTypes).2
  have frame : afterMethod.types = afterTypes.types ∧
      afterMethod.literals = contribution.literals := recordMethod_frame call.callee
  obtain ⟨byType, types⟩ :=
    recordTypes_spec (fun type mem => ((h.types type).1 mem).1) call.callee
  obtain ⟨byMethod, methodNames, callees⟩ := @recordMethod_spec query afterTypes
    (fun name mem => ((h.methodNames name).1 mem).1) call.callee
  obtain ⟨byLiteral, literals⟩ := @recordLiterals_spec query afterMethod
    (fun literal mem => ((h.literals literal).1 (frame.2 ▸ mem)).1) call.literals
  have more : ∀ {has : Invocation → Prop},
      (∃ other, (shows other ∨ other = call) ∧ has other) ↔
        (∃ other, shows other ∧ has other) ∨ has call := by
    intro has
    simp only [or_and_right, exists_or, exists_eq_left]
  constructor
  · rw [query.matchesCall_eq, ← byType, ← byMethod, ← byLiteral]
    rfl
  · constructor
    · intro type
      change type ∈ afterMethod.types ↔ _
      rw [frame.1, types, h.types, more, and_or_left, and_comm (a := type ∈ _)]
    · intro name
      change name ∈ afterMethod.methodNames ↔ _
      rw [methodNames, more, and_or_left, and_comm (a := call.callee.name = name)]
      exact or_congr_left (h.methodNames name)
    · intro literal
      refine (literals literal).trans ?_
      rw [frame.2, h.literals, more, and_or_left, and_comm (a := literal ∈ call.literals)]
    · intro callee
      change callee ∈ afterMethod.callees ↔ _
      rw [callees, more, and_or_left, and_comm (a := call.callee = callee)]
      exact or_congr_left (h.callees callee)

/-! ## Calls one after another -/

/-- What is recorded of some calls, one after another. -/
def recorded (query : Query) (calls : List Invocation) : Contribution :=
  calls.foldl (fun contribution call => (record query call contribution).2) ∅

theorem of_recorded (query : Query) (calls : List Invocation) :
    (recorded query calls).Of query (· ∈ calls) := by
  suffices general : ∀ (contribution : Contribution) (shows : Invocation → Prop),
      contribution.Of query shows →
      (calls.foldl (fun contribution call => (record query call contribution).2)
        contribution).Of query fun call => shows call ∨ call ∈ calls from
    (general ∅ _ of_empty).congr fun call => by simp
  induction calls with
  | nil =>
      intro contribution shows h
      exact h.congr fun call => by simp
  | cons call rest ih =>
      intro contribution shows h
      refine (ih _ _ (record_spec h call).2).congr fun other => ?_
      rw [List.mem_cons, or_assoc]

/-- Neither the order of the calls nor repetitions among them make a difference. -/
theorem Of.eq_recorded (h : contribution.Of query shows) {calls : List Invocation}
    (all : ∀ call, call ∈ calls ↔ shows call) : recorded query calls = contribution :=
  ((of_recorded query calls).congr all).unique h

end Contribution

end CallSearch
