/-
# CallSearch.Proofs.Excerpt.Prune — what pruning leaves

Pruning records contributions and outcomes on the way, but what it leaves is what
`ExcerptItem.left?` says without either: a call is left with its body if something of the
body is left, and without it if it matches some word by itself.  The calls of a body met
before were recorded then, so using its outcome again changes nothing: `prunes_prune`.

What is left never has an empty alternative, so its canonical form keeps all of it.  Hence
what is left covers the calls of the excerpt (`Excerpt.covers_pruned`), and fulfils the query
if the excerpt does.
-/
import CallSearch.Proofs.Excerpt.Contribution
import CallSearch.Proofs.Excerpt.Ways

namespace CallSearch

set_option autoImplicit false

namespace ExcerptItem

/-! ## Calls of canonical forms -/

/-- The canonical form of a tree without impossible parts has the same calls. -/
theorem mem_callsOfTree_normalize {tree : Tree ExcerptItem} (feasible : tree.Feasible)
    {call : Invocation} : call ∈ callsOfTree tree.normalize ↔ call ∈ callsOfTree tree := by
  rw [callsOfTree_eq, callsOfTree_eq, List.mem_flatMap, List.mem_flatMap]
  exact exists_congr fun item => and_congr_left fun _ => Tree.mem_leaves_normalize feasible

end ExcerptItem

/-! ## What is left, without a record -/

namespace ExcerptItem

mutual

/-- What is left of an item. -/
def left? (query : Query) : ExcerptItem → Option ExcerptItem
  | .invoked site => if query.matchesCall site then some (.invoked site) else none
  | .call site context depth body =>
      match (leftOfTree? query body).map Tree.normalize with
      | some body => some (.call site context depth body)
      | none => if query.matchesCall site then some (.invoked site) else none

/-- What is left of a tree, before it is brought into normal form. -/
def leftOfTree? (query : Query) : Tree ExcerptItem → Option (Tree ExcerptItem)
  | .leaf item => (item.left? query).map .leaf
  | .seq parts => keep? .seq (leftOfTrees query parts)
  | .alt parts => keep? .alt (leftOfTrees query parts)

/-- What is left of some trees. -/
def leftOfTrees (query : Query) : List (Tree ExcerptItem) → List (Tree ExcerptItem)
  | [] => []
  | part :: rest => (leftOfTree? query part).toList ++ leftOfTrees query rest

end

/-- What is left of a body. -/
def leftOfBody? (query : Query) (body : Tree ExcerptItem) : Option (Tree ExcerptItem) :=
  (leftOfTree? query body).map Tree.normalize

end ExcerptItem

/-! ## Pruning with a record -/

/-- The contribution is that of the calls met, and the outcomes are right and of bodies whose
calls were all met. -/
structure Pruning.Right (query : Query) (met : Invocation → Prop) (pruning : Pruning) : Prop where
  contribution : pruning.contribution.Of query met
  outcome : ∀ entry ∈ pruning.bodies, entry.2 = ExcerptItem.leftOfBody? query entry.1
  recorded : ∀ entry ∈ pruning.bodies, ∀ call ∈ ExcerptItem.callsOfTree entry.1, met call

theorem Pruning.Right.congr {query : Query} {met others : Invocation → Prop} {pruning : Pruning}
    (h : pruning.Right query met) (same : ∀ call, met call ↔ others call) :
    pruning.Right query others := by
  obtain rfl : met = others := funext fun call => propext (same call)
  exact h

namespace ExcerptItem

variable {query : Query}

/-- A step of pruning has a result and meets some calls, whatever was met before. -/
def Prunes (query : Query) {γ : Type} (step : StateM Pruning γ) (result : γ)
    (calls : List Invocation) : Prop :=
  ∀ (pruning : Pruning) (met : Invocation → Prop), pruning.Right query met →
    (step pruning).1 = result ∧
      Pruning.Right query (fun call => met call ∨ call ∈ calls) (step pruning).2

theorem prunes_pure {γ : Type} (result : γ) : Prunes query (pure result) result [] :=
  fun _ _ right => ⟨rfl, right.congr fun call => by simp⟩

/-- One step after another meets the calls of both. -/
theorem Prunes.bind {γ δ : Type} {step : StateM Pruning γ} {next : γ → StateM Pruning δ} {first : γ}
    {second : δ} {calls others : List Invocation} (h : Prunes query step first calls)
    (h' : Prunes query (next first) second others) :
    Prunes query (step >>= next) second (calls ++ others) := by
  intro pruning met right
  obtain ⟨same, right'⟩ := h pruning met right
  obtain ⟨same', right''⟩ := h' _ _ right'
  change (next (step pruning).1 (step pruning).2).1 = second ∧
    Pruning.Right query _ (next (step pruning).1 (step pruning).2).2
  rw [same]
  exact ⟨same', right''.congr fun call => by rw [List.mem_append, or_assoc]⟩

/-- A result computed from that of a step. -/
theorem Prunes.map {γ δ : Type} {step : StateM Pruning γ} {first : γ} {calls : List Invocation}
    (h : Prunes query step first calls) (f : γ → δ) :
    Prunes query (do return f (← step)) (f first) calls := by
  have both : Prunes query (step >>= fun result => pure (f result)) (f first) (calls ++ []) :=
    h.bind (prunes_pure (f first))
  rwa [List.append_nil] at both

theorem prunes_record (site : Invocation) :
    Prunes query (record query site) (query.matchesCall site) [site] := by
  intro pruning met right
  obtain ⟨verdict, more⟩ := Contribution.record_spec right.contribution site
  refine ⟨verdict, more.congr fun call => by rw [List.mem_singleton], right.outcome, ?_⟩
  exact fun entry mem call here => Or.inl (right.recorded entry mem call here)

/-- Pruning a body gives what is left of it and meets its calls, now or before. -/
theorem prunes_pruneBody {body : Tree ExcerptItem}
    {prune : StateM Pruning (Option (Tree ExcerptItem))}
    (h : Prunes query prune (leftOfTree? query body) (callsOfTree body)) :
    Prunes query (pruneBody body prune) (leftOfBody? query body) (callsOfTree body) := by
  intro pruning met right
  cases kept : pruning.bodies.find? fun entry => orderTree entry.1 body == .eq with
  | some entry =>
      have run : pruneBody body prune pruning = (entry.2, pruning) := by
        simp only [pruneBody, bind, StateT.bind, get, getThe, MonadStateOf.get, StateT.get, pure,
          kept]
        rfl
      have found := List.find?_some kept
      obtain rfl : entry.1 = body := eq_of_orderTree _ _ (beq_iff_eq.1 found)
      have mem := List.mem_of_find?_eq_some kept
      rw [run]
      refine ⟨right.outcome entry mem, right.congr fun call => ?_⟩
      exact ⟨Or.inl, fun here => here.elim id (right.recorded entry mem call)⟩
  | none =>
      obtain ⟨same, right'⟩ := h pruning met right
      have run : pruneBody body prune pruning =
          (((prune pruning).1.map Tree.normalize),
            { (prune pruning).2 with
              bodies := (body, (prune pruning).1.map Tree.normalize) ::
                (prune pruning).2.bodies }) := by
        simp only [pruneBody, bind, StateT.bind, get, getThe, MonadStateOf.get, StateT.get, pure,
          kept]
        rfl
      rw [run, same]
      refine ⟨rfl, right'.contribution, fun entry mem => ?_, fun entry mem call here => ?_⟩
      · rcases List.mem_cons.1 mem with rfl | mem
        · rfl
        · exact right'.outcome entry mem
      · rcases List.mem_cons.1 mem with rfl | mem
        · exact Or.inr here
        · exact right'.recorded entry mem call here

mutual

/-- Pruning an item gives what is left of it and meets its calls. -/
theorem prunes_prune : (item : ExcerptItem) →
    Prunes query (item.prune query) (item.left? query) item.calls
  | .invoked site => by
      rw [prune, left?, calls]
      exact (prunes_record site).map _
  | .call site context depth body => by
      rw [prune, left?, calls]
      refine (prunes_record site).bind ?_
      have below := prunes_pruneBody (prunes_pruneTree body)
      rw [← List.append_nil (callsOfTree body)]
      refine below.bind ?_
      rw [leftOfBody?]
      cases (leftOfTree? query body).map Tree.normalize with
      | some body => exact prunes_pure _
      | none => exact prunes_pure _

theorem prunes_pruneTree : (tree : Tree ExcerptItem) →
    Prunes query (pruneTree query tree) (leftOfTree? query tree) (callsOfTree tree)
  | .leaf item => by
      rw [pruneTree, leftOfTree?, callsOfTree]
      exact (prunes_prune item).map _
  | .seq parts => by
      rw [pruneTree, leftOfTree?, callsOfTree]
      exact (prunes_pruneTrees parts).map _
  | .alt parts => by
      rw [pruneTree, leftOfTree?, callsOfTree]
      exact (prunes_pruneTrees parts).map _

theorem prunes_pruneTrees : (parts : List (Tree ExcerptItem)) →
    Prunes query (pruneTrees query parts) (leftOfTrees query parts) (callsOfTrees parts)
  | [] => by
      rw [pruneTrees, leftOfTrees, callsOfTrees]
      exact prunes_pure []
  | part :: rest => by
      rw [pruneTrees, leftOfTrees, callsOfTrees]
      exact (prunes_pruneTree part).bind ((prunes_pruneTrees rest).map _)

end

end ExcerptItem

namespace Excerpt

variable (excerpt : Excerpt) (query : Query)

theorem prune_spec :
    excerpt.pruned query =
        { excerpt with body := (ExcerptItem.leftOfBody? query excerpt.body).getD .empty } ∧
      (excerpt.contribution query).Of query fun call =>
        call = excerpt.call ∨ call ∈ excerpt.calls := by
  have start : Pruning.Right query (fun _ => False) ⟨∅, []⟩ :=
    ⟨Contribution.of_empty, by simp, by simp⟩
  have run : ExcerptItem.Prunes query
      (do
        let _ ← ExcerptItem.record query excerpt.call
        ExcerptItem.pruneBody excerpt.body (ExcerptItem.pruneTree query excerpt.body))
      (ExcerptItem.leftOfBody? query excerpt.body) ([excerpt.call] ++ excerpt.calls) :=
    (ExcerptItem.prunes_record excerpt.call).bind
      (ExcerptItem.prunes_pruneBody (ExcerptItem.prunes_pruneTree excerpt.body))
  obtain ⟨body, right⟩ := run _ _ start
  constructor
  · rw [pruned, prune, ← body]
    rfl
  · refine right.contribution.congr fun call => ?_
    rw [false_or, List.mem_append, List.mem_singleton]

/-- What is left of an excerpt. -/
theorem pruned_eq : excerpt.pruned query =
    { excerpt with body := (ExcerptItem.leftOfBody? query excerpt.body).getD .empty } :=
  (excerpt.prune_spec query).1

/-- What an excerpt contributes is what its calls do, the outermost one included. -/
theorem of_contribution : (excerpt.contribution query).Of query fun call =>
    call = excerpt.call ∨ call ∈ excerpt.calls :=
  (excerpt.prune_spec query).2

end Excerpt

/-! ## Calls that are left -/

namespace ExcerptItem

variable {query : Query}

theorem keep?_eq_some_iff {build : List (Tree ExcerptItem) → Tree ExcerptItem}
    {parts : List (Tree ExcerptItem)} {kept : Tree ExcerptItem} :
    keep? build parts = some kept ↔ parts ≠ [] ∧ kept = build parts := by
  rw [keep?]
  cases parts <;> simp [eq_comm]

mutual

/-- What is left of a tree has parts everywhere. -/
theorem solid_of_leftOfTree? : {tree kept : Tree ExcerptItem} →
    leftOfTree? query tree = some kept → kept.Solid
  | .leaf item, kept, left => by
      rw [leftOfTree?] at left
      obtain ⟨item, -, rfl⟩ := Option.map_eq_some_iff.1 left
      exact .leaf item
  | .seq parts, kept, left => by
      rw [leftOfTree?, keep?_eq_some_iff] at left
      obtain ⟨some, rfl⟩ := left
      exact .seq some solid_of_mem_leftOfTrees
  | .alt parts, kept, left => by
      rw [leftOfTree?, keep?_eq_some_iff] at left
      obtain ⟨some, rfl⟩ := left
      exact .alt some solid_of_mem_leftOfTrees

theorem solid_of_mem_leftOfTrees : {parts : List (Tree ExcerptItem)} →
    ∀ kept ∈ leftOfTrees query parts, kept.Solid
  | [], kept, mem => by simp [leftOfTrees] at mem
  | part :: rest, kept, mem => by
      rw [leftOfTrees] at mem
      rcases List.mem_append.1 mem with here | there
      · exact solid_of_leftOfTree? (Option.mem_toList.1 here)
      · exact solid_of_mem_leftOfTrees kept there

end

theorem mem_callsOfTrees {parts : List (Tree ExcerptItem)} {site : Invocation} :
    site ∈ callsOfTrees parts ↔ ∃ part ∈ parts, site ∈ callsOfTree part := by
  induction parts with
  | nil => simp [callsOfTrees]
  | cons part rest ih => rw [callsOfTrees, List.mem_append, ih, List.exists_mem_cons_iff]

mutual

/-- A call of an item that matches some word is left. -/
theorem exists_left? : {item : ExcerptItem} → {sought : Invocation} → sought ∈ item.calls →
    query.matchesCall sought = true →
    ∃ kept, item.left? query = some kept ∧ sought ∈ kept.calls
  | .invoked site, sought, mem, matched => by
      rw [calls] at mem
      obtain rfl := List.mem_singleton.1 mem
      rw [left?, if_pos matched]
      exact ⟨.invoked sought, rfl, List.mem_singleton_self sought⟩
  | .call site context depth body, sought, mem, matched => by
      rw [calls] at mem
      rw [left?]
      cases left : leftOfTree? query body with
      | some kept =>
          refine ⟨.call site context depth kept.normalize, rfl, ?_⟩
          rw [calls, List.mem_cons, mem_callsOfTree_normalize (solid_of_leftOfTree? left).feasible]
          refine (List.mem_cons.1 mem).imp_right fun below => ?_
          obtain ⟨other, same, listed⟩ := exists_leftOfTree? below matched
          cases left.symm.trans same
          exact listed
      | none =>
          rcases List.mem_cons.1 mem with rfl | below
          · rw [Option.map_none, if_pos matched]
            exact ⟨.invoked sought, rfl, List.mem_singleton_self sought⟩
          · obtain ⟨other, same, -⟩ := exists_leftOfTree? below matched
            cases left.symm.trans same

/-- A call of a tree that matches some word is left. -/
theorem exists_leftOfTree? : {tree : Tree ExcerptItem} → {sought : Invocation} →
    sought ∈ callsOfTree tree → query.matchesCall sought = true →
    ∃ kept, leftOfTree? query tree = some kept ∧ sought ∈ callsOfTree kept
  | .leaf item, sought, mem, matched => by
      rw [callsOfTree] at mem
      obtain ⟨kept, left, listed⟩ := exists_left? mem matched
      rw [leftOfTree?, left]
      exact ⟨.leaf kept, rfl, by rwa [callsOfTree]⟩
  | .seq parts, sought, mem, matched => by
      rw [callsOfTree] at mem
      obtain ⟨part, kept, listed⟩ := exists_mem_leftOfTrees mem matched
      rw [leftOfTree?]
      refine ⟨_, keep?_eq_some_iff.2 ⟨List.ne_nil_of_mem kept, rfl⟩, ?_⟩
      rw [callsOfTree]
      exact mem_callsOfTrees.2 ⟨part, kept, listed⟩
  | .alt parts, sought, mem, matched => by
      rw [callsOfTree] at mem
      obtain ⟨part, kept, listed⟩ := exists_mem_leftOfTrees mem matched
      rw [leftOfTree?]
      refine ⟨_, keep?_eq_some_iff.2 ⟨List.ne_nil_of_mem kept, rfl⟩, ?_⟩
      rw [callsOfTree]
      exact mem_callsOfTrees.2 ⟨part, kept, listed⟩

theorem exists_mem_leftOfTrees : {parts : List (Tree ExcerptItem)} → {sought : Invocation} →
    sought ∈ callsOfTrees parts → query.matchesCall sought = true →
    ∃ kept ∈ leftOfTrees query parts, sought ∈ callsOfTree kept
  | [], _, mem, _ => by simp [callsOfTrees] at mem
  | part :: rest, sought, mem, matched => by
      rw [callsOfTrees] at mem
      rw [leftOfTrees]
      rcases List.mem_append.1 mem with here | there
      · obtain ⟨kept, left, listed⟩ := exists_leftOfTree? here matched
        exact ⟨kept, List.mem_append_left _ (Option.mem_toList.2 left), listed⟩
      · obtain ⟨kept, mem, listed⟩ := exists_mem_leftOfTrees there matched
        exact ⟨kept, List.mem_append_right _ mem, listed⟩

end

end ExcerptItem

namespace Excerpt

variable (excerpt : Excerpt) (query : Query)

/-- What is left of an excerpt has all calls that match some word. -/
theorem covers_pruned : query.Covers (excerpt.pruned query).calls excerpt.calls := by
  intro call mem matched
  obtain ⟨kept, left, listed⟩ := ExcerptItem.exists_leftOfTree? mem matched
  rw [calls, pruned_eq, ExcerptItem.leftOfBody?, left]
  exact (ExcerptItem.mem_callsOfTree_normalize (ExcerptItem.solid_of_leftOfTree? left).feasible).2 listed

/-- What is left of an excerpt fulfils a query if the excerpt does. -/
theorem isFulfilledBy_pruned {excerpt : Excerpt} {query : Query}
    (fulfilled : query.isFulfilledBy excerpt.pathSummary = true) :
    query.isFulfilledBy (excerpt.pruned query).pathSummary = true :=
  (excerpt.covers_pruned query).isFulfilledBy fulfilled

end Excerpt

end CallSearch
