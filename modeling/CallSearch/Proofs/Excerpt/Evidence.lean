/-
# CallSearch.Proofs.Excerpt.Evidence — pruning keeps the evidence and nothing else

Evidence is a call that matches some word of the query.  What pruning leaves can be told from
its looks (`ExcerptItem.Stays`): a call without a body is evidence, and the body of any other
call is in canonical form, has parts everywhere and holds only such items.  Every such body
holds evidence, and pruning leaves it as it is.

`Excerpt.prune_exact` puts together what pruning keeps, what it leaves, what it records, and
that a second time changes nothing.
-/
import CallSearch.Proofs.Excerpt.Prune
import CallSearch.Proofs.Sample

namespace CallSearch

set_option autoImplicit false

namespace ExcerptItem

/-! ## Where what is left comes from -/

variable {query : Query}

/-- What is left of an item: its call alone, which then is evidence, or the call with what is left
of its body. -/
theorem left?_cases {item kept : ExcerptItem} (left : item.left? query = some kept) :
    (kept = .invoked item.invocation ∧ query.matchesCall item.invocation = true) ∨
      ∃ site context depth body rest, item = .call site context depth body ∧
        leftOfTree? query body = some rest ∧ kept = .call site context depth rest.normalize := by
  cases item with
  | invoked site =>
      rw [left?, Option.ite_none_right_eq_some] at left
      obtain ⟨matched, same⟩ := left
      cases same
      exact Or.inl ⟨rfl, matched⟩
  | call site context depth body =>
      rw [left?] at left
      cases below : leftOfTree? query body with
      | none =>
          simp only [below, Option.map_none, Option.ite_none_right_eq_some] at left
          obtain ⟨matched, same⟩ := left
          cases same
          exact Or.inl ⟨rfl, matched⟩
      | some rest =>
          rw [below] at left
          cases left
          exact Or.inr ⟨site, context, depth, body, rest, rfl, below, rfl⟩

/-- A call with a body is left of one with a body of which something is left. -/
theorem left?_eq_call {item : ExcerptItem} {site : Invocation} {context : Option Signature}
    {depth : Nat} {kept : Tree ExcerptItem}
    (left : item.left? query = some (.call site context depth kept)) :
    ∃ body, item = .call site context depth body ∧ leftOfBody? query body = some kept := by
  rcases left?_cases left with ⟨impossible, -⟩ | ⟨_, _, _, body, rest, rfl, below, same⟩
  · cases impossible
  · cases same
    exact ⟨body, rfl, by rw [leftOfBody?, below, Option.map_some]⟩

theorem invocation_of_left? {item kept : ExcerptItem} (left : item.left? query = some kept) :
    kept.invocation = item.invocation := by
  rcases left?_cases left with ⟨rfl, -⟩ | ⟨site, context, depth, body, rest, rfl, -, rfl⟩
  · rfl
  · rfl

mutual

/-- A leaf of what is left of a tree is what is left of a leaf. -/
theorem exists_leaf_of_leftOfTree? : {tree kept : Tree ExcerptItem} →
    leftOfTree? query tree = some kept → ∀ item ∈ kept.leaves,
      ∃ leaf ∈ tree.leaves, leaf.left? query = some item
  | .leaf leaf, kept, left => by
      rw [leftOfTree?] at left
      obtain ⟨other, here, rfl⟩ := Option.map_eq_some_iff.1 left
      intro item mem
      rw [Tree.leaves, List.mem_singleton] at mem
      exact ⟨leaf, by simp [Tree.leaves], mem ▸ here⟩
  | .seq parts, kept, left => by
      rw [leftOfTree?, keep?_eq_some_iff] at left
      obtain ⟨-, rfl⟩ := left
      rw [Tree.leaves, Tree.leaves]
      exact exists_leaf_of_leftOfTrees
  | .alt parts, kept, left => by
      rw [leftOfTree?, keep?_eq_some_iff] at left
      obtain ⟨-, rfl⟩ := left
      rw [Tree.leaves, Tree.leaves]
      exact exists_leaf_of_leftOfTrees

theorem exists_leaf_of_leftOfTrees : {parts : List (Tree ExcerptItem)} →
    ∀ item ∈ Tree.leavesOfAll (leftOfTrees query parts),
      ∃ leaf ∈ Tree.leavesOfAll parts, leaf.left? query = some item
  | [], item, mem => by simp [leftOfTrees, Tree.leavesOfAll] at mem
  | part :: rest, item, mem => by
      rw [leftOfTrees, Tree.mem_leavesOfAll] at mem
      obtain ⟨kept, listed, here⟩ := mem
      rw [Tree.leavesOfAll]
      simp only [List.mem_append]
      rcases List.mem_append.1 listed with left | listed
      · obtain ⟨leaf, mem, same⟩ :=
          exists_leaf_of_leftOfTree? (Option.mem_toList.1 left) item here
        exact ⟨leaf, Or.inl mem, same⟩
      · obtain ⟨leaf, mem, same⟩ :=
          exists_leaf_of_leftOfTrees item (Tree.mem_leavesOfAll.2 ⟨kept, listed, here⟩)
        exact ⟨leaf, Or.inr mem, same⟩

end

/-- A leaf of what is left of a body is what is left of a leaf. -/
theorem exists_leaf_of_leftOfBody? {body kept : Tree ExcerptItem}
    (left : leftOfBody? query body = some kept) :
    ∀ item ∈ kept.leaves, ∃ leaf ∈ body.leaves, leaf.left? query = some item := by
  obtain ⟨rest, here, rfl⟩ := Option.map_eq_some_iff.1 left
  exact fun item mem => exists_leaf_of_leftOfTree? here item (Tree.mem_leaves_of_normalize mem)

/-- Whatever stands in what is left of an item, at any depth, is what is left of something in
it. -/
theorem exists_origin (item : ExcerptItem) : ∀ {kept}, item.left? query = some kept →
    ∀ other ∈ kept.items, ∃ origin ∈ item.items, origin.left? query = some other := by
  induction item using leaves_induction with
  | invoked site =>
      intro kept left other mem
      rcases left?_cases left with ⟨rfl, -⟩ | ⟨_, _, _, _, _, impossible, -, -⟩
      · rw [items, List.mem_singleton] at mem
        exact ⟨.invoked site, by simp [items], mem ▸ left⟩
      · cases impossible
  | call site context depth body ih =>
      intro kept left other mem
      rw [items]
      rcases left?_cases left with ⟨rfl, -⟩ | ⟨_, _, _, _, rest, same, below, rfl⟩
      · rw [items, List.mem_singleton] at mem
        exact ⟨_, List.mem_cons_self, mem ▸ left⟩
      · cases same
        rw [items, List.mem_cons, mem_itemsOfTree] at mem
        rcases mem with rfl | ⟨leaf, listed, mem⟩
        · exact ⟨_, List.mem_cons_self, left⟩
        · obtain ⟨source, inBody, here⟩ :=
            exists_leaf_of_leftOfTree? below leaf (Tree.mem_leaves_of_normalize listed)
          obtain ⟨origin, found, same⟩ := ih source inBody here other mem
          exact ⟨origin, List.mem_cons_of_mem _ (mem_itemsOfTree.2 ⟨source, inBody, found⟩), same⟩

theorem exists_origin_of_leftOfBody? {body kept : Tree ExcerptItem}
    (left : leftOfBody? query body = some kept) :
    ∀ other ∈ itemsOfTree kept, ∃ origin ∈ itemsOfTree body, origin.left? query = some other := by
  intro other mem
  obtain ⟨leaf, listed, here⟩ := mem_itemsOfTree.1 mem
  obtain ⟨source, inBody, left'⟩ := exists_leaf_of_leftOfBody? left leaf listed
  obtain ⟨origin, found, same⟩ := exists_origin source left' other here
  exact ⟨origin, mem_itemsOfTree.2 ⟨source, inBody, found⟩, same⟩

/-! ## Items that stay -/

/-- The items that pruning leaves as they are. -/
inductive Stays (query : Query) : ExcerptItem → Prop
  | invoked {site : Invocation} : query.matchesCall site = true → Stays query (.invoked site)
  | call {site : Invocation} {context : Option Signature} {depth : Nat}
      {body : Tree ExcerptItem} : body.Solid → body.IsNormal →
      (∀ item ∈ body.leaves, Stays query item) → Stays query (.call site context depth body)

theorem leftOfTrees_eq_self {parts : List (Tree ExcerptItem)}
    (each : ∀ part ∈ parts, leftOfTree? query part = some part) :
    leftOfTrees query parts = parts := by
  induction parts with
  | nil => rw [leftOfTrees]
  | cons part rest ih =>
      rw [leftOfTrees, each part List.mem_cons_self,
        ih fun other mem => each other (List.mem_cons_of_mem _ mem), Option.toList_some,
        List.singleton_append]

/-- A tree of items that are left as they are is too, if it has parts everywhere. -/
theorem leftOfTree?_eq_self {tree : Tree ExcerptItem} (solid : tree.Solid)
    (same : ∀ item ∈ tree.leaves, item.left? query = some item) :
    leftOfTree? query tree = some tree := by
  induction solid with
  | leaf item => rw [leftOfTree?, same item (by simp [Tree.leaves]), Option.map_some]
  | seq some _ ih =>
      rw [Tree.leaves] at same
      rw [leftOfTree?, leftOfTrees_eq_self fun part mem => ih part mem fun item here =>
        same item (Tree.mem_leavesOfAll.2 ⟨part, mem, here⟩), keep?_eq_some_iff]
      exact ⟨some, rfl⟩
  | alt some _ ih =>
      rw [Tree.leaves] at same
      rw [leftOfTree?, leftOfTrees_eq_self fun part mem => ih part mem fun item here =>
        same item (Tree.mem_leavesOfAll.2 ⟨part, mem, here⟩), keep?_eq_some_iff]
      exact ⟨some, rfl⟩

/-- Items that stay are left as they are. -/
theorem Stays.left?_eq_self {item : ExcerptItem} (stays : Stays query item) :
    item.left? query = some item := by
  induction stays with
  | invoked matched => rw [left?, if_pos matched]
  | call solid normal _ ih =>
      rw [left?, leftOfTree?_eq_self solid ih, Option.map_some, normal.normalize_eq_self]

/-- What is left of an item stays. -/
theorem stays_of_left? (item : ExcerptItem) : ∀ {kept}, item.left? query = some kept →
    Stays query kept := by
  induction item using leaves_induction with
  | invoked site =>
      intro kept left
      rcases left?_cases left with ⟨rfl, matched⟩ | ⟨_, _, _, _, _, impossible, -, -⟩
      · exact .invoked matched
      · cases impossible
  | call site context depth body ih =>
      intro kept left
      rcases left?_cases left with ⟨rfl, matched⟩ | ⟨_, _, _, _, rest, same, below, rfl⟩
      · exact .invoked matched
      · cases same
        refine .call (solid_of_leftOfTree? below).normalize (Tree.isNormal_normalize rest) ?_
        intro item mem
        obtain ⟨leaf, listed, here⟩ :=
          exists_leaf_of_leftOfTree? below item (Tree.mem_leaves_of_normalize mem)
        exact ih leaf listed here

/-- What is left of a body is left as it is by pruning once more. -/
theorem leftOfBody?_of_left {body kept : Tree ExcerptItem}
    (left : leftOfBody? query body = some kept) : leftOfBody? query kept = some kept := by
  have same : ∀ item ∈ kept.leaves, item.left? query = some item := by
    intro item mem
    obtain ⟨leaf, -, here⟩ := exists_leaf_of_leftOfBody? left item mem
    exact (stays_of_left? leaf here).left?_eq_self
  obtain ⟨rest, here, rfl⟩ := Option.map_eq_some_iff.1 left
  rw [leftOfBody?, leftOfTree?_eq_self (solid_of_leftOfTree? here).normalize same,
    Option.map_some, Tree.normalize_normalize]

/-- Items that stay hold evidence. -/
theorem Stays.exists_evidence {item : ExcerptItem} (stays : Stays query item) :
    ∃ call ∈ item.calls, query.matchesCall call = true := by
  induction stays with
  | @invoked site matched =>
      rw [calls]
      exact ⟨site, List.mem_singleton_self site, matched⟩
  | call solid _ _ ih =>
      obtain ⟨leaf, listed⟩ := solid.exists_leaf
      obtain ⟨call, mem, matched⟩ := ih leaf listed
      rw [calls, callsOfTree_eq]
      exact ⟨call, List.mem_cons_of_mem _ (List.mem_flatMap.2 ⟨leaf, listed, mem⟩), matched⟩

/-- The body of a call that stays holds evidence. -/
theorem Stays.exists_evidence_body {site : Invocation} {context : Option Signature} {depth : Nat}
    {body : Tree ExcerptItem} (stays : Stays query (.call site context depth body)) :
    ∃ call ∈ callsOfTree body, query.matchesCall call = true := by
  cases stays with
  | call solid _ each =>
      obtain ⟨leaf, listed⟩ := solid.exists_leaf
      obtain ⟨call, mem, matched⟩ := (each leaf listed).exists_evidence
      rw [callsOfTree_eq]
      exact ⟨call, List.mem_flatMap.2 ⟨leaf, listed, mem⟩, matched⟩

end ExcerptItem

namespace Excerpt

variable (excerpt : Excerpt) (query : Query)

/-- The items below the root, at any depth. -/
def items : List ExcerptItem := ExcerptItem.itemsOfTree excerpt.body

theorem mem_calls {call : Invocation} :
    call ∈ excerpt.calls ↔ ∃ item ∈ excerpt.items, item.invocation = call :=
  ExcerptItem.mem_callsOfTree

variable {excerpt query}

/-- Every item of what is left of an excerpt is what is left of one of its items. -/
theorem exists_origin {other : ExcerptItem} (mem : other ∈ (excerpt.pruned query).items) :
    ∃ origin ∈ excerpt.items, origin.left? query = some other := by
  rw [items, pruned_eq] at mem
  cases left : ExcerptItem.leftOfBody? query excerpt.body with
  | none =>
      rw [left, Option.getD_none, Tree.empty, ExcerptItem.itemsOfTree,
        ExcerptItem.itemsOfTrees] at mem
      cases mem
  | some kept =>
      rw [left] at mem
      exact ExcerptItem.exists_origin_of_leftOfBody? left other mem

theorem mem_calls_of_pruned {call : Invocation} (mem : call ∈ (excerpt.pruned query).calls) :
    call ∈ excerpt.calls := by
  obtain ⟨item, listed, rfl⟩ := (mem_calls _).1 mem
  obtain ⟨origin, found, left⟩ := exists_origin listed
  exact (mem_calls _).2 ⟨origin, found, (ExcerptItem.invocation_of_left? left).symm⟩

/-- The evidence is the same before and after. -/
theorem mem_calls_pruned_iff {call : Invocation} (matched : query.matchesCall call = true) :
    call ∈ (excerpt.pruned query).calls ↔ call ∈ excerpt.calls :=
  ⟨mem_calls_of_pruned, fun mem => excerpt.covers_pruned query call mem matched⟩

/-- Each word is matched by what is left if it is matched by the excerpt. -/
theorem isMatchedBy_pruned {pattern : Pattern} (listed : pattern ∈ query.patterns) :
    pattern.isMatchedBy (excerpt.pruned query).pathSummary =
      pattern.isMatchedBy excerpt.pathSummary := by
  rw [Bool.eq_iff_iff, pathSummary, pathSummary, pattern.isMatchedBy_iff (Summary.of_calls _),
    pattern.isMatchedBy_iff (Summary.of_calls _)]
  refine exists_congr fun call => and_congr_left fun matched => ?_
  exact mem_calls_pruned_iff (query.matchesCall_iff.2 ⟨pattern, listed, matched⟩)

/-- What is left of an excerpt is left as it is. -/
theorem pruned_pruned : (excerpt.pruned query).pruned query = excerpt.pruned query := by
  rw [pruned_eq (excerpt.pruned query), pruned_eq excerpt]
  cases left : ExcerptItem.leftOfBody? query excerpt.body with
  | none => rfl
  | some kept =>
      rw [Option.getD_some, ExcerptItem.leftOfBody?_of_left left, Option.getD_some]

/-- What is left of an excerpt contributes what the excerpt does. -/
theorem contribution_pruned :
    (excerpt.pruned query).contribution query = excerpt.contribution query := by
  refine ((of_contribution (excerpt.pruned query) query).matching.congr fun call => ?_).unique
    (excerpt.of_contribution query).matching
  have root : (excerpt.pruned query).call = excerpt.call := by rw [pruned_eq]
  refine and_congr_right fun matched => ?_
  rw [root, mem_calls_pruned_iff matched]

/-! ## Summaries with a memo -/

/-- Calls of one method with one context and depth have one body, as they do in what is cut out
of a call forest. -/
def SharesBodies (excerpt : Excerpt) : Prop :=
  ∀ site site' context depth body body', .call site context depth body ∈ excerpt.items →
    .call site' context depth body' ∈ excerpt.items → site.callee = site'.callee → body = body'

/-- The summaries kept are those of the calls of their keys. -/
def RightMemo (excerpt : Excerpt) (memo : ExcerptItem.Memo) : Prop :=
  ∀ site context depth body summary, .call site context depth body ∈ excerpt.items →
    memo.lookup (⟨site.callee, context⟩, depth) = some summary →
    summary = .ofCalls (ExcerptItem.callsOfTree body)

theorem SharesBodies.settles_summarize (shares : excerpt.SharesBodies) (item : ExcerptItem) :
    (∀ other ∈ item.items, other ∈ excerpt.items) →
    ExcerptItem.Settles excerpt.RightMemo item.summarize item.calls := by
  induction item using ExcerptItem.leaves_induction with
  | invoked site =>
      intro _ memo right
      rw [ExcerptItem.summarize, ExcerptItem.calls]
      exact ⟨rfl, right⟩
  | call site context depth body ih =>
      intro inside
      rw [ExcerptItem.items] at inside
      have here := inside _ List.mem_cons_self
      refine ExcerptItem.settles_call (ExcerptItem.settles_remember
        (ExcerptItem.settles_summarizeTree body fun leaf mem => ih leaf mem fun other listed => ?_)
        (fun memo right summary found => right _ _ _ _ _ here found) fun memo right => ?_)
      · exact inside other (List.mem_cons_of_mem _ (ExcerptItem.mem_itemsOfTree.2 ⟨leaf, mem, listed⟩))
      · intro site' context' depth' body' summary there found
        rw [List.lookup_cons] at found
        split at found
        · next same =>
          simp only [beq_iff_eq, Prod.mk.injEq, NodeKey.mk.injEq] at same
          obtain ⟨⟨callees, rfl⟩, rfl⟩ := same
          cases found
          rw [shares _ _ _ _ _ _ here there callees.symm]
        · exact right _ _ _ _ _ there found

/-- The memo makes no difference where bodies are shared. -/
theorem SharesBodies.summary_eq (shares : excerpt.SharesBodies) :
    excerpt.summary = excerpt.pathSummary := by
  have settles : ExcerptItem.Settles excerpt.RightMemo (ExcerptItem.summarizeTree excerpt.body)
      excerpt.calls :=
    ExcerptItem.settles_summarizeTree excerpt.body fun leaf mem =>
      shares.settles_summarize leaf fun other listed =>
        ExcerptItem.mem_itemsOfTree.2 ⟨leaf, mem, listed⟩
  have empty : excerpt.RightMemo [] := by
    intro _ _ _ _ _ _ found
    cases found
  exact (settles [] empty).1

/-- What is left of an excerpt shares bodies if the excerpt does. -/
theorem SharesBodies.pruned (shares : excerpt.SharesBodies) :
    (excerpt.pruned query).SharesBodies := by
  intro site site' context depth kept kept' here there callees
  obtain ⟨origin, found, left⟩ := exists_origin here
  obtain ⟨origin', found', left'⟩ := exists_origin there
  obtain ⟨body, rfl, below⟩ := ExcerptItem.left?_eq_call left
  obtain ⟨body', rfl, below'⟩ := ExcerptItem.left?_eq_call left'
  obtain rfl := shares _ _ _ _ _ _ found found' callees
  exact Option.some.inj (below.symm.trans below')

/-! ## Pruning -/

/-- A call is evidence if it matches some word by its method or a literal.  For every excerpt and
every query

* pruning keeps the evidence below the root and adds none, so each word is matched by what is left
  if and only if it is matched by the excerpt, be it summarized call by call or, where bodies are
  shared, with a memo;
* at any depth of what is left, a call without a body is evidence and the body of any other call
  holds evidence;
* what is recorded is what recording the calls in any order would leave;
* pruning what is left changes nothing and records the same. -/
theorem prune_exact (excerpt : Excerpt) (query : Query) :
    (∀ call, query.matchesCall call = true →
      (call ∈ (excerpt.pruned query).calls ↔ call ∈ excerpt.calls)) ∧
    (∀ pattern ∈ query.patterns,
      pattern.isMatchedBy (excerpt.pruned query).pathSummary =
        pattern.isMatchedBy excerpt.pathSummary ∧
      (excerpt.SharesBodies → pattern.isMatchedBy (excerpt.pruned query).summary =
        pattern.isMatchedBy excerpt.summary)) ∧
    (∀ site, .invoked site ∈ (excerpt.pruned query).items → query.matchesCall site = true) ∧
    (∀ site context depth body, .call site context depth body ∈ (excerpt.pruned query).items →
      ∃ call ∈ ExcerptItem.callsOfTree body, query.matchesCall call = true) ∧
    (∀ calls : List Invocation,
      (∀ call, call ∈ calls ↔ call = excerpt.call ∨ call ∈ excerpt.calls) →
      Contribution.recorded query calls = excerpt.contribution query) ∧
    (excerpt.pruned query).prune query = excerpt.prune query := by
  have stays : ∀ item ∈ (excerpt.pruned query).items, item.Stays query := by
    intro item mem
    obtain ⟨origin, -, left⟩ := exists_origin mem
    exact ExcerptItem.stays_of_left? origin left
  refine ⟨fun call matched => mem_calls_pruned_iff matched, fun pattern listed => ?_,
    fun site mem => ?_, fun site context depth body mem => (stays _ mem).exists_evidence_body,
    fun calls all => (excerpt.of_contribution query).eq_recorded all, ?_⟩
  · have same := @isMatchedBy_pruned excerpt query pattern listed
    refine ⟨same, fun shares => ?_⟩
    rw [shares.summary_eq, shares.pruned.summary_eq, same]
  · cases stays _ mem with
    | invoked matched => exact matched
  · exact Prod.ext pruned_pruned contribution_pruned

/-- A method that calls one method twice, which gets and puts, puts by itself, and at last gets
by a method that closes. -/
def sampleTwice : Excerpt :=
  let shared : Tree ExcerptItem :=
    .seq [.leaf (.invoked (sampleCall "get")), .leaf (.invoked (sampleCall "put"))]
  ⟨sampleCall "run", none, 2, .seq [.leaf (.call (sampleCall "one") none 1 shared),
    .leaf (.invoked (sampleCall "put")), .leaf (.call (sampleCall "one") none 1 shared),
    .leaf (.call (sampleCall "get") none 1 (.leaf (.invoked (sampleCall "close"))))]⟩

/-- Both calls of the shared method are left, with getting alone, and the last call without its
body. -/
theorem prune_exact_sampleTwice :
    ∃ query, Query.compile false ["m.g"] = .ok query ∧
      (sampleTwice.pruned query).body =
        .seq [.leaf (.call (sampleCall "one") none 1 (.leaf (.invoked (sampleCall "get")))),
          .leaf (.call (sampleCall "one") none 1 (.leaf (.invoked (sampleCall "get")))),
          .leaf (.invoked (sampleCall "get"))] ∧
      sampleTwice.SharesBodies ∧
      (∀ pattern ∈ query.patterns, pattern.isMatchedBy (sampleTwice.pruned query).summary =
        pattern.isMatchedBy sampleTwice.summary) ∧
      Contribution.recorded query (sampleTwice.calls ++ [sampleTwice.call]) =
        sampleTwice.contribution query ∧
      (sampleTwice.pruned query).prune query = sampleTwice.prune query := by
  obtain ⟨query, compiled, matched⟩ := Logged.exists_ok_of_map (show
    (Query.compile false ["m.g"]).toOption.map (fun query =>
      ["get", "put", "close"].map fun name => query.matchesCall (sampleCall name)) =
      some [true, false, false] by cbv)
  have shares : sampleTwice.SharesBodies := by
    intro site site' context depth body body' here there callees
    simp only [items, sampleTwice, ExcerptItem.itemsOfTree, ExcerptItem.itemsOfTrees,
      ExcerptItem.items, List.append_nil, List.cons_append, List.nil_append, List.mem_cons,
      ExcerptItem.call.injEq, reduceCtorEq, List.not_mem_nil, or_self, or_false, false_or,
      or_self_left] at here there
    rcases here with ⟨rfl, rfl, rfl, rfl⟩ | ⟨rfl, rfl, rfl, rfl⟩
    · rcases there with ⟨-, -, -, rfl⟩ | ⟨rfl, -, -, -⟩
      · rfl
      · exact absurd callees (by decide)
    · rcases there with ⟨rfl, -, -, -⟩ | ⟨-, -, -, rfl⟩
      · exact absurd callees (by decide)
      · rfl
  obtain ⟨-, words, -, -, order, again⟩ := prune_exact sampleTwice query
  refine ⟨query, compiled, ?_, shares, fun pattern listed => (words pattern listed).2 shares,
    order _ fun call => ?_, again⟩
  · simp only [List.map_cons, List.map_nil, List.cons.injEq] at matched
    obtain ⟨get, put, close, -⟩ := matched
    simp [pruned_eq, sampleTwice, ExcerptItem.leftOfBody?, ExcerptItem.leftOfTree?,
      ExcerptItem.leftOfTrees, ExcerptItem.left?, ExcerptItem.keep?, get, put, close,
      Tree.normalize, Tree.normalizeAll, Tree.chain, Tree.spliceSeq, Tree.single]
  · rw [List.mem_append, List.mem_singleton, or_comm]

end Excerpt

end CallSearch
