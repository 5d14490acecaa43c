/-
# CallSearch.Proofs.Excerpt.Paths — the paths of an excerpt are exact

A path of an excerpt skips a place where no alternative is worth offering, and takes one
that is worth it otherwise.  Where nothing in the excerpt is impossible some way leads
through every place skipped, so a path shows nothing but calls of one way, in their order
(`Straightens`).  What a way shows in evidence is on some path already (`Covered`).

Hence an excerpt has a path that fulfils a query exactly if it has a way that does:
`Excerpt.paths_exact`.
-/
import CallSearch.Proofs.Excerpt.Ways
import CallSearch.Proofs.Sample
import CallSearch.Proofs.Tree.Feasible

namespace CallSearch

set_option autoImplicit false

/-! ## Bodies shown -/

/-- A tree without alternatives. -/
inductive Tree.IsStraight {α : Type} : Tree α → Prop
  | leaf {item : α} : Tree.IsStraight (.leaf item)
  | seq {parts : List (Tree α)} :
      (∀ part ∈ parts, Tree.IsStraight part) → Tree.IsStraight (.seq parts)

/-- A property of trees holds of the body of an item and of every body below. -/
inductive ExcerptItem.Everywhere (P : Tree ExcerptItem → Prop) : ExcerptItem → Prop
  | invoked {site : Invocation} : ExcerptItem.Everywhere P (.invoked site)
  | call {site : Invocation} {context : Option Signature} {depth : Nat}
      {body : Tree ExcerptItem} :
      P body → (∀ item ∈ body.leaves, ExcerptItem.Everywhere P item) →
      ExcerptItem.Everywhere P (.call site context depth body)

/-- A property of trees holds of the body of an excerpt and of every body below. -/
def Excerpt.Everywhere (P : Tree ExcerptItem → Prop) (excerpt : Excerpt) : Prop :=
  P excerpt.body ∧ ∀ item ∈ excerpt.body.leaves, item.Everywhere P

/-- The canonical form of a sequence of leaves has no alternatives. -/
theorem Tree.isStraight_normalize_ofPath {α : Type} [Ord α] (path : List α) :
    (Tree.ofPath path).normalize.IsStraight := by
  have leaves : ∀ part ∈ path.map Tree.leaf, part.IsStraight := by
    intro part mem
    obtain ⟨item, -, rfl⟩ := List.mem_map.1 mem
    exact .leaf
  rw [ofPath, normalize, normalizeAll_map_leaf, chain, spliceSeq_map_leaf]
  change (single .seq (path.map leaf)).IsStraight
  unfold single
  split
  · next part same => exact leaves part (same ▸ List.mem_singleton_self part)
  · exact .seq leaves

namespace ExcerptItem

/-! ## Paths and the ways they are part of -/

/-- Ways one after another are a way. -/
theorem Way.concat {first second : List ExcerptItem} {before after : List Invocation}
    (way : Way first before) (way' : Way second after) :
    Way (first ++ second) (before ++ after) := by
  induction way with
  | nil => exact way'
  | invoked _ ih => exact .invoked ih
  | call inside below _ _ ih =>
      rw [List.append_assoc]
      exact .call inside below ih

/-- No alternative is left below a path, and its calls are on a way through one of some sequences
of items, in the same order. -/
structure Straightens (through : Language ExcerptItem) (path : List ExcerptItem) : Prop where
  straight : ∀ item ∈ path, item.Everywhere Tree.IsStraight
  way : ∃ items ∈ through, ∃ calls, Way items calls ∧
    (path.flatMap ExcerptItem.calls).Sublist calls

namespace Straightens

variable {through other : Language ExcerptItem} {path rest : List ExcerptItem}

theorem append (h : Straightens through path) (h' : Straightens other rest) :
    Straightens (through * other) (path ++ rest) where
  straight item mem := (List.mem_append.1 mem).elim (h.straight item) (h'.straight item)
  way := by
    obtain ⟨items, inside, calls, way, sublist⟩ := h.way
    obtain ⟨items', inside', calls', way', sublist'⟩ := h'.way
    refine ⟨items ++ items', Language.append_mem_mul inside inside', calls ++ calls',
      way.concat way', ?_⟩
    rw [List.flatMap_append]
    exact sublist.append sublist'

theorem mono (h : Straightens through path) (sub : ∀ items ∈ through, items ∈ other) :
    Straightens other path where
  straight := h.straight
  way := by
    obtain ⟨items, inside, found⟩ := h.way
    exact ⟨items, sub items inside, found⟩

/-- Only bodies of paths stand in the place of a body. -/
theorem body (h : Straightens through path) {item : ExcerptItem}
    (mem : item ∈ (Tree.ofPath path).normalize.leaves) : item.Everywhere Tree.IsStraight := by
  rw [Tree.leaves_normalize_ofPath] at mem
  exact h.straight item mem

end Straightens

variable {query : Query}

/-- Every body for some paths is the canonical form of one of them, or of the empty one. -/
theorem exists_of_mem_pathBodies {paths : List (List ExcerptItem)} {body : Tree ExcerptItem}
    (mem : body ∈ pathBodies paths) :
    ∃ path, (path = [] ∨ path ∈ paths) ∧ body = (Tree.ofPath path).normalize := by
  rw [pathBodies] at mem
  split at mem
  · have empty : body = .empty := List.mem_singleton.1 mem
    exact ⟨[], Or.inl rfl, by rw [empty]; rfl⟩
  · obtain ⟨path, listed, rfl⟩ := List.mem_map.1 mem
    exact ⟨path, Or.inr listed, rfl⟩

/-- Every combination has a path of each part. -/
theorem exists_of_mem_combinations {parts : List (List (List ExcerptItem))}
    {path : List ExcerptItem} (mem : path ∈ combinations parts) :
    ∃ choices, List.Forall₂ (fun part choice => choice ∈ part) parts choices ∧
      choices.flatten = path := by
  have split : ∀ (parts : List (List (List ExcerptItem))) (paths : List (List ExcerptItem)),
      path ∈ parts.foldl (fun paths part => paths.flatMap fun path => part.map (path ++ ·)) paths →
      ∃ start ∈ paths, ∃ choices, List.Forall₂ (fun part choice => choice ∈ part) parts choices ∧
        start ++ choices.flatten = path := by
    intro parts
    induction parts with
    | nil => exact fun paths mem => ⟨path, mem, [], .nil, by simp⟩
    | cons part parts ih =>
        intro paths mem
        rw [List.foldl_cons] at mem
        obtain ⟨start, listed, choices, chosen, same⟩ := ih _ mem
        obtain ⟨before, here, extended⟩ := List.mem_flatMap.1 listed
        obtain ⟨choice, taken, rfl⟩ := List.mem_map.1 extended
        refine ⟨before, here, choice :: choices, .cons taken chosen, ?_⟩
        rw [List.flatten_cons, ← List.append_assoc, same]
  obtain ⟨start, listed, choices, chosen, same⟩ := split parts [[]] mem
  rw [List.mem_singleton.1 listed, List.nil_append] at same
  exact ⟨choices, chosen, same⟩

/-- Skipping the parts without paths is taking the empty path there. -/
theorem exists_choices_of_taken {parts : List (List (List ExcerptItem))}
    {choices : List (List ExcerptItem)}
    (chosen : List.Forall₂ (fun part choice => choice ∈ part) (parts.filter (!·.isEmpty)) choices) :
    ∃ all, List.Forall₂ (fun part choice => choice = [] ∨ choice ∈ part) parts all ∧
      all.flatten = choices.flatten := by
  induction parts generalizing choices with
  | nil =>
      cases chosen
      exact ⟨[], .nil, rfl⟩
  | cons part parts ih =>
      cases empty : part.isEmpty with
      | true =>
          rw [List.filter_cons_of_neg (by simp [empty])] at chosen
          obtain ⟨all, each, same⟩ := ih chosen
          exact ⟨[] :: all, .cons (Or.inl rfl) each, same⟩
      | false =>
          rw [List.filter_cons_of_pos (by simp [empty])] at chosen
          obtain ⟨choice, rest, here, others, rfl⟩ := List.forall₂_cons_left_iff.1 chosen
          obtain ⟨all, each, same⟩ := ih others
          exact ⟨choice :: all, .cons (Or.inr here) each, by simp [same]⟩

mutual

/-- Where nothing is impossible some way leads through an item, and an item that may take its place
shows calls of one. -/
theorem straightens_item : {item : ExcerptItem} → item.Everywhere Tree.Feasible →
    Straightens {[item]} [] ∧ ∀ taken ∈ item.paths query, Straightens {[item]} [taken]
  | .invoked site, _ => by
      have way : Way [.invoked site] [site] := .invoked .nil
      refine ⟨⟨by simp, _, rfl, _, way, List.nil_sublist _⟩, fun taken mem => ?_⟩
      rw [paths] at mem
      obtain rfl := List.mem_singleton.1 mem
      refine ⟨fun item mem => ?_, _, rfl, _, way, by simp [calls]⟩
      rw [List.mem_singleton.1 mem]
      exact .invoked
  | .call site context depth body, possible => by
      obtain ⟨feasible, below⟩ : body.Feasible ∧ ∀ item ∈ body.leaves,
          item.Everywhere Tree.Feasible := by
        cases possible with
        | call feasible below => exact ⟨feasible, below⟩
      have skip := straightens_tree feasible below [] (Or.inl rfl)
      refine ⟨⟨by simp, ?_⟩, fun taken mem => ?_⟩
      · obtain ⟨items, inside, calls, way, -⟩ := skip.way
        exact ⟨_, rfl, _, .call inside way .nil, List.nil_sublist _⟩
      · rw [paths] at mem
        obtain ⟨body', listed, rfl⟩ := List.mem_map.1 mem
        obtain ⟨path, isPath, rfl⟩ := exists_of_mem_pathBodies listed
        have through := straightens_tree feasible below path isPath
        refine ⟨fun item mem => ?_, ?_⟩
        · rw [List.mem_singleton.1 mem]
          exact .call (Tree.isStraight_normalize_ofPath path) fun _ => through.body
        · obtain ⟨items, inside, calls, way, sublist⟩ := through.way
          refine ⟨_, rfl, _, .call inside way .nil, ?_⟩
          rw [List.flatMap_singleton, ExcerptItem.calls, callsOfTree_eq,
            Tree.leaves_normalize_ofPath, List.append_nil]
          exact sublist.cons_cons site

/-- The paths through a tree show calls of ways through it, and so does the empty one. -/
theorem straightens_tree : {tree : Tree ExcerptItem} → tree.Feasible →
    (∀ item ∈ tree.leaves, item.Everywhere Tree.Feasible) →
    ∀ path, path = [] ∨ path ∈ pathsOfTree query tree → Straightens tree.language path
  | .leaf item, _, below, path, listed => by
      obtain ⟨skip, taken⟩ := straightens_item (below item (by simp [Tree.leaves]))
      rw [Tree.language_leaf]
      rcases listed with rfl | listed
      · exact skip
      · rw [pathsOfTree] at listed
        obtain ⟨item', mem, rfl⟩ := List.mem_map.1 listed
        exact taken item' mem
  | .seq parts, feasible, below, path, listed => by
      rw [Tree.Feasible] at feasible
      rw [Tree.leaves] at below
      obtain ⟨choices, chosen, rfl⟩ : ∃ choices,
          List.Forall₂ (fun part choice => choice = [] ∨ choice ∈ part) (pathsOfTrees query parts)
            choices ∧ choices.flatten = path := by
        have skipped : ∃ all, List.Forall₂ (fun part choice => choice = [] ∨ choice ∈ part)
            (pathsOfTrees query parts) all ∧ all.flatten = [] := by
          refine ⟨(pathsOfTrees query parts).map fun _ => [], ?_, by simp⟩
          exact List.forall₂_map_right_iff.2 (List.forall₂_same.2 fun _ _ => Or.inl rfl)
        rcases listed with rfl | listed
        · exact skipped
        · rw [pathsOfTree] at listed
          split at listed
          · cases listed
          · obtain ⟨choices, chosen, rfl⟩ := exists_of_mem_combinations listed
            exact exists_choices_of_taken chosen
      rw [Tree.language_seq]
      exact straightens_seq feasible below choices chosen
  | .alt parts, feasible, below, path, listed => by
      rw [Tree.Feasible] at feasible
      rw [Tree.leaves] at below
      rw [Tree.language_alt]
      refine straightens_alt feasible.2 below path ?_
      rcases listed with rfl | listed
      · exact Or.inl ⟨rfl, feasible.1⟩
      · rw [pathsOfTree] at listed
        exact Or.inr (List.mem_filter.1 listed).1

theorem straightens_seq : {parts : List (Tree ExcerptItem)} → Tree.FeasibleAll parts →
    (∀ item ∈ Tree.leavesOfAll parts, item.Everywhere Tree.Feasible) →
    ∀ choices, List.Forall₂ (fun part choice => choice = [] ∨ choice ∈ part)
      (pathsOfTrees query parts) choices → Straightens (Tree.languageSeq parts) choices.flatten
  | [], _, _, choices, chosen => by
      rw [pathsOfTrees] at chosen
      cases chosen
      rw [Tree.languageSeq_nil]
      exact ⟨by simp, [], Language.nil_mem_one, [], .nil, List.nil_sublist _⟩
  | part :: rest, feasible, below, choices, chosen => by
      rw [Tree.FeasibleAll] at feasible
      simp only [Tree.leavesOfAll, List.mem_append] at below
      rw [pathsOfTrees] at chosen
      obtain ⟨choice, others, here, there, rfl⟩ := List.forall₂_cons_left_iff.1 chosen
      have first := straightens_tree feasible.1 (fun item mem => below item (Or.inl mem)) choice here
      have later := straightens_seq feasible.2 (fun item mem => below item (Or.inr mem)) others there
      rw [Tree.languageSeq_cons, List.flatten_cons]
      exact first.append later

theorem straightens_alt : {parts : List (Tree ExcerptItem)} → Tree.FeasibleAll parts →
    (∀ item ∈ Tree.leavesOfAll parts, item.Everywhere Tree.Feasible) →
    ∀ path, (path = [] ∧ parts ≠ []) ∨ path ∈ (pathsOfTrees query parts).flatten →
      Straightens (Tree.languageAlt parts) path
  | [], _, _, path, listed => by
      rcases listed with ⟨-, some⟩ | listed
      · exact absurd rfl some
      · rw [pathsOfTrees] at listed
        cases listed
  | part :: rest, feasible, below, path, listed => by
      rw [Tree.FeasibleAll] at feasible
      simp only [Tree.leavesOfAll, List.mem_append] at below
      have here : ∀ path, path = [] ∨ path ∈ pathsOfTree query part →
          Straightens (Tree.languageAlt (part :: rest)) path := fun path listed =>
        (straightens_tree feasible.1 (fun item mem => below item (Or.inl mem)) path listed).mono
          fun items inside => Tree.mem_languageAlt.2 ⟨part, List.mem_cons_self, inside⟩
      rcases listed with ⟨rfl, -⟩ | listed
      · exact here [] (Or.inl rfl)
      · rw [pathsOfTrees, List.flatten_cons, List.mem_append] at listed
        rcases listed with listed | listed
        · exact here path (Or.inr listed)
        · have there := straightens_alt feasible.2 (fun item mem => below item (Or.inr mem)) path
            (Or.inr listed)
          refine there.mono fun items inside => ?_
          obtain ⟨other, mem, inside⟩ := Tree.mem_languageAlt.1 inside
          exact Tree.mem_languageAlt.2 ⟨other, List.mem_cons_of_mem _ mem, inside⟩

end

end ExcerptItem

/-! ## Paths of excerpts -/

namespace Excerpt

variable {excerpt path : Excerpt} {query : Query}

/-- No alternative is left in a path of an excerpt, and its calls are on a way through the excerpt,
in the same order. -/
theorem exists_way_of_mem_paths (possible : excerpt.Everywhere Tree.Feasible)
    (mem : path ∈ excerpt.paths query) :
    path.Everywhere Tree.IsStraight ∧
      ∃ calls, excerpt.IsWay calls ∧ path.calls.Sublist calls := by
  obtain ⟨feasible, below⟩ := possible
  obtain ⟨body, listed, rfl⟩ := List.mem_map.1 (List.mem_filter.1 mem).1
  obtain ⟨items, isPath, rfl⟩ := ExcerptItem.exists_of_mem_pathBodies listed
  have through := ExcerptItem.straightens_tree feasible below items isPath
  refine ⟨⟨Tree.isStraight_normalize_ofPath items, fun _ => through.body⟩, ?_⟩
  obtain ⟨others, inside, calls, way, sublist⟩ := through.way
  refine ⟨calls, ⟨others, inside, way⟩, ?_⟩
  rwa [Excerpt.calls, ExcerptItem.callsOfTree_eq, Tree.leaves_normalize_ofPath]

theorem isFulfilledBy_of_mem_paths (mem : path ∈ excerpt.paths query) :
    query.isFulfilledBy path.pathSummary = true := (List.mem_filter.1 mem).2

/-- Let nothing in an excerpt be impossible.  Then

* no path of it has an alternative left, at any depth, and the calls of a path are calls of one
  way through the excerpt, in the same order;
* if the calls of a way fulfil the query, some path has every one of them whose method or one of
  whose literals matches a word;
* there is a path exactly if some way fulfils the query. -/
theorem paths_exact (possible : excerpt.Everywhere Tree.Feasible) (query : Query) :
    (∀ path ∈ excerpt.paths query, path.Everywhere Tree.IsStraight ∧
        ∃ calls, excerpt.IsWay calls ∧ path.calls.Sublist calls) ∧
      (∀ calls, excerpt.IsWay calls → query.isFulfilledBy (.ofCalls calls) = true →
        ∃ path ∈ excerpt.paths query, ∀ call ∈ calls,
          (query.matchesCallee call.callee = true ∨
            ∃ literal ∈ call.literals, query.matchesLiteral literal = true) →
          call ∈ path.calls) ∧
      (excerpt.paths query ≠ [] ↔ excerpt.HasWay query) := by
  refine ⟨fun path mem => exists_way_of_mem_paths possible mem, fun calls way fulfilled => ?_,
    fun some => ?_, Excerpt.paths_ne_nil⟩
  · obtain ⟨path, mem, covers⟩ := exists_path_of_isWay way fulfilled
    refine ⟨path, mem, fun call listed matched => covers call listed ?_⟩
    exact query.matchesCall_iff_parts.2 matched
  · obtain ⟨path, mem⟩ := List.exists_mem_of_ne_nil _ some
    obtain ⟨-, calls, way, sublist⟩ := exists_way_of_mem_paths possible mem
    have more := query.isFulfilledBy_mono (Summary.of_calls _) (Summary.of_calls calls)
      (fun call shown => sublist.subset shown) (isFulfilledBy_of_mem_paths mem)
    exact hasWay_iff.2 ⟨calls, way, more⟩

/-- A method that gets or does nothing, and then calls one that puts or closes. -/
def sampleBranches : Excerpt :=
  ⟨sampleCall "run", none, 2, .seq [.alt [.leaf (.invoked (sampleCall "get")), .empty],
    .leaf (.call (sampleCall "one") none 1
      (.alt [.leaf (.invoked (sampleCall "put")), .leaf (.invoked (sampleCall "close"))]))]⟩

/-- Getting and putting are on one path. -/
theorem paths_exact_sampleBranches :
    ∃ query, Query.compile false ["m.g", "m.p"] = .ok query ∧
      sampleBranches.Everywhere Tree.Feasible ∧ sampleBranches.HasWay query ∧
      ∀ path ∈ sampleBranches.paths query, path.Everywhere Tree.IsStraight := by
  obtain ⟨query, compiled, some⟩ := Logged.exists_ok_of_map (show
    (Query.compile false ["m.g", "m.p"]).toOption.map (fun query =>
      (sampleBranches.paths query).isEmpty) = some false by cbv)
  have possible : sampleBranches.Everywhere Tree.Feasible := by
    refine ⟨by simp [sampleBranches, Tree.Feasible, Tree.FeasibleAll, Tree.empty], fun item mem => ?_⟩
    simp only [sampleBranches, Tree.leaves, Tree.leavesOfAll, Tree.empty, List.append_nil,
      List.cons_append, List.nil_append, List.mem_cons, List.not_mem_nil, or_false] at mem
    rcases mem with rfl | rfl
    · exact .invoked
    · refine .call (by simp [Tree.Feasible, Tree.FeasibleAll]) fun item mem => ?_
      simp only [Tree.leaves, Tree.leavesOfAll, List.append_nil, List.cons_append, List.nil_append,
        List.mem_cons, List.not_mem_nil, or_false] at mem
      rcases mem with rfl | rfl <;> exact .invoked
  obtain ⟨straight, -, some_iff⟩ := paths_exact possible query
  refine ⟨query, compiled, possible, some_iff.1 ?_, fun path mem => (straight path mem).1⟩
  rintro none
  rw [none] at some
  cases some

end Excerpt

end CallSearch
