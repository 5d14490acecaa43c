/-
# CallSearch.Proofs.Excerpt.Ways — the paths of an excerpt leave no evidence out

A way through a body takes one alternative wherever there are several, and one anew in
every nested call.  `Forest.Way` follows calls into the bodies of a forest, however deep
they go, and `ExcerptItem.Way` into what an excerpt shows.  Where a cut leaves no node
out the ways through its node are ways through the cut (`way_unfold`).

The paths of an excerpt drop alternatives that match no word, so a way need not be a
path.  But the calls on a way that match a word are all on one path, or no call matches
any (`Covered`).  Hence an excerpt with a way that fulfils a query has
a path that does: `Excerpt.paths_ne_nil`.
-/
import CallSearch.Excerpt.Paths
import CallSearch.Proofs.Excerpt.Shallowest

namespace CallSearch

set_option autoImplicit false

/-! ## Ways -/

/-- The calls made on a way along some items: each call itself and, where its callee is shown,
those on one way through the body. -/
inductive ExcerptItem.Way : List ExcerptItem → List Invocation → Prop
  | nil : ExcerptItem.Way [] []
  | invoked {site : Invocation} {rest : List ExcerptItem} {calls : List Invocation} :
      ExcerptItem.Way rest calls → ExcerptItem.Way (.invoked site :: rest) (site :: calls)
  | call {site : Invocation} {context : Option Signature} {depth : Nat} {body : Tree ExcerptItem}
      {inner rest : List ExcerptItem} {below calls : List Invocation} :
      inner ∈ body.language → ExcerptItem.Way inner below → ExcerptItem.Way rest calls →
      ExcerptItem.Way (.call site context depth body :: rest) (site :: below ++ calls)

/-- The calls made on a way along some items: each call itself and, where it is expanded, those
on one way through the body of its node. -/
inductive Forest.Way (forest : Forest) : List CallItem → List Invocation → Prop
  | nil : Forest.Way forest [] []
  | invoked {site : Invocation} {rest : List CallItem} {calls : List Invocation} :
      Forest.Way forest rest calls → Forest.Way forest (.invoked site :: rest) (site :: calls)
  | call {node : CallNode} {inner rest : List CallItem} {below calls : List Invocation} :
      inner ∈ (forest.body node).language → Forest.Way forest inner below →
      Forest.Way forest rest calls →
      Forest.Way forest (.call node :: rest) (node.call :: below ++ calls)

/-- Some way through the body of an excerpt fulfils a query. -/
def Excerpt.HasWay (excerpt : Excerpt) (query : Query) : Prop :=
  ∃ items ∈ excerpt.body.language, ∃ calls, ExcerptItem.Way items calls ∧
    query.isFulfilledBy (.ofCalls calls) = true

/-- Some calls are those made on a way through the body of an excerpt. -/
def Excerpt.IsWay (excerpt : Excerpt) (calls : List Invocation) : Prop :=
  ∃ items ∈ excerpt.body.language, ExcerptItem.Way items calls

theorem Excerpt.hasWay_iff {excerpt : Excerpt} {query : Query} : excerpt.HasWay query ↔
    ∃ calls, excerpt.IsWay calls ∧ query.isFulfilledBy (.ofCalls calls) = true := by
  constructor
  · rintro ⟨items, inside, calls, way, fulfilled⟩
    exact ⟨calls, ⟨items, inside, way⟩, fulfilled⟩
  · rintro ⟨calls, ⟨items, inside, way⟩, fulfilled⟩
    exact ⟨items, inside, calls, way, fulfilled⟩

/-- Some way through the body of a node fulfils a query. -/
def Forest.HasWay (forest : Forest) (query : Query) (node : CallNode) : Prop :=
  ∃ items ∈ (forest.body node).language, ∃ calls, forest.Way items calls ∧
    query.isFulfilledBy (.ofCalls calls) = true

namespace Tree

/-- Renaming the leaves of a tree renames its sequences. -/
theorem map_mem_language {α β : Type} (f : α → β) {tree : Tree α} {s : List α}
    (mem : s ∈ tree.language) : s.map f ∈ (tree.map f).language := by
  refine (mem_language_flatMap _ _ tree).2 ⟨s, mem, ?_⟩
  clear mem
  induction s with
  | nil => exact Language.nil_mem_one
  | cons item rest ih =>
      rw [List.map_cons, List.map_cons, List.prod_cons, language_leaf]
      exact Language.mem_mul.2 ⟨[f item], rfl, _, ih, rfl⟩

end Tree

namespace ExcerptItem

theorem Way.append {first second : List ExcerptItem} {calls : List Invocation}
    (way : Way (first ++ second) calls) :
    ∃ before after, Way first before ∧ Way second after ∧ calls = before ++ after := by
  induction first generalizing calls with
  | nil => exact ⟨[], calls, .nil, way, rfl⟩
  | cons item rest ih =>
      cases way with
      | invoked way =>
          obtain ⟨before, after, start, last, rfl⟩ := ih way
          exact ⟨_, after, .invoked start, last, rfl⟩
      | call inside below way =>
          obtain ⟨before, after, start, last, rfl⟩ := ih way
          exact ⟨_, after, .call inside below start, last, by simp⟩

/-! ### Ways without contexts -/

mutual

theorem treeWithoutContexts_eq : (tree : Tree ExcerptItem) →
    treeWithoutContexts tree = tree.map withoutContexts
  | .leaf item => by rw [treeWithoutContexts, Tree.map_leaf]
  | .seq parts => by rw [treeWithoutContexts, Tree.map_seq, treesWithoutContexts_eq parts]
  | .alt parts => by rw [treeWithoutContexts, Tree.map_alt, treesWithoutContexts_eq parts]

theorem treesWithoutContexts_eq : (parts : List (Tree ExcerptItem)) →
    treesWithoutContexts parts = parts.map (Tree.map withoutContexts)
  | [] => by rw [treesWithoutContexts, List.map_nil]
  | part :: rest => by
      rw [treesWithoutContexts, List.map_cons, treeWithoutContexts_eq part,
        treesWithoutContexts_eq rest]

end

/-- Dropping contexts keeps the calls on a way. -/
theorem Way.withoutContexts {items : List ExcerptItem} {calls : List Invocation}
    (way : Way items calls) : Way (items.map withoutContexts) calls := by
  induction way with
  | nil => exact .nil
  | invoked _ ih =>
      rw [List.map_cons, ExcerptItem.withoutContexts]
      exact .invoked ih
  | call inside _ _ below ih =>
      rw [List.map_cons, ExcerptItem.withoutContexts, treeWithoutContexts_eq]
      exact .call (Tree.map_mem_language _ inside) below ih

end ExcerptItem

/-- What is shown of a cut has the ways of the cut. -/
theorem Excerpt.HasWay.shown {excerpt : Excerpt} {query : Query} (h : excerpt.HasWay query) :
    excerpt.withoutCaller.withoutContexts.HasWay query := by
  obtain ⟨items, mem, calls, way, fulfilled⟩ := h
  refine ⟨_, ?_, calls, way.withoutContexts, fulfilled⟩
  rw [Excerpt.withoutContexts, Excerpt.withoutCaller, ExcerptItem.treeWithoutContexts_eq]
  exact Tree.map_mem_language _ mem

/-! ### Ways through nodes and cuts -/

namespace Forest

variable {forest : Forest}

/-- Where no node lies beyond the depth, a way through the body of a node is one through the node
written out. -/
theorem way_unfold {items : List CallItem} {calls : List Invocation}
    (way : forest.Way items calls) {below : Nat} {node : CallNode}
    (listed : ∀ item ∈ items, item ∈ (forest.body node).leaves)
    (whole : ¬forest.HasBelow (below + 1) node) :
    ExcerptItem.Way (items.map (forest.unfoldItem below)) calls := by
  induction way generalizing below node with
  | nil => exact .nil
  | invoked _ ih =>
      rw [List.map_cons, unfoldItem.eq_def]
      exact .invoked (ih (List.forall_mem_cons.1 listed).2 whole)
  | @call child inner rest inside outside memInner _ _ ihInner ih =>
      obtain ⟨here, behind⟩ := List.forall_mem_cons.1 listed
      have mem := mem_children_of_leaf here
      cases below with
      | zero => exact absurd (hasBelow_succ mem ⟨child, .zero child⟩) whole
      | succ below =>
          rw [List.map_cons, unfoldItem_call]
          have below : ∀ item ∈ inner, item ∈ (forest.body child).leaves := fun _ here =>
            Tree.mem_leaves_of_mem_language memInner here
          exact .call (Tree.map_mem_language _ memInner)
            (ihInner below fun beyond => whole (hasBelow_succ mem beyond)) (ih behind whole)

/-- A cut that leaves no node out has the ways through its node. -/
theorem HasWay.unfolded {query : Query} {node : CallNode} (h : forest.HasWay query node)
    {below : Nat} (whole : ¬forest.HasBelow (below + 1) node) :
    (forest.unfolded below node).HasWay query := by
  obtain ⟨items, mem, calls, way, fulfilled⟩ := h
  exact ⟨_, Tree.map_mem_language _ mem, calls,
    way_unfold way (fun _ here => Tree.mem_leaves_of_mem_language mem here) whole, fulfilled⟩

end Forest

/-! ## Evidence -/

namespace Query

variable (query : Query)

/-- Every one of some calls that matches a word is among those shown. -/
def Covers (shown calls : List Invocation) : Prop :=
  ∀ call ∈ calls, query.matchesCall call = true → call ∈ shown

variable {query} {shown calls : List Invocation}

theorem covers_self : query.Covers calls calls := fun _ mem _ => mem

theorem covers_nil : query.Covers shown [] := by simp [Covers]

theorem Covers.append {shown' calls' : List Invocation} (h : query.Covers shown calls)
    (h' : query.Covers shown' calls') : query.Covers (shown ++ shown') (calls ++ calls') := by
  intro call mem matched
  rcases List.mem_append.1 mem with mem | mem
  · exact List.mem_append_left _ (h call mem matched)
  · exact List.mem_append_right _ (h' call mem matched)

/-- Calls that match no word are covered by any. -/
theorem Covers.of_silent (h : query.Covers [] calls) : query.Covers shown calls :=
  fun call mem matched => absurd (h call mem matched) List.not_mem_nil

/-- What covers calls that fulfil the query fulfils it. -/
theorem Covers.isFulfilledBy (h : query.Covers shown calls)
    (fulfilled : query.isFulfilledBy (.ofCalls calls) = true) :
    query.isFulfilledBy (.ofCalls shown) = true := by
  rw [query.isFulfilledBy_iff (Summary.of_calls _)] at fulfilled ⊢
  intro pattern listed
  obtain ⟨call, mem, matched⟩ := fulfilled pattern listed
  exact ⟨call, h call mem (query.matchesCall_iff.2 ⟨pattern, listed, matched⟩), matched⟩

/-- Calls covered by those of a path that is not worth offering match no word. -/
theorem Covers.silent_of_not_isOffered {path : List ExcerptItem}
    (h : query.Covers (path.flatMap ExcerptItem.calls) calls)
    (dropped : ¬ExcerptItem.isOffered query path = true) : query.Covers [] calls := by
  intro call mem matched
  have shown := h call mem matched
  obtain ⟨pattern, listed, matched⟩ := query.matchesCall_iff.1 matched
  refine absurd ?_ dropped
  rw [ExcerptItem.isOffered, Bool.and_eq_true, Bool.not_eq_true', List.isEmpty_eq_false_iff]
  refine ⟨?_, (query.isPartiallyFulfilledBy_iff (Summary.of_calls _)).2
    ⟨pattern, listed, call, shown, matched⟩⟩
  rintro rfl
  cases shown

end Query

/-! ## Paths -/

namespace ExcerptItem

variable {query : Query}

/-- Every one of some calls that matches a word is on one path, unless there are neither. -/
def Covered (query : Query) (paths : List (List ExcerptItem)) (calls : List Invocation) : Prop :=
  (paths = [] ∧ query.Covers [] calls) ∨
    ∃ path ∈ paths, query.Covers (path.flatMap ExcerptItem.calls) calls

theorem covered_of_silent {paths : List (List ExcerptItem)} {calls : List Invocation}
    (silent : query.Covers [] calls) : Covered query paths calls := by
  cases paths with
  | nil => exact Or.inl ⟨rfl, silent⟩
  | cons path rest => exact Or.inr ⟨path, List.mem_cons_self, silent.of_silent⟩

/-- One path of each part, one after another, is a combination. -/
theorem mem_combinations {parts : List (List (List ExcerptItem))}
    {choices : List (List ExcerptItem)}
    (chosen : List.Forall₂ (fun part choice => choice ∈ part) parts choices) :
    choices.flatten ∈ combinations parts := by
  have extend : ∀ paths : List (List ExcerptItem), ∀ path ∈ paths, path ++ choices.flatten ∈
      parts.foldl (fun paths part => paths.flatMap fun path => part.map (path ++ ·)) paths := by
    induction chosen with
    | nil => simp
    | @cons part choice parts choices here _ ih =>
        intro paths path mem
        rw [List.flatten_cons, ← List.append_assoc, List.foldl_cons]
        exact ih _ _ (List.mem_flatMap.2 ⟨path, mem, List.mem_map_of_mem here⟩)
  rw [combinations, ← List.nil_append choices.flatten]
  exact extend [[]] [] (List.mem_singleton_self _)

/-- What is covered part by part is covered by combinations. -/
theorem covered_seq {parts : List (List (List ExcerptItem))} {calls : List (List Invocation)}
    (each : List.Forall₂ (Covered query) parts calls) :
    let taken := parts.filter (!·.isEmpty)
    Covered query (if taken.isEmpty then [] else combinations taken) calls.flatten := by
  have chosen : ∃ choices, List.Forall₂ (fun part choice => choice ∈ part)
      (parts.filter (!·.isEmpty)) choices ∧
      query.Covers (choices.flatten.flatMap ExcerptItem.calls) calls.flatten := by
    induction each with
    | nil => exact ⟨[], .nil, Query.covers_nil⟩
    | @cons part calls parts rest covered _ ih =>
        obtain ⟨choices, chosen, covers⟩ := ih
        rcases covered with ⟨rfl, silent⟩ | ⟨path, mem, covers'⟩
        · exact ⟨choices, chosen, silent.append covers⟩
        · have some : part.isEmpty = false :=
            List.isEmpty_eq_false_iff.2 (List.ne_nil_of_mem mem)
          refine ⟨path :: choices, ?_, ?_⟩
          · rw [List.filter_cons, some]
            exact .cons mem chosen
          · rw [List.flatten_cons, List.flatMap_append, List.flatten_cons]
            exact covers'.append covers
  intro taken
  obtain ⟨choices, chosen, covers⟩ : ∃ choices, List.Forall₂ (fun part choice => choice ∈ part)
      taken choices ∧ query.Covers (choices.flatten.flatMap ExcerptItem.calls) calls.flatten :=
    chosen
  cases none : taken.isEmpty with
  | true =>
      rw [List.isEmpty_iff.1 none] at chosen
      cases chosen
      exact Or.inl ⟨rfl, covers⟩
  | false => exact Or.inr ⟨_, mem_combinations chosen, covers⟩

/-- The calls of some path are those of a body for it, and some body has no more calls than none. -/
theorem Covered.exists_body {paths : List (List ExcerptItem)} {calls : List Invocation}
    (h : Covered query paths calls) :
    ∃ body ∈ pathBodies paths, query.Covers (callsOfTree body) calls := by
  rw [pathBodies]
  rcases h with ⟨rfl, silent⟩ | ⟨path, mem, covers⟩
  · exact ⟨.empty, List.mem_singleton_self _, silent.of_silent⟩
  · rw [if_neg (by simpa using List.ne_nil_of_mem mem)]
    exact ⟨_, List.mem_map_of_mem mem, by
      rwa [callsOfTree_eq, Tree.leaves_normalize_ofPath]⟩

mutual

/-- The calls on a way through one item that match a word are those of an item that may take its
place. -/
theorem exists_mem_paths : {item : ExcerptItem} → {calls : List Invocation} →
    Way [item] calls → ∃ taken ∈ item.paths query, query.Covers taken.calls calls
  | .invoked site, _, way => by
      cases way with
      | invoked rest =>
          cases rest
          rw [paths]
          exact ⟨_, List.mem_singleton_self _, by rw [ExcerptItem.calls]; exact Query.covers_self⟩
  | .call site context depth body, _, way => by
      cases way with
      | call inside below rest =>
          cases rest
          obtain ⟨taken, mem, covers⟩ := (covered_pathsOfTree inside below).exists_body
          have own : query.Covers [site] [site] := Query.covers_self
          rw [paths]
          refine ⟨_, List.mem_map_of_mem mem, ?_⟩
          rw [ExcerptItem.calls, List.append_nil]
          exact own.append covers

/-- The calls on a way through a tree that match a word are on one path. -/
theorem covered_pathsOfTree : {tree : Tree ExcerptItem} → {items : List ExcerptItem} →
    {calls : List Invocation} → items ∈ tree.language → Way items calls →
    Covered query (pathsOfTree query tree) calls
  | .leaf item, _, _, inside, way => by
      rw [Tree.language_leaf] at inside
      cases inside
      obtain ⟨taken, mem, covers⟩ := exists_mem_paths way
      rw [pathsOfTree]
      exact Or.inr ⟨_, List.mem_map_of_mem mem, by simpa using covers⟩
  | .seq parts, _, _, inside, way => by
      rw [Tree.language_seq] at inside
      obtain ⟨calls, each, rfl⟩ := covered_pathsOfTrees inside way
      rw [pathsOfTree]
      exact covered_seq each
  | .alt parts, _, _, inside, way => by
      rw [Tree.language_alt] at inside
      rw [pathsOfTree]
      exact covered_alt inside way

theorem covered_pathsOfTrees : {parts : List (Tree ExcerptItem)} → {items : List ExcerptItem} →
    {calls : List Invocation} → items ∈ Tree.languageSeq parts → Way items calls →
    ∃ each, List.Forall₂ (Covered query) (pathsOfTrees query parts) each ∧ calls = each.flatten
  | [], _, _, inside, way => by
      rw [Tree.languageSeq_nil, Language.mem_one] at inside
      subst inside
      cases way
      rw [pathsOfTrees]
      exact ⟨[], .nil, rfl⟩
  | part :: rest, _, _, inside, way => by
      rw [Tree.languageSeq_cons] at inside
      obtain ⟨first, here, others, there, rfl⟩ := Language.mem_mul.1 inside
      obtain ⟨before, after, start, last, rfl⟩ := way.append
      obtain ⟨each, all, rfl⟩ := covered_pathsOfTrees there last
      rw [pathsOfTrees]
      exact ⟨before :: each, .cons (covered_pathsOfTree here start) all, rfl⟩

/-- Alternatives that match no word are not offered, and not missed. -/
theorem covered_alt : {parts : List (Tree ExcerptItem)} → {items : List ExcerptItem} →
    {calls : List Invocation} → items ∈ Tree.languageAlt parts → Way items calls →
    Covered query ((pathsOfTrees query parts).flatten.filter (isOffered query)) calls
  | [], _, _, inside, _ => by simp [Tree.languageAlt] at inside
  | part :: rest, _, _, inside, way => by
      rw [Tree.languageAlt, Language.mem_add] at inside
      rw [pathsOfTrees, List.flatten_cons, List.filter_append]
      rcases inside with here | there
      · rcases covered_pathsOfTree here way with ⟨-, silent⟩ | ⟨path, mem, covers⟩
        · exact covered_of_silent silent
        · by_cases offered : isOffered query path = true
          · exact Or.inr ⟨path, List.mem_append_left _ (List.mem_filter.2 ⟨mem, offered⟩), covers⟩
          · exact covered_of_silent (covers.silent_of_not_isOffered offered)
      · rcases covered_alt there way with ⟨-, silent⟩ | ⟨path, mem, covers⟩
        · exact covered_of_silent silent
        · exact Or.inr ⟨path, List.mem_append_right _ mem, covers⟩

end

end ExcerptItem

/-- The calls of a way that fulfils a query are on one path, as far as they match a word. -/
theorem Excerpt.exists_path_of_isWay {excerpt : Excerpt} {query : Query}
    {calls : List Invocation} (way : excerpt.IsWay calls)
    (fulfilled : query.isFulfilledBy (.ofCalls calls) = true) :
    ∃ path ∈ excerpt.paths query, query.Covers path.calls calls := by
  obtain ⟨items, inside, way⟩ := way
  obtain ⟨body, mem, covers⟩ := (ExcerptItem.covered_pathsOfTree inside way).exists_body
  exact ⟨_, List.mem_filter.2 ⟨List.mem_map_of_mem mem, covers.isFulfilledBy fulfilled⟩, covers⟩

/-- An excerpt with a way that fulfils a query has a path that does. -/
theorem Excerpt.paths_ne_nil {excerpt : Excerpt} {query : Query} (h : excerpt.HasWay query) :
    excerpt.paths query ≠ [] := by
  obtain ⟨calls, way, fulfilled⟩ := Excerpt.hasWay_iff.1 h
  obtain ⟨path, mem, -⟩ := Excerpt.exists_path_of_isWay way fulfilled
  exact List.ne_nil_of_mem mem

end CallSearch
