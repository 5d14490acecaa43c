/-
# CallSearch.Proofs.Index.Sharing — entry points do not show in the results

One table of bodies serves all entry points, and what is expanded depends on what is
being expanded around it.  Neither shows: whatever the entry points of two indexes are,
and in whatever order they are expanded, a key that both know has the same summary in
both, and the same body up to the numbers of bodies (`build_agree`).

The numbers do differ: two methods that call each other are built in full for two entry
points and for one (`build_agree_sample`).
-/
import CallSearch.Proofs.Forest.Sharing
import CallSearch.Proofs.Index
import CallSearch.Proofs.Sample

namespace CallSearch

set_option autoImplicit false

open Relation

/-- A summary is determined by the calls it holds. -/
theorem Summary.Of.unique {first second : Summary} {shows : Invocation → Prop}
    (h : first.Of shows) (h' : second.Of shows) : first = second := by
  have callees : first.callees = second.callees := SortedSet.eq_of_mem_iff fun method =>
    (h.callees method).trans (h'.callees method).symm
  have literals : first.literals = second.literals := SortedSet.eq_of_mem_iff fun literal =>
    (h.literals literal).trans (h'.literals literal).symm
  cases first
  cases second
  rw [Summary.mk.injEq]
  exact ⟨callees, literals⟩

namespace Forest

/-! ## What bodies that agree show -/

section Agree

variable {source source' : Source} {arena arena' : Arena} (sound : source.Sound [] arena)
  (sound' : source'.Sound [] arena')
  (agree : ∀ key, arena.Stored key → arena'.Stored key → arena.shape? key = arena'.shape? key)
  {key : NodeKey} (stored : arena.Stored key) (stored' : arena'.Stored key)

include sound' agree stored stored'

/-- The leaves of the body of a key are those of its other body. -/
theorem exists_leaf_of_agree {body : Tree CallItem} (has : arena.HasBody key body)
    {item : CallItem} (mem : item ∈ body.leaves) :
    ∃ body', arena'.HasBody key body' ∧ ∃ item' ∈ body'.leaves,
      item'.unnumbered = item.unnumbered := by
  obtain ⟨body', has'⟩ := sound'.hasBody stored'
  have same := agree key stored stored'
  rw [Arena.shape?_eq_some_of_hasBody has, Arena.shape?_eq_some_of_hasBody has',
    Option.some.injEq] at same
  have listed := List.mem_map_of_mem (f := CallItem.unnumbered) mem
  rw [← Tree.leaves_map, same, Tree.leaves_map] at listed
  exact ⟨body', has', List.mem_map.1 listed⟩

theorem links_of_agree {other : NodeKey} (link : arena.Links key other) :
    arena'.Links key other := by
  obtain ⟨body, has, node, mem, rfl⟩ := link
  obtain ⟨body', has', item, mem', same⟩ := exists_leaf_of_agree sound' agree stored stored' has mem
  obtain ⟨node', rfl, sameKey⟩ := CallItem.unnumbered_eq_call same
  exact ⟨body', has', node', mem', sameKey⟩

include sound

theorem linksTo_of_agree {other : NodeKey} (path : arena.LinksTo key other) :
    arena'.LinksTo key other := by
  induction path with
  | refl => exact .refl
  | @tail middle other path link ih =>
      exact ih.tail (links_of_agree sound' agree (sound.stored_of_linksTo stored path)
        (sound'.stored_of_linksTo stored' ih) link)

/-- A key shows what it shows with the other bodies. -/
theorem shows_of_agree {call : Invocation} (shows : arena.Shows key call) :
    arena'.Shows key call := by
  obtain ⟨other, body, item, path, has, mem, rfl⟩ := shows
  have path' := linksTo_of_agree sound sound' agree stored stored' path
  obtain ⟨body', has', item', mem', same⟩ := exists_leaf_of_agree sound' agree
    (sound.stored_of_linksTo stored path) (sound'.stored_of_linksTo stored' path') has mem
  refine ⟨other, body', item', path', has', mem', ?_⟩
  rw [← item.invocation_unnumbered, ← same, item'.invocation_unnumbered]

end Agree

end Forest

namespace Index

/-- Two indexes of a program, whatever their entry points, agree on the keys that both have
summaries for: on the summary, and on the body up to the numbers of bodies. -/
theorem build_agree {config : AnalysisConfig} {classes : ClassTable}
    {entryPoints entryPoints' : List Signature} {index index' : Index}
    (h : (build config classes entryPoints).result = .ok index)
    (h' : (build config classes entryPoints').result = .ok index') {key : NodeKey}
    {summary summary' : Summary} (found : index.summaries.get? key = some summary)
    (found' : index'.summaries.get? key = some summary') :
    summary = summary' ∧ (∃ node ∈ index.forest.nodes, node.key = key) ∧
      (∃ node ∈ index'.forest.nodes, node.key = key) ∧
      ∀ node ∈ index.forest.nodes, ∀ node' ∈ index'.forest.nodes, node.key = key →
        node'.key = key → ∃ body body', index.forest.body? node = some body ∧
          index'.forest.body? node' = some body' ∧
          body.map CallItem.unnumbered = body'.map CallItem.unnumbered := by
  obtain ⟨trees, ofClasses, h⟩ := Logged.result_bind.1 h
  obtain ⟨forest, built, h⟩ := Logged.result_bind.1 h
  obtain ⟨-, -, h⟩ := Logged.result_bind.1 h
  obtain rfl := Logged.result_pure.1 h
  obtain ⟨trees', ofClasses', h'⟩ := Logged.result_bind.1 h'
  cases ofClasses.symm.trans ofClasses'
  obtain ⟨forest', built', h'⟩ := Logged.result_bind.1 h'
  obtain ⟨-, -, h'⟩ := Logged.result_bind.1 h'
  obtain rfl := Logged.result_pure.1 h'
  have feasible := MethodTrees.feasible_ofClasses ofClasses
  obtain ⟨roots, resolved, rfl⟩ := Forest.exists_roots_of_build built
  obtain ⟨roots', resolved', rfl⟩ := Forest.exists_roots_of_build built'
  have contained := Forest.contains_of_mem_roots resolved
  have contained' := Forest.contains_of_mem_roots resolved'
  have expansion := Forest.expansion_arenaOf config (.ofClasses classes) feasible contained
  have expansion' := Forest.expansion_arenaOf config (.ofClasses classes) feasible contained'
  obtain ⟨stored, holds, -⟩ := expansion.summarized_summaries.1 key summary found
  obtain ⟨stored', holds', -⟩ := expansion'.summarized_summaries.1 key summary' found'
  have agree := Forest.shape?_arenaOf config (.ofClasses classes) feasible contained contained'
  have agree' := Forest.shape?_arenaOf config (.ofClasses classes) feasible contained' contained
  refine ⟨holds.unique (holds'.congr fun call => ⟨?_, ?_⟩), expansion.exists_node stored,
    expansion'.exists_node stored', ?_⟩
  · exact Forest.shows_of_agree expansion'.sound expansion.sound agree' stored' stored
  · exact Forest.shows_of_agree expansion.sound expansion'.sound agree stored stored'
  · rintro node mem node' mem' rfl same
    obtain ⟨body, here, -⟩ := expansion.sound.stored _ _ (expansion.number mem)
    obtain ⟨body', here', -⟩ := expansion'.sound.stored _ _ (expansion'.number mem')
    refine ⟨body, body', here, here', ?_⟩
    have shapes := agree node.key stored stored'
    rw [Forest.Arena.shape?_eq_some_of_hasBody ⟨_, expansion.number mem, here⟩, ← same,
      Forest.Arena.shape?_eq_some_of_hasBody ⟨_, expansion'.number mem', here'⟩] at shapes
    exact Option.some.inj shapes

/-! ### Two methods that call each other -/

/-- Two methods that call each other: `a` also calls `x`, and `b` calls either `y` or `c`, which
calls `x`. -/
def sampleCrossing : ClassTable :=
  .ofList [loneClass "a" [.invoke (loneSite "x"), .invoke (loneSite "b")],
    loneClass "b" [.invoke (loneSite "a"), .control (.condBranch "else" none),
      .invoke (loneSite "c"), .control (.ret none), .control (.label "else"),
      .invoke (loneSite "y")],
    loneClass "c" [.invoke (loneSite "x")]]

def sampleCrossingTrees : MethodTrees :=
  .ofList [
    (loneMethod "a", .seq [.leaf (loneCallIn "a" "x" 0), .leaf (loneCallIn "a" "b" 1)]),
    (loneMethod "b", .seq [.leaf (loneCallIn "b" "a" 0),
      .alt [.leaf (loneCallIn "b" "c" 1), .leaf (loneCallIn "b" "y" 2)]]),
    (loneMethod "c", .leaf (loneCallIn "c" "x" 0))]

/-- The node of `b` below `a`, where `a` is left unexpanded. -/
def sampleCrossingInner : CallNode := ⟨loneCallIn "a" "b" 1, some (loneMethod "a"), 1⟩

/-- The node of `b` as an entry point, where `a` is expanded. -/
def sampleCrossingOuter : CallNode := ⟨entryCall (loneMethod "b"), some (loneMethod "b"), 5⟩

/-- The call trees of `a` and of `b`. -/
def sampleCrossingForest : Forest where
  roots := [⟨entryCall (loneMethod "a"), some (loneMethod "a"), 2⟩, sampleCrossingOuter]
  bodies := [
    .leaf (.invoked (loneCallIn "c" "x" 0)),
    .seq [.leaf (.invoked (loneCallIn "b" "a" 0)),
      .alt [.leaf (.invoked (loneCallIn "b" "y" 2)),
        .leaf (.call ⟨loneCallIn "b" "c" 1, some (loneMethod "a"), 0⟩)]],
    .seq [.leaf (.invoked (loneCallIn "a" "x" 0)), .leaf (.call sampleCrossingInner)],
    .seq [.leaf (.invoked (loneCallIn "a" "x" 0)), .leaf (.invoked (loneCallIn "a" "b" 1))],
    .leaf (.invoked (loneCallIn "c" "x" 0)),
    .seq [.leaf (.call ⟨loneCallIn "b" "a" 0, some (loneMethod "b"), 3⟩),
      .alt [.leaf (.invoked (loneCallIn "b" "y" 2)),
        .leaf (.call ⟨loneCallIn "b" "c" 1, some (loneMethod "b"), 4⟩)]]]

/-- The call tree of `b` alone. -/
def sampleCrossingAlone : Forest where
  roots := [⟨entryCall (loneMethod "b"), some (loneMethod "b"), 2⟩]
  bodies := [
    .seq [.leaf (.invoked (loneCallIn "a" "x" 0)), .leaf (.invoked (loneCallIn "a" "b" 1))],
    .leaf (.invoked (loneCallIn "c" "x" 0)),
    .seq [.leaf (.call ⟨loneCallIn "b" "a" 0, some (loneMethod "b"), 0⟩),
      .alt [.leaf (.invoked (loneCallIn "b" "y" 2)),
        .leaf (.call ⟨loneCallIn "b" "c" 1, some (loneMethod "b"), 1⟩)]]]

def sampleCrossingIndex : Index where
  entryPoints := [loneMethod "a", loneMethod "b"]
  forest := sampleCrossingForest
  summaries := sampleCrossingForest.summaries

section Build

open Forest

def sampleCrossingSource : Source :=
  ⟨sampleCrossingTrees, .ofClasses sampleCrossing, [loneMethod "a", loneMethod "b"]⟩

/-- The first of the bodies, with the numbers of their keys. -/
def sampleCrossingArena (count : Nat) : Arena where
  numbers := .ofList ([
    ⟨loneMethod "c", some (loneMethod "a")⟩, ⟨loneMethod "b", some (loneMethod "a")⟩,
    ⟨loneMethod "a", some (loneMethod "a")⟩, ⟨loneMethod "a", some (loneMethod "b")⟩,
    ⟨loneMethod "c", some (loneMethod "b")⟩, ⟨loneMethod "b", some (loneMethod "b")⟩
    ].zipIdx.take count)
  bodies := sampleCrossingForest.bodies.take count

theorem ofClasses_sampleCrossing :
    (MethodTrees.ofClasses {} sampleCrossing).result = .ok sampleCrossingTrees := by cbv

/-- The methods that call each other are recursive, from whichever of them one starts. -/
theorem sourceOf_sampleCrossing {roots : List Signature} (some : roots ≠ [])
    (listed : ∀ root ∈ roots, root ∈ [loneMethod "a", loneMethod "b"]) :
    sourceOf {} sampleCrossingTrees (.ofClasses sampleCrossing) roots = sampleCrossingSource := by
  let graph := CallGraph.ofTrees sampleCrossingTrees (.ofClasses sampleCrossing)
  have dug : ∀ root ∈ [loneMethod "a", loneMethod "b"],
      (graph.dig false graph.edges.size root .empty).recursive =
        root :: [loneMethod "a", loneMethod "b"].erase root := by decide +kernel
  have found : ∀ root ∈ [loneMethod "a", loneMethod "b"],
      graph.recursiveFrom false root = [loneMethod "a", loneMethod "b"] := by
    intro root mem
    rw [CallGraph.recursiveFrom, dug root mem]
    rcases List.mem_pair.1 mem with rfl | rfl <;> cbv
  have recursive : sortUnique (roots.flatMap (graph.recursiveFrom false)) =
      [loneMethod "a", loneMethod "b"] := by
    rw [List.flatMap_congr fun root mem => found root (listed root mem)]
    refine eq_of_increasing (sortUnique_pairwise _) (by decide +kernel) fun method => ?_
    simp [mem_sortUnique, List.exists_mem_of_ne_nil _ some]
  exact congrArg (Source.mk sampleCrossingTrees (.ofClasses sampleCrossing)) recursive

theorem node_a_sampleCrossing :
    sampleCrossingSource.node sampleCrossingSource.trees.size [] (entryCall (loneMethod "a"))
        (sampleCrossingSource.contextOf none (loneMethod "a")) .empty =
      (⟨entryCall (loneMethod "a"), some (loneMethod "a"), 2⟩, sampleCrossingArena 3) := by cbv

theorem node_b_sampleCrossing :
    sampleCrossingSource.node sampleCrossingSource.trees.size [] (entryCall (loneMethod "b"))
        (sampleCrossingSource.contextOf none (loneMethod "b")) (sampleCrossingArena 3) =
      (sampleCrossingOuter, sampleCrossingArena 6) := by cbv

theorem node_alone_sampleCrossing :
    sampleCrossingSource.node sampleCrossingSource.trees.size [] (entryCall (loneMethod "b"))
        (sampleCrossingSource.contextOf none (loneMethod "b")) .empty =
      (⟨entryCall (loneMethod "b"), some (loneMethod "b"), 2⟩,
        { numbers := .ofList [(⟨loneMethod "a", some (loneMethod "b")⟩, 0),
            (⟨loneMethod "c", some (loneMethod "b")⟩, 1),
            (⟨loneMethod "b", some (loneMethod "b")⟩, 2)]
          bodies := sampleCrossingAlone.bodies }) := by cbv

theorem build_sampleCrossingTrees :
    (Forest.build {} sampleCrossingTrees (.ofClasses sampleCrossing)
      [loneMethod "a", loneMethod "b"]).result = .ok sampleCrossingForest := by
  have resolved : ([loneMethod "a", loneMethod "b"].mapM fun entryPoint =>
      (liftM (resolveEntry sampleCrossingTrees (.ofClasses sampleCrossing) entryPoint) :
        Logged Failure Signature)).result = .ok [loneMethod "a", loneMethod "b"] := by cbv
  have expanded : expandRoots sampleCrossingSource [loneMethod "a", loneMethod "b"] =
      (sampleCrossingForest.roots, sampleCrossingArena 6) := by
    rw [expandRoots]
    simp only [List.mapM_cons, List.mapM_nil, bind, StateT.bind, pure, StateT.pure,
      node_a_sampleCrossing, node_b_sampleCrossing]
    rfl
  rw [build_of_roots resolved, sourceOf_sampleCrossing (by simp) (by simp), expanded]
  rfl

theorem build_sampleCrossingAlone :
    (Forest.build {} sampleCrossingTrees (.ofClasses sampleCrossing) [loneMethod "b"]).result =
      .ok sampleCrossingAlone := by
  have resolved : ([loneMethod "b"].mapM fun entryPoint =>
      (liftM (resolveEntry sampleCrossingTrees (.ofClasses sampleCrossing) entryPoint) :
        Logged Failure Signature)).result = .ok [loneMethod "b"] := by cbv
  rw [build_of_roots resolved, sourceOf_sampleCrossing (by simp) (by simp), expandRoots]
  simp only [List.mapM_cons, List.mapM_nil, bind, StateT.bind, pure, StateT.pure,
    node_alone_sampleCrossing]
  rfl

theorem build_sampleCrossing :
    (Index.build {} sampleCrossing [loneMethod "a", loneMethod "b"]).result =
      .ok sampleCrossingIndex :=
  Logged.result_bind.2
    ⟨_, ofClasses_sampleCrossing, Logged.result_bind.2 ⟨_, build_sampleCrossingTrees, rfl⟩⟩

end Build

/-- The body of `b` has other numbers if `b` is entered alone, and is the same but for them. -/
theorem build_agree_sample :
    ∃ index index' summary node node' body body',
      (build {} sampleCrossing [loneMethod "a", loneMethod "b"]).result = .ok index ∧
      (build {} sampleCrossing [loneMethod "b"]).result = .ok index' ∧
      index.summaries.get? ⟨loneMethod "b", some (loneMethod "b")⟩ = some summary ∧
      index'.summaries.get? ⟨loneMethod "b", some (loneMethod "b")⟩ = some summary ∧
      loneMethod "x" ∈ summary.callees ∧
      (node ∈ index.forest.nodes ∧ index.forest.body? node = some body) ∧
      (node' ∈ index'.forest.nodes ∧ index'.forest.body? node' = some body') ∧
      node.key = ⟨loneMethod "b", some (loneMethod "b")⟩ ∧ node'.key = node.key ∧
      body ≠ body' ∧ body.map CallItem.unnumbered = body'.map CallItem.unnumbered := by
  have alone : (build {} sampleCrossing [loneMethod "b"]).result =
      .ok ⟨[loneMethod "b"], sampleCrossingAlone, sampleCrossingAlone.summaries⟩ :=
    Logged.result_bind.2
      ⟨_, ofClasses_sampleCrossing, Logged.result_bind.2 ⟨_, build_sampleCrossingAlone, rfl⟩⟩
  have known : (sampleCrossingForest.summaries.get? sampleCrossingOuter.key).map
      (fun summary => summary.callees.contains (loneMethod "x")) = some true := by cbv
  have known' : sampleCrossingAlone.summaries.contains sampleCrossingOuter.key = true := by
    decide +kernel
  obtain ⟨summary, found, shown⟩ := Option.map_eq_some_iff.1 known
  obtain ⟨summary', found'⟩ := Table.contains_iff.1 known'
  obtain ⟨rfl, -, -, bodies⟩ := build_agree build_sampleCrossing alone found found'
  have node : sampleCrossingOuter ∈ sampleCrossingForest.nodes :=
    Forest.mem_nodes.2 (Or.inl (List.mem_cons_of_mem _ List.mem_cons_self))
  have node' : ⟨entryCall (loneMethod "b"), some (loneMethod "b"), 2⟩ ∈ sampleCrossingAlone.nodes :=
    Forest.mem_nodes.2 (Or.inl List.mem_cons_self)
  obtain ⟨body, body', here, here', same⟩ := bodies _ node _ node' rfl rfl
  refine ⟨_, _, summary, _, _, body, body', build_sampleCrossing, alone, found, found',
    List.contains_iff_mem.1 shown, ⟨node, here⟩, ⟨node', here'⟩, rfl, rfl, ?_, same⟩
  cases here
  cases here'
  simp

end Index

end CallSearch
