/-
# CallSearch.Proofs.Excerpt.Contexts — contexts play no part in paths

What is shown of a cut has no contexts, and not the place of its outermost call.  Neither
is looked at when paths are searched for, so the paths of what is shown are what is shown
of the paths: `Excerpt.paths_withoutContexts`.
-/
import CallSearch.Proofs.Excerpt.Ways

namespace CallSearch

set_option autoImplicit false

/-- Renaming the leaves of the canonical form of a sequence of leaves. -/
theorem Tree.map_normalize_ofPath {α β : Type} [Ord α] [Ord β] (f : α → β) (path : List α) :
    (Tree.ofPath path).normalize.map f = (Tree.ofPath (path.map f)).normalize := by
  have leaves : (path.map Tree.leaf).map (Tree.map f) = (path.map f).map Tree.leaf := by
    rw [List.map_map, List.map_map]
    exact List.map_congr_left fun item _ => Tree.map_leaf f item
  rw [ofPath, ofPath, normalize, normalize, normalizeAll_map_leaf, normalizeAll_map_leaf, map_chain,
    leaves]

namespace ExcerptItem

/-! ## Calls -/

mutual

theorem calls_withoutContexts : (item : ExcerptItem) → item.withoutContexts.calls = item.calls
  | .invoked site => by rw [withoutContexts]
  | .call site context depth body => by
      rw [withoutContexts, calls, calls, callsOfTree_withoutContexts body]

theorem callsOfTree_withoutContexts : (tree : Tree ExcerptItem) →
    callsOfTree (treeWithoutContexts tree) = callsOfTree tree
  | .leaf item => by
      rw [treeWithoutContexts, callsOfTree, callsOfTree, calls_withoutContexts item]
  | .seq parts => by
      rw [treeWithoutContexts, callsOfTree, callsOfTree, callsOfTrees_withoutContexts parts]
  | .alt parts => by
      rw [treeWithoutContexts, callsOfTree, callsOfTree, callsOfTrees_withoutContexts parts]

theorem callsOfTrees_withoutContexts : (parts : List (Tree ExcerptItem)) →
    callsOfTrees (treesWithoutContexts parts) = callsOfTrees parts
  | [] => by rw [treesWithoutContexts]
  | part :: rest => by
      rw [treesWithoutContexts, callsOfTrees, callsOfTrees, callsOfTree_withoutContexts part,
        callsOfTrees_withoutContexts rest]

end

/-! ## Paths -/

variable {query : Query}

theorem pathBodies_map (f : ExcerptItem → ExcerptItem) (paths : List (List ExcerptItem)) :
    pathBodies (paths.map (List.map f)) = (pathBodies paths).map (Tree.map f) := by
  rw [pathBodies, pathBodies, List.isEmpty_map]
  split
  · rfl
  · rw [List.map_map, List.map_map]
    exact List.map_congr_left fun path _ => (Tree.map_normalize_ofPath f path).symm

theorem combinations_map (f : ExcerptItem → ExcerptItem) (parts : List (List (List ExcerptItem))) :
    combinations (parts.map (List.map (List.map f))) = (combinations parts).map (List.map f) := by
  have extend : ∀ paths : List (List ExcerptItem),
      (parts.map (List.map (List.map f))).foldl
          (fun paths part => paths.flatMap fun path => part.map (path ++ ·))
          (paths.map (List.map f)) =
        (parts.foldl (fun paths part => paths.flatMap fun path => part.map (path ++ ·)) paths).map
          (List.map f) := by
    induction parts with
    | nil => exact fun paths => rfl
    | cons part rest ih =>
        intro paths
        rw [List.map_cons, List.foldl_cons, List.foldl_cons, ← ih]
        congr 1
        rw [List.flatMap_map, List.map_flatMap]
        refine List.flatMap_congr fun path _ => ?_
        rw [List.map_map, List.map_map]
        exact List.map_congr_left fun choice _ => List.map_append.symm
  exact extend [[]]

theorem isOffered_withoutContexts (path : List ExcerptItem) :
    isOffered query (path.map withoutContexts) = isOffered query path := by
  rw [isOffered, isOffered, pathSummary, pathSummary, List.isEmpty_map, List.flatMap_map,
    List.flatMap_congr fun item _ => calls_withoutContexts item]

mutual

theorem paths_withoutContexts : (item : ExcerptItem) →
    item.withoutContexts.paths query = (item.paths query).map withoutContexts
  | .invoked site => by
      rw [withoutContexts, paths, List.map_singleton, withoutContexts]
  | .call site context depth body => by
      rw [withoutContexts, paths, pathsOfTree_withoutContexts body, pathBodies_map, paths,
        List.map_map, List.map_map]
      refine List.map_congr_left fun body _ => ?_
      rw [Function.comp_apply, Function.comp_apply, withoutContexts, treeWithoutContexts_eq]

theorem pathsOfTree_withoutContexts : (tree : Tree ExcerptItem) →
    pathsOfTree query (treeWithoutContexts tree) =
      (pathsOfTree query tree).map (List.map withoutContexts)
  | .leaf item => by
      rw [treeWithoutContexts, pathsOfTree, pathsOfTree, paths_withoutContexts item, List.map_map,
        List.map_map]
      rfl
  | .seq parts => by
      rw [treeWithoutContexts, pathsOfTree, pathsOfTree, pathsOfTrees_withoutContexts parts,
        List.filter_map]
      simp only [Function.comp_def, List.isEmpty_map]
      split
      · rfl
      · exact combinations_map withoutContexts _
  | .alt parts => by
      rw [treeWithoutContexts, pathsOfTree, pathsOfTree, pathsOfTrees_withoutContexts parts,
        ← List.map_flatten, List.filter_map]
      congr 1
      exact List.filter_congr fun path _ => isOffered_withoutContexts path

theorem pathsOfTrees_withoutContexts : (parts : List (Tree ExcerptItem)) →
    pathsOfTrees query (treesWithoutContexts parts) =
      (pathsOfTrees query parts).map (List.map (List.map withoutContexts))
  | [] => by
      rw [treesWithoutContexts, pathsOfTrees]
      rfl
  | part :: rest => by
      rw [treesWithoutContexts, pathsOfTrees, pathsOfTrees, pathsOfTree_withoutContexts part,
        pathsOfTrees_withoutContexts rest, List.map_cons]

end

end ExcerptItem

namespace Excerpt

variable (excerpt : Excerpt) (query : Query)

theorem calls_withoutContexts : excerpt.withoutContexts.calls = excerpt.calls :=
  ExcerptItem.callsOfTree_withoutContexts excerpt.body

/-- The paths of an excerpt without contexts are those of the excerpt, without contexts. -/
theorem paths_withoutContexts :
    excerpt.withoutContexts.paths query = (excerpt.paths query).map withoutContexts := by
  rw [paths, paths, List.filter_map, List.filter_map, List.map_map]
  change List.map _ (List.filter _ (ExcerptItem.pathBodies (ExcerptItem.pathsOfTree query
    (ExcerptItem.treeWithoutContexts excerpt.body)))) = _
  rw [ExcerptItem.pathsOfTree_withoutContexts, ExcerptItem.pathBodies_map, List.filter_map,
    List.map_map]
  have same : ∀ body, ExcerptItem.callsOfTree (body.map ExcerptItem.withoutContexts) =
      ExcerptItem.callsOfTree body := fun body => by
    rw [← ExcerptItem.treeWithoutContexts_eq, ExcerptItem.callsOfTree_withoutContexts]
  simp only [Function.comp_def, pathSummary, calls, same]
  exact List.map_congr_left fun body _ =>
    congrArg (Excerpt.mk _ _ _) (ExcerptItem.treeWithoutContexts_eq body).symm

/-- The place of the outermost call is not looked at. -/
theorem paths_withoutCaller :
    excerpt.withoutCaller.paths query = (excerpt.paths query).map withoutCaller := by
  rw [paths, paths, List.filter_map, List.filter_map, List.map_map]
  rfl

/-- What is shown of an excerpt has a path if the excerpt has one. -/
theorem paths_shown_eq_nil_iff :
    excerpt.withoutCaller.withoutContexts.paths query = [] ↔ excerpt.paths query = [] := by
  rw [paths_withoutContexts, paths_withoutCaller, List.map_eq_nil_iff, List.map_eq_nil_iff]

end Excerpt

end CallSearch
