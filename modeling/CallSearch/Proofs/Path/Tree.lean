/-
# CallSearch.Proofs.Path.Tree — the tree of some paths

The paths of each level are compressed over their steps, and the trees of the steps
are put in afterwards, those of nested paths from a cache.  The cache makes no
difference: `tree_eq` gives the tree without it, by recursion on how deep the paths
are nested.

* `language_tree`: the tree of some paths stands for the sequences of the paths;
* `feasible_tree`: it has no impossible parts;
* `Region.tree_paths_exact`: both for the paths through a method body, in normal form.

The first two ask that no nested step is without paths, since the tree of no path is
the empty sequence and not the impossible one.
-/
import CallSearch.Proofs.Path.Walk
import CallSearch.Proofs.Tree.Map
import CallSearch.Proofs.Tree.Normal

namespace CallSearch

set_option autoImplicit false

namespace Path

/-! ## Depth -/

theorem stepsDepth_le {path : Path} {paths : List Path} (h : path ∈ paths) :
    stepsDepth path ≤ pathsDepth paths := by
  induction paths with
  | nil => exact absurd h List.not_mem_nil
  | cons first rest ih =>
      rw [pathsDepth]
      rcases List.mem_cons.1 h with rfl | h
      · omega
      · have := ih h
        omega

theorem stepDepth_le {step : Step} {path : Path} (h : step ∈ path) :
    stepDepth step ≤ stepsDepth path := by
  induction path with
  | nil => exact absurd h List.not_mem_nil
  | cons first rest ih =>
      rw [stepsDepth]
      rcases List.mem_cons.1 h with rfl | h
      · omega
      · have := ih h
        omega

/-- Nested paths are one level less deep than the paths they stand in. -/
theorem pathsDepth_lt {paths : List Path} {path : Path} (hpath : path ∈ paths)
    {inner : List Path} (hinner : Step.nested inner ∈ path) :
    pathsDepth inner < pathsDepth paths := by
  have deep := stepDepth_le hinner
  rw [stepDepth] at deep
  have := stepsDepth_le hpath
  omega

theorem exists_of_mem_leaves_ofPaths {paths : List Path} {step : Step}
    (mem : step ∈ (Tree.ofPaths paths).leaves) : ∃ path ∈ paths, step ∈ path := by
  by_cases inhabited : paths = []
  · subst inhabited
    rw [Tree.ofPaths_nil, Tree.leaves, Tree.leavesOfAll] at mem
    cases mem
  · obtain ⟨path, hpath, hstep⟩ := (Tree.mem_leaves_iff (Tree.feasible_ofPaths paths)).1 mem
    rw [Tree.language_ofPaths inhabited] at hpath
    exact ⟨path, hpath, hstep⟩

/-! ## Trees without a cache -/

/-- The tree of a step, given the trees of the paths nested in it. -/
def plainStepTree (nested : List Path → Tree Invocation) : Step → Tree Invocation
  | .block calls => .ofPath calls
  | .nested paths => nested paths

/-- The tree of some paths whose nested paths go at most `depth` deep. -/
def treeTo : Nat → List Path → Tree Invocation
  | 0, paths => (Tree.ofPaths paths).flatMap (plainStepTree fun _ => .empty)
  | depth + 1, paths => (Tree.ofPaths paths).flatMap (plainStepTree (treeTo depth))

/-- The tree of some paths before it is brought to normal form. -/
def plainTree (paths : List Path) : Tree Invocation := treeTo (pathsDepth paths) paths

/-- The paths nested in a level are put in by a tree that only matters for them. -/
theorem flatMap_plainStepTree_congr {nested other : List Path → Tree Invocation}
    {paths : List Path}
    (same : ∀ inner, pathsDepth inner < pathsDepth paths → nested inner = other inner) :
    (Tree.ofPaths paths).flatMap (plainStepTree nested) =
      (Tree.ofPaths paths).flatMap (plainStepTree other) := by
  refine Tree.flatMap_congr fun step mem => ?_
  cases step with
  | block calls => rfl
  | nested inner =>
      obtain ⟨path, hpath, hinner⟩ := exists_of_mem_leaves_ofPaths mem
      exact same inner (pathsDepth_lt hpath hinner)

theorem treeTo_succ {depth : Nat} {paths : List Path} (enough : pathsDepth paths ≤ depth) :
    treeTo (depth + 1) paths = treeTo depth paths := by
  induction depth generalizing paths with
  | zero =>
      refine flatMap_plainStepTree_congr fun inner less => ?_
      omega
  | succ depth ih =>
      refine flatMap_plainStepTree_congr fun inner less => ?_
      exact ih (by omega)

/-- Once a depth is enough, the tree no longer depends on it. -/
theorem treeTo_eq_plainTree {depth : Nat} {paths : List Path} (enough : pathsDepth paths ≤ depth) :
    treeTo depth paths = plainTree paths := by
  induction depth, enough using Nat.le_induction with
  | base => rfl
  | succ depth enough ih => rw [treeTo_succ enough, ih]

/-- The tree of some paths by the trees of the paths nested in them. -/
theorem plainTree_eq (paths : List Path) :
    plainTree paths = (Tree.ofPaths paths).flatMap (plainStepTree plainTree) := by
  rw [← treeTo_eq_plainTree (Nat.le_succ (pathsDepth paths)), treeTo]
  exact flatMap_plainStepTree_congr fun inner less => treeTo_eq_plainTree (Nat.le_of_lt less)

/-! ## The cache -/

/-- Every tree in the cache is the tree of its paths. -/
def Converted.Right (converted : Converted) : Prop :=
  ∀ entry ∈ converted, entry.2 = plainTree entry.1

/-- The effect of converting the steps of a level. -/
def convertEffect : Effect Converted Step (Tree Invocation) Invocation where
  parts := Tree.leaves
  inv := Converted.Right
  step _ _ _ := True
  idle _ := trivial
  append _ _ := trivial
  related _ step tree := tree = plainStepTree plainTree step
  keep same _ := same

theorem holds_stepTree {nested : List Path → StateM Converted (Tree Invocation)} {step : Step}
    (each : ∀ inner, step = .nested inner → ∀ converted : Converted, converted.Right →
      (nested inner converted).1 = plainTree inner ∧
        Converted.Right (nested inner converted).2) :
    convertEffect.Holds (stepTree nested) step := by
  intro converted right
  cases step with
  | block calls => exact ⟨right, trivial, rfl⟩
  | nested inner =>
      cases kept : converted.find? fun entry => Step.orderPaths entry.1 inner == .eq with
      | some entry =>
          have run : stepTree nested (.nested inner) converted = (entry.2, converted) := by
            simp only [stepTree, bind, StateT.bind, get, getThe, MonadStateOf.get, StateT.get, pure,
              kept]
            rfl
          have found := List.find?_some kept
          have same : entry.1 = inner := Step.eq_of_orderPaths _ _ (beq_iff_eq.1 found)
          rw [run]
          exact ⟨right, trivial, same ▸ right entry (List.mem_of_find?_eq_some kept)⟩
      | none =>
          have run : stepTree nested (.nested inner) converted =
              ((nested inner converted).1,
                (inner, (nested inner converted).1) :: (nested inner converted).2) := by
            simp only [stepTree, bind, StateT.bind, get, getThe, MonadStateOf.get, StateT.get, pure,
              kept]
            rfl
          obtain ⟨same, right'⟩ := each inner rfl converted right
          rw [run]
          refine ⟨fun entry mem => ?_, trivial, same⟩
          rcases List.mem_cons.1 mem with rfl | mem
          · exact same
          · exact right' entry mem

/-- Converting the steps of a level is right if converting the paths nested in them is. -/
theorem right_flatMapM {nested : List Path → StateM Converted (Tree Invocation)}
    {paths : List Path}
    (each : ∀ inner, pathsDepth inner < pathsDepth paths → ∀ converted : Converted,
      converted.Right → (nested inner converted).1 = plainTree inner ∧
        Converted.Right (nested inner converted).2)
    {converted : Converted} (right : converted.Right) :
    let result := (Tree.ofPaths paths).flatMapM (stepTree nested) converted
    result.1 = plainTree paths ∧ Converted.Right result.2 := by
  obtain ⟨right', -, expands⟩ := Tree.expands_flatMapM convertEffect rfl (Tree.ofPaths paths)
    (fun step mem => holds_stepTree fun inner same converted right => by
      subst same
      obtain ⟨path, hpath, hinner⟩ := exists_of_mem_leaves_ofPaths mem
      exact each inner (pathsDepth_lt hpath hinner) converted right) right
  exact ⟨expands.eq_flatMap.trans (plainTree_eq paths).symm, right'⟩

theorem convert_eq (depth : Nat) (paths : List Path) (enough : pathsDepth paths ≤ depth)
    (converted : Converted) (right : converted.Right) :
    (convert depth paths converted).1 = plainTree paths ∧
      Converted.Right (convert depth paths converted).2 := by
  induction depth generalizing paths converted with
  | zero =>
      refine right_flatMapM (fun inner less => ?_) right
      omega
  | succ depth ih =>
      refine right_flatMapM (fun inner less => ?_) right
      exact ih inner (by omega)

/-- The tree of some paths is what it is without a cache. -/
theorem tree_eq (paths : List Path) : tree paths = (plainTree paths).normalize := by
  rw [tree]
  exact congrArg Tree.normalize
    (convert_eq _ paths (Nat.le_refl _) [] (fun _ mem => absurd mem List.not_mem_nil)).1

/-! ## Call sequences of trees -/

/-- The tree of some paths is right if the trees of the paths nested in them are. -/
theorem exact_flatMap {nested : List Path → Tree Invocation} {paths : List Path}
    (inhabited : paths ≠ [])
    (exact : ∀ path ∈ paths, ∀ inner, Step.nested inner ∈ path →
      (nested inner).language = languageOfAny inner ∧ (nested inner).Feasible) :
    let tree := (Tree.ofPaths paths).flatMap (plainStepTree nested)
    tree.language = languageOfAny paths ∧ tree.Feasible := by
  have step : ∀ path ∈ paths, ∀ step ∈ path,
      (plainStepTree nested step).language = stepLanguage step ∧ (plainStepTree nested step).Feasible := by
    intro path hpath step hstep
    cases step with
    | block calls =>
        rw [plainStepTree, stepLanguage]
        exact ⟨Tree.language_ofPath calls, Tree.feasible_ofPath calls⟩
    | nested inner =>
        rw [plainStepTree, stepLanguage]
        exact exact path hpath inner hstep
  have word : ∀ path ∈ paths,
      (path.map fun item => (plainStepTree nested item).language).prod = language path := by
    intro path hpath
    rw [language_eq_prod, List.map_congr_left fun item h => (step path hpath item h).1]
  constructor
  · ext s
    rw [Tree.mem_language_flatMap, Tree.language_ofPaths inhabited, mem_languageOfAny]
    constructor
    · rintro ⟨path, hpath, hs⟩
      exact ⟨path, hpath, word path hpath ▸ hs⟩
    · rintro ⟨path, hpath, hs⟩
      exact ⟨path, hpath, (word path hpath).symm ▸ hs⟩
  · refine (Tree.feasible_ofPaths paths).flatMap fun item hitem => ?_
    obtain ⟨path, hpath, hstep⟩ := exists_of_mem_leaves_ofPaths hitem
    exact (step path hpath item hstep).2

/-- The paths nested in passable paths are some, and passable. -/
theorem AllPassable.nested {paths : List Path} (passable : AllPassable paths) {path : Path}
    (hpath : path ∈ paths) {inner : List Path} (hinner : Step.nested inner ∈ path) :
    inner ≠ [] ∧ AllPassable inner := by
  have nested := passable_iff.1 (allPassable_iff.1 passable path hpath) _ hinner
  rwa [StepPassable] at nested

theorem exact_plainTree (paths : List Path) (inhabited : paths ≠ [])
    (passable : AllPassable paths) :
    (plainTree paths).language = languageOfAny paths ∧ (plainTree paths).Feasible := by
  induction deep : pathsDepth paths using Nat.strong_induction_on generalizing paths with
  | h depth ih =>
      rw [plainTree_eq]
      refine exact_flatMap inhabited fun path hpath inner hinner => ?_
      obtain ⟨some, innerPassable⟩ := passable.nested hpath hinner
      exact ih _ (deep ▸ pathsDepth_lt hpath hinner) inner some innerPassable rfl

theorem plainTree_nil : plainTree [] = .seq [] := by
  rw [plainTree_eq, Tree.ofPaths_nil, Tree.flatMap, Tree.flatMapAll]

/-- The tree of some paths stands for the call sequences of the paths. -/
theorem language_tree {paths : List Path} (inhabited : paths ≠ []) (passable : AllPassable paths) :
    (tree paths).language = languageOfAny paths := by
  rw [tree_eq, Tree.language_normalize, (exact_plainTree paths inhabited passable).1]

/-- The tree of no path stands for the empty sequence. -/
theorem language_tree_nil : (tree []).language = 1 := by
  rw [tree_eq, plainTree_nil, Tree.language_normalize, Tree.language_seq, Tree.languageSeq_nil]

/-- The tree of some paths has no impossible parts. -/
theorem feasible_tree {paths : List Path} (passable : AllPassable paths) :
    (tree paths).Feasible := by
  rw [tree_eq]
  apply Tree.Feasible.normalize
  by_cases inhabited : paths = []
  · rw [inhabited, plainTree_nil]
    exact Tree.feasible_seq.2 (by simp)
  · exact (exact_plainTree paths inhabited passable).2

end Path

/-! ## The paths through a method body -/

namespace Region

/-- The tree of the paths through a method body stands for the call sequences of the paths, or
for the empty sequence alone where there is no path.  It is in normal form. -/
theorem tree_paths_exact (regions : List Region) :
    (Path.tree (paths regions)).language =
      (if paths regions = [] then 1 else Path.languageOfAny (paths regions)) ∧
    (Path.tree (paths regions)).IsNormal := by
  constructor
  · split
    · next none => rw [none, Path.language_tree_nil]
    · next some => exact Path.language_tree some (allPassable_paths regions)
  · rw [Path.tree_eq]
    exact Tree.isNormal_normalize _

end Region

end CallSearch
