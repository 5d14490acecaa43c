/-
# CallSearch.Path — the paths through a method body

A path lists the blocks and boxes met on the way through one level of regions.  A
box is one `nested` step that stands for any one of the paths through it, so paths
are enumerated level by level.

A walk goes through a level from its start.  It marks every label it passes and
never passes a marked label; a jump back skips the label it leads to and may be
taken `backPasses` times.  Conditional and multiple jumps fork the walk.  Each
move either marks a position or goes forward, which is why walks end: see
`budget_cons_lt`.

Paths that fall off the end of a level are kept apart from those that leave the
method, because only the former go on behind a box.
-/
import CallSearch.Region
import CallSearch.Tree.Compress

namespace CallSearch

set_option autoImplicit false

/-- One step of a path. -/
inductive Step where
  /-- Calls in a row. -/
  | block (calls : List Invocation)
  /-- Any one of some paths through a box. -/
  | nested (paths : List (List Step))

/-- The steps on the way through a level. -/
abbrev Path := List Step

namespace Step

instance : Inhabited Step := ⟨.block []⟩

mutual

/-- Blocks come before nested paths; steps of one kind compare by their contents. -/
def order : Step → Step → Ordering
  | .block as, .block bs => compare as bs
  | .block _, .nested _ => .lt
  | .nested _, .block _ => .gt
  | .nested as, .nested bs => orderPaths as bs

/-- Lists of paths compare path by path. -/
def orderPaths : List (List Step) → List (List Step) → Ordering
  | [], [] => .eq
  | [], _ :: _ => .lt
  | _ :: _, [] => .gt
  | a :: as, b :: bs => (orderSteps a b).then (orderPaths as bs)

/-- Paths compare step by step. -/
def orderSteps : List Step → List Step → Ordering
  | [], [] => .eq
  | [], _ :: _ => .lt
  | _ :: _, [] => .gt
  | a :: as, b :: bs => (a.order b).then (orderSteps as bs)

end

instance : Ord Step := ⟨order⟩

end Step

/-! ## Walks through one level -/

/-- A region as a walk meets it. -/
inductive Stage where
  | block (calls : List Invocation)
  /-- A box, by the paths through it and the paths that leave the method inside it. -/
  | box (through exits : List Path)
  | control (op : Control)

/-- The end of a walk. -/
inductive WalkEnd where
  /-- The walk fell off the end of the level. -/
  | through (path : Path)
  /-- The walk left the method. -/
  | exit (path : Path)

/-- The paths through one level. -/
structure Level where
  /-- Paths that fall off the end of the level. -/
  through : List Path
  /-- Paths that leave the method by returning or throwing. -/
  exits : List Path

namespace Walk

/-- How often a walk may take one jump back. -/
def backPasses : Nat := 2

/-- Whether a stage is the definition of a label. -/
def isLabel (name : String) : Stage → Bool
  | .control (.label other) => other == name
  | _ => false

/-- Where a label is defined; of several places the last. -/
def labelIndex? (name : String) : List Stage → Option Nat
  | [] => none
  | stage :: rest =>
      match labelIndex? name rest with
      | some index => some (index + 1)
      | none => if isLabel name stage then some 0 else none

/-- How many marks the positions below `size` can still take, two marks a position. -/
def budget (size : Nat) (marks : List Nat) : Nat :=
  match size with
  | 0 => 0
  | size + 1 => budget size marks + (2 - marks.count size)

theorem labelIndex?_lt {name : String} {stages : List Stage} {index : Nat}
    (h : labelIndex? name stages = some index) : index < stages.length := by
  induction stages generalizing index with
  | nil => cases h
  | cons stage rest ih =>
    rw [labelIndex?] at h
    split at h
    · next found =>
      have := ih found
      cases h
      simp only [List.length_cons]
      omega
    · split at h
      · cases h
        simp
      · cases h

theorem budget_succ (size : Nat) (marks : List Nat) :
    budget (size + 1) marks = budget size marks + (2 - marks.count size) := rfl

theorem budget_cons_of_le (size index : Nat) (marks : List Nat) (h : size ≤ index) :
    budget size (index :: marks) = budget size marks := by
  induction size with
  | zero => rfl
  | succ size ih =>
    have apart : index ≠ size := by omega
    rw [budget_succ, budget_succ, ih (by omega), List.count_cons_of_ne apart]

/-- A new mark on a position with fewer than two marks uses up part of the budget. -/
theorem budget_cons_lt {size index : Nat} {marks : List Nat} (inside : index < size)
    (room : marks.count index < 2) : budget size (index :: marks) < budget size marks := by
  induction size with
  | zero => omega
  | succ size ih =>
    rw [budget_succ, budget_succ]
    by_cases h : index = size
    · subst h
      rw [budget_cons_of_le _ _ _ (Nat.le_refl _), List.count_cons_self]
      omega
    · have := ih (by omega)
      rw [List.count_cons_of_ne h]
      omega

theorem budget_cons_lt_of_not_mem {size index : Nat} {marks : List Nat} (inside : index < size)
    (fresh : index ∉ marks) : budget size (index :: marks) < budget size marks :=
  budget_cons_lt inside (by rw [List.count_eq_zero.2 fresh]; omega)

/-- All ends of the walks from a position on.  `trail` holds the steps so far, newest first,
and `marks` the labels passed and, once a pass, the jumps back taken. -/
def ends (stages : List Stage) (position : Nat) (trail : Path) (marks : List Nat) :
    List WalkEnd :=
  if inside : position < stages.length then
    match stages.get ⟨position, inside⟩ with
    | .block calls => ends stages (position + 1) (.block calls :: trail) marks
    | .box through exits =>
        let left := if exits.isEmpty then [] else [.exit (.nested exits :: trail).reverse]
        let passed :=
          if through.isEmpty then []
          else ends stages (position + 1) (.nested through :: trail) marks
        left ++ passed
    | .control (.ret _) => [.exit trail.reverse]
    | .control (.throw _) => [.exit trail.reverse]
    | .control (.condBranch target _) =>
        let jumped :=
          match found : labelIndex? target stages with
          | none => []
          | some label =>
              if fresh : label ∈ marks then [] else ends stages (label + 1) trail (label :: marks)
        jumped ++ ends stages (position + 1) trail marks
    | .control (.branch target _) =>
        match found : labelIndex? target stages with
        | none => []
        | some label =>
            if label < position then
              if room : marks.count position < backPasses then
                ends stages (label + 1) trail (position :: marks)
              else []
            else if fresh : label ∈ marks then []
            else ends stages (label + 1) trail (label :: marks)
    | .control (.multiBranch targets _) =>
        let labels := targets.filterMap (labelIndex? · stages)
        labels.eraseDups.flatMap fun label =>
          if fresh : label < stages.length ∧ label ∉ marks then
            ends stages (label + 1) trail (label :: marks)
          else []
    | .control (.label _) =>
        if fresh : position ∈ marks then []
        else ends stages (position + 1) trail (position :: marks)
  else [.through trail.reverse]
termination_by (budget stages.length marks, stages.length - position)
decreasing_by
  · exact Prod.Lex.right _ (by omega)
  · exact Prod.Lex.right _ (by omega)
  · exact Prod.Lex.left _ _ (budget_cons_lt_of_not_mem (labelIndex?_lt found) fresh)
  · exact Prod.Lex.right _ (by omega)
  · exact Prod.Lex.left _ _ (budget_cons_lt inside room)
  · exact Prod.Lex.left _ _ (budget_cons_lt_of_not_mem (labelIndex?_lt found) fresh)
  · exact Prod.Lex.left _ _ (budget_cons_lt_of_not_mem fresh.1 fresh.2)
  · exact Prod.Lex.left _ _ (budget_cons_lt_of_not_mem inside fresh)

end Walk

namespace Level

/-- The paths through a level of stages, in increasing order and each once. -/
def ofStages (stages : List Stage) : Level :=
  let ends := Walk.ends stages 0 [] []
  { through := sortUnique (ends.filterMap fun | .through path => some path | .exit _ => none)
    exits := sortUnique (ends.filterMap fun | .exit path => some path | .through _ => none) }

end Level

namespace Region

mutual

/-- A region as a walk meets it. -/
def stage : Region → Stage
  | .block calls => .block calls
  | .box inner =>
      let level := Level.ofStages (stages inner)
      .box level.through level.exits
  | .control op => .control op

/-- Regions as a walk meets them. -/
def stages : List Region → List Stage
  | [] => []
  | region :: rest => stage region :: stages rest

end

/-- The paths through one level of regions. -/
def level (regions : List Region) : Level := Level.ofStages (stages regions)

/-- Every path through a method body, early ends included. -/
def paths (regions : List Region) : List Path :=
  let level := level regions
  sortUnique (level.through ++ level.exits)

end Region

/-! ## Paths as trees -/

namespace Path

mutual

/-- How deep the nested paths of a step go. -/
def stepDepth : Step → Nat
  | .block _ => 0
  | .nested paths => pathsDepth paths + 1

/-- How deep the nested paths of some paths go. -/
def pathsDepth : List (List Step) → Nat
  | [] => 0
  | path :: rest => max (stepsDepth path) (pathsDepth rest)

/-- How deep the nested paths of some steps go. -/
def stepsDepth : List Step → Nat
  | [] => 0
  | step :: rest => max (stepDepth step) (stepsDepth rest)

end

/-- The trees of the nested paths met so far, newest first. -/
abbrev Converted := List (List Path × Tree Invocation)

/-- The tree of a step, given how paths nested in it become trees: a block is the sequence of
its calls, and nested paths met before have the tree found then. -/
def stepTree (nested : List Path → StateM Converted (Tree Invocation)) :
    Step → StateM Converted (Tree Invocation)
  | .block calls => return .ofPath calls
  | .nested paths => do
      match (← get).find? fun entry => Step.orderPaths entry.1 paths == .eq with
      | some entry => return entry.2
      | none =>
          let tree ← nested paths
          modify ((paths, tree) :: ·)
          return tree

/-- The tree of some paths whose nested paths go at most `depth` deep.  The paths of each
level are compressed before the trees of their steps are put in. -/
def convert : Nat → List Path → StateM Converted (Tree Invocation)
  | 0, paths => (Tree.ofPaths paths).flatMapM (stepTree fun _ => return .empty)
  | depth + 1, paths => (Tree.ofPaths paths).flatMapM (stepTree (convert depth))

/-- The normal tree of the calls on some paths. -/
def tree (paths : List Path) : Tree Invocation :=
  ((convert (pathsDepth paths) paths).run []).1.normalize

end Path

end CallSearch
