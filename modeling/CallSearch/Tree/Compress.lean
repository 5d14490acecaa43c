/-
# CallSearch.Tree.Compress — a set of paths as one tree

`Tree.ofPaths` turns a set of paths into a tree that stands for the same paths and
shares their common ends.  The paths are grouped by their ends, a group with
several members is written as its shared first step, the tree of what remains,
and its shared last step, and the remainders are compressed the same way.

Three groupings are tried: by both ends, by the first step, by the last step.  The
one with the fewest groups is taken, the earlier one on a tie; when no grouping
puts two paths together the paths stand side by side.
-/
import CallSearch.Tree.Normal

namespace CallSearch.Tree

set_option autoImplicit false

/-- Which ends of a path are shared in a group. -/
inductive Grouping where
  | bothEnds
  | firstStep
  | lastStep

/-- The ends that the members of a group share. -/
structure Ends (σ : Type) where
  first : Option σ
  last : Option σ

namespace Ends

variable {σ : Type} [Ord σ]

instance : Ord (Ends σ) :=
  ⟨compareLex (compareOn Ends.first) (compareOn Ends.last)⟩

end Ends

variable {σ : Type}

/-- The shared ends under which a path is filed.  A path of one step has no last step
apart from its first. -/
def Grouping.ends : Grouping → List σ → Ends σ
  | .bothEnds, path => ⟨path.head?, if 2 ≤ path.length then path.getLast? else none⟩
  | .firstStep, path => ⟨path.head?, none⟩
  | .lastStep, path => ⟨none, path.getLast?⟩

/-- The number of steps in all paths together. -/
def stepCount (paths : List (List σ)) : Nat := (paths.map List.length).foldr (· + ·) 0

variable [Ord σ]

/-- The groups of paths with the same ends, in the order of the ends. -/
def Grouping.groups (grouping : Grouping) (paths : List (List σ)) :
    List (Ends σ × List (List σ)) :=
  (sortUnique (paths.map grouping.ends)).map fun ends =>
    (ends, paths.filter fun path => compare (grouping.ends path) ends == .eq)

/-- The groups of the best grouping: the fewest groups, and on a tie the earlier of both
ends, first step, last step. -/
def bestGroups (paths : List (List σ)) : List (Ends σ × List (List σ)) :=
  let byBoth := Grouping.bothEnds.groups paths
  let byFirst := Grouping.firstStep.groups paths
  let byLast := Grouping.lastStep.groups paths
  let better := if byFirst.length < byBoth.length then byFirst else byBoth
  if byLast.length < better.length then byLast else better

/-- What is left of the members of a group once the shared ends are taken off, with the
shared last step if it was taken off. -/
def remainders (ends : Ends σ) (members : List (List σ)) : List (List σ) × Option σ :=
  let members := if ends.first.isSome then members.map List.tail else members
  match ends.last with
  | some last =>
      if members.all fun path => !path.isEmpty then (members.map List.dropLast, some last)
      else (members, none)
  | none => (members, none)

/-- The tree of some distinct paths.  Every group with several members has fewer steps
left than the paths had, so `depth` need not exceed the number of steps. -/
def factor : Nat → List (List σ) → Tree σ
  | _, [] => .empty
  | _, [path] => .ofPath path
  | 0, paths => .alt (paths.map .ofPath)
  | depth + 1, paths =>
      let groups := bestGroups paths
      if groups.length < paths.length then
        .alt <| groups.map fun
          | (_, []) => .empty
          | (_, [path]) => .ofPath path
          | (ends, members) =>
              let (rest, last) := remainders ends members
              .seq <| ends.first.toList.map .leaf ++ [factor depth (sortUnique rest)]
                ++ last.toList.map .leaf
      else .alt (paths.map .ofPath)

/-- The normal tree that stands for exactly the given paths. -/
def ofPaths (paths : List (List σ)) : Tree σ :=
  let paths := sortUnique paths
  (factor (stepCount paths) paths).normalize

end CallSearch.Tree
