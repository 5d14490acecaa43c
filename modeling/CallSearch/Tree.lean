/-
# CallSearch.Tree — what may happen, as sequences and alternatives

A `Tree` over leaves says what may happen: a leaf happens, `seq` runs its parts
one after another, and `alt` picks exactly one of its parts.  `seq []` is the
empty sequence and `alt []` can never happen.

The functions here walk a tree from left to right; `Tree.Normal` and
`Tree.Compress` build on them.
-/

namespace CallSearch

set_option autoImplicit false

universe u

/-- Sequences and alternatives over leaves. -/
inductive Tree (α : Type) where
  /-- One thing that happens. -/
  | leaf (item : α)
  /-- All parts, one after another. -/
  | seq (parts : List (Tree α))
  /-- Exactly one of the parts. -/
  | alt (parts : List (Tree α))

namespace Tree

variable {α β : Type}

instance : Inhabited (Tree α) := ⟨.seq []⟩

/-- The sequence of nothing. -/
def empty : Tree α := .seq []

/-- Whether a tree is written as the empty sequence. -/
def isEmpty : Tree α → Bool
  | .seq [] => true
  | _ => false

/-- The sequence of some leaves. -/
def ofPath (path : List α) : Tree α := .seq (path.map .leaf)

mutual

/-- The leaves from left to right. -/
def leaves : Tree α → List α
  | .leaf item => [item]
  | .seq parts => leavesOfAll parts
  | .alt parts => leavesOfAll parts

/-- The leaves of some trees from left to right. -/
def leavesOfAll : List (Tree α) → List α
  | [] => []
  | part :: rest => part.leaves ++ leavesOfAll rest

end

mutual

/-- Put a whole tree in the place of every leaf. -/
def flatMap (f : α → Tree β) : Tree α → Tree β
  | .leaf item => f item
  | .seq parts => .seq (flatMapAll f parts)
  | .alt parts => .alt (flatMapAll f parts)

/-- Put a whole tree in the place of every leaf of every tree. -/
def flatMapAll (f : α → Tree β) : List (Tree α) → List (Tree β)
  | [] => []
  | part :: rest => part.flatMap f :: flatMapAll f rest

end

/-- Replace every leaf. -/
def map (f : α → β) (tree : Tree α) : Tree β := tree.flatMap fun item => .leaf (f item)

section Effects

variable {m : Type → Type u} [Monad m]

mutual

/-- Put a whole tree in the place of every leaf, with the effects of the leaves from
left to right. -/
def flatMapM (f : α → m (Tree β)) : Tree α → m (Tree β)
  | .leaf item => f item
  | .seq parts => do return .seq (← flatMapAllM f parts)
  | .alt parts => do return .alt (← flatMapAllM f parts)

/-- Put a whole tree in the place of every leaf of every tree, with the effects of the
leaves from left to right. -/
def flatMapAllM (f : α → m (Tree β)) : List (Tree α) → m (List (Tree β))
  | [] => return []
  | part :: rest => do
      let part ← part.flatMapM f
      let rest ← flatMapAllM f rest
      return part :: rest

end

/-- Replace every leaf, with the effects of the leaves from left to right.  In
`Except` this stops at the first leaf that fails. -/
def mapM (f : α → m β) (tree : Tree α) : m (Tree β) :=
  tree.flatMapM fun item => do return .leaf (← f item)

end Effects

section Order

variable [Ord α]

mutual

/-- Leaves come before sequences and sequences before alternatives; trees of one kind
compare by their contents, part by part. -/
def order : Tree α → Tree α → Ordering
  | .leaf a, .leaf b => compare a b
  | .leaf _, .seq _ => .lt
  | .leaf _, .alt _ => .lt
  | .seq _, .leaf _ => .gt
  | .seq as, .seq bs => orderAll as bs
  | .seq _, .alt _ => .lt
  | .alt _, .leaf _ => .gt
  | .alt _, .seq _ => .gt
  | .alt as, .alt bs => orderAll as bs

/-- Lists of trees compare part by part, and a list comes before its extensions. -/
def orderAll : List (Tree α) → List (Tree α) → Ordering
  | [], [] => .eq
  | [], _ :: _ => .lt
  | _ :: _, [] => .gt
  | a :: as, b :: bs => (a.order b).then (orderAll as bs)

end

instance : Ord (Tree α) := ⟨order⟩

end Order

end Tree

end CallSearch
