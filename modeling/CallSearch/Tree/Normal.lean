/-
# CallSearch.Tree.Normal — the canonical form of a tree

`Tree.normalize` splices nested sequences into their sequence and nested
alternatives into their alternative, sorts alternatives and drops repeated ones,
and replaces a node with one part by that part.  A sequence with a part that can
never happen can never happen itself.

Normalizing works from the leaves up, so both node kinds are rebuilt from parts
that are already normal: `Tree.chain` rebuilds a sequence and `Tree.choice` an
alternative.
-/
import CallSearch.Sorted
import CallSearch.Tree

namespace CallSearch.Tree

set_option autoImplicit false

variable {α : Type}

/-- A node of one part is that part. -/
def single (wrap : List (Tree α) → Tree α) : List (Tree α) → Tree α
  | [part] => part
  | parts => wrap parts

/-- The parts of a sequence after nested sequences are spliced in; `none` when some part
can never happen. -/
def spliceSeq : List (Tree α) → Option (List (Tree α))
  | [] => some []
  | .alt [] :: _ => none
  | .seq inner :: rest => (spliceSeq rest).map (inner ++ ·)
  | part :: rest => (spliceSeq rest).map (part :: ·)

/-- The parts of an alternative after nested alternatives are spliced in. -/
def spliceAlt : List (Tree α) → List (Tree α)
  | [] => []
  | .alt inner :: rest => inner ++ spliceAlt rest
  | part :: rest => part :: spliceAlt rest

/-- The normal sequence of normal parts. -/
def chain (parts : List (Tree α)) : Tree α :=
  match spliceSeq parts with
  | none => .alt []
  | some flat => single .seq flat

variable [Ord α]

/-- The normal alternative of normal parts. -/
def choice (parts : List (Tree α)) : Tree α := single .alt (sortUnique (spliceAlt parts))

mutual

/-- The canonical form of a tree. -/
def normalize : Tree α → Tree α
  | .leaf item => .leaf item
  | .seq parts => chain (normalizeAll parts)
  | .alt parts => choice (normalizeAll parts)

/-- The canonical forms of some trees. -/
def normalizeAll : List (Tree α) → List (Tree α)
  | [] => []
  | part :: rest => part.normalize :: normalizeAll rest

end

end CallSearch.Tree
