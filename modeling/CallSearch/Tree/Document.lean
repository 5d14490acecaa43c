/-
# CallSearch.Tree.Document — how a tree is written

A tree is written as a choice: `leaf` with the leaf, `seq` or `alt` with the array
of the parts.
-/
import CallSearch.Json.Decode
import CallSearch.Tree

namespace CallSearch.Tree

set_option autoImplicit false

variable {α : Type}

mutual

/-- The document of a tree. -/
def toJson (encode : α → Json) : Tree α → Json
  | .leaf item => .obj [("leaf", encode item)]
  | .seq parts => .obj [("seq", .arr (toJsonAll encode parts))]
  | .alt parts => .obj [("alt", .arr (toJsonAll encode parts))]

/-- The documents of some trees. -/
def toJsonAll (encode : α → Json) : List (Tree α) → List Json
  | [] => []
  | part :: rest => part.toJson encode :: toJsonAll encode rest

end

mutual

/-- The tree a document writes. -/
def ofJson? (decode : Json → Option α) : Json → Option (Tree α)
  | .obj [(tag, value)] =>
      if tag = "leaf" then (decode value).map .leaf
      else
        match value with
        | .arr parts =>
            if tag = "seq" then (ofJsonAll? decode parts).map .seq
            else if tag = "alt" then (ofJsonAll? decode parts).map .alt
            else none
        | _ => none
  | _ => none

/-- The trees some documents write. -/
def ofJsonAll? (decode : Json → Option α) : List Json → Option (List (Tree α))
  | [] => some []
  | part :: rest => do
      let part ← ofJson? decode part
      let rest ← ofJsonAll? decode rest
      return part :: rest

end

end CallSearch.Tree
