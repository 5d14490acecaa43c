/-
# CallSearch.Layers — what is reached step by step

`layers next rounds seen start` lists what is reached from `start` by `next`, layer
by layer: first the start, then what is one step away, and so on, each element in
the first layer that reaches it and none that is in `seen`.
-/

namespace CallSearch

set_option autoImplicit false

variable {α : Type} [BEq α]

/-- What is one step away from a layer and was not seen before, each once. -/
def nextLayer (next : α → List α) (seen layer : List α) : List α :=
  ((layer.flatMap next).filter fun a => !(seen.contains a || layer.contains a)).eraseDups

/-- The layers reached from `layer` in a number of rounds. -/
def layers (next : α → List α) : Nat → List α → List α → List (List α)
  | 0, _, _ => []
  | rounds + 1, seen, layer =>
      if layer.isEmpty then []
      else layer :: layers next rounds (layer ++ seen) (nextLayer next seen layer)

end CallSearch
