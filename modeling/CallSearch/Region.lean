/-
# CallSearch.Region — code as nested regions

Code is grouped into regions: a `block` of calls in a row, a control instruction,
or a `box` of regions that no jump enters or leaves.  Calls stand in blocks only.

`Region.boxed` finds the boxes: an interval of regions becomes a box when it is the
smallest one from its start that contains both ends of every jump with one end in
it.  Boxes are searched again inside boxes, with the labels of that level only.
-/
import CallSearch.Typing

namespace CallSearch

set_option autoImplicit false

/-- A part of a method body. -/
inductive Region where
  /-- Calls in a row. -/
  | block (calls : List Invocation)
  /-- Regions with one way in and one way out. -/
  | box (inner : List Region)
  /-- A control instruction. -/
  | control (op : Control)

namespace Region

instance : Inhabited Region := ⟨.block []⟩

/-- The labels a region jumps to by itself. -/
def targets : Region → List String
  | .control op => op.targets
  | _ => []

/-- Whether a region is the definition of a label. -/
def isLabel (name : String) : Region → Bool
  | .control (.label other) => other == name
  | _ => false

/-- Group calls in a row into blocks. -/
def ofCode : TypedCode → List Region
  | [] => []
  | .invoke call :: rest =>
      match ofCode rest with
      | .block calls :: regions => .block (call :: calls) :: regions
      | regions => .block [call] :: regions
  | .control op :: rest => .control op :: ofCode rest

/-- A single region stands for itself, several make a box. -/
def collapse : List Region → Region
  | [region] => region
  | regions => .box regions

/-! ## Boxes -/

/-- Where a label is defined on a level; of several places the last. -/
def labelIndex? (name : String) : List Region → Option Nat
  | [] => none
  | region :: rest =>
      match labelIndex? name rest with
      | some index => some (index + 1)
      | none => if region.isLabel name then some 0 else none

/-- The positions a region of a level jumps to. -/
def jumps (regions : List Region) (region : Region) : List Nat :=
  region.targets.filterMap (labelIndex? · regions)

/-- For each position of a level the positions at the other end of its jumps, in either
direction. -/
def links (regions : List Region) : List (List Nat) :=
  let forward := regions.map (jumps regions)
  forward.zipIdx.map fun (jumps, index) =>
    jumps ++ (forward.zipIdx.filter fun entry => entry.1.contains index).map (·.2)

/-- Let the interval from `start` to before `stop` take in its last position and grow until
no jump leaves it to the right.  `reach` is the last position linked so far.  There is
none if a jump leaves it to the left, and the whole level does not count. -/
def growSpan (links : List (List Nat)) (start : Nat) : Nat → Nat → Nat → Option Nat
  | 0, _, _ => none
  | steps + 1, reach, stop =>
      let ends := links.getD (stop - 1) []
      if ends.any (· < start) then none
      else
        let reach := ends.foldl max reach
        if reach < stop && (start, stop) != (0, links.length) then some stop
        else growSpan links start steps reach (stop + 1)

/-- The end of the smallest closed interval from `start`, or of the single position. -/
def spanEnd (links : List (List Nat)) (start : Nat) : Nat :=
  (growSpan links start (links.length - start) start (start + 1)).getD (start + 1)

/-- The sizes of the intervals a level is cut into, from a position on. -/
def spanSizes (links : List (List Nat)) : Nat → Nat → List Nat
  | 0, _ => []
  | steps + 1, start =>
      if start < links.length then
        let stop := spanEnd links start
        (stop - start) :: spanSizes links steps stop
      else []

/-- Cut a list into pieces of given sizes. -/
def cutSizes {α : Type} : List Nat → List α → List (List α)
  | [], _ => []
  | size :: sizes, items => items.take size :: cutSizes sizes (items.drop size)

/-- The closed intervals of a level. -/
def spans (regions : List Region) : List (List Region) :=
  cutSizes (spanSizes (links regions) regions.length 0) regions

/-- Make boxes, at most `depth` levels deep. -/
def boxedTo : Nat → List Region → List Region
  | 0, regions => regions
  | depth + 1, regions =>
      (spans regions).map fun
        | [region] => region
        | span => collapse (boxedTo depth span)

/-- Make boxes on every level.  A box is smaller than its level, so the number of regions
bounds the depth. -/
def boxed (regions : List Region) : List Region := boxedTo regions.length regions

/-! ## Loops -/

/-- Whether a region can be the body of a loop. -/
def isBody : Region → Bool
  | .block _ => true
  | .box _ => true
  | .control _ => false

/-- Whether four regions are the frame of a loop: a label, a conditional jump behind the loop,
a jump back to the label, and the label behind the loop, with no other jump to either
label. -/
def isLoopFrame (jumpCount : String → Nat) : Region → Region → Region → Region → Bool
  | .control (.label head), .control (.condBranch exit _), .control (.branch back _),
      .control (.label tail) =>
      head == back && exit == tail && jumpCount head == 1 && jumpCount tail == 1
  | _, _, _, _ => false

/-- Put blocks in a row together. -/
def mergeBlocks : List Region → List Region
  | [] => []
  | .block calls :: rest =>
      match mergeBlocks rest with
      | .block more :: regions => .block (calls ++ more) :: regions
      | regions => .block calls :: regions
  | region :: rest => region :: mergeBlocks rest

/-- A loop at the head of a level: what one pass through it leaves, and the regions behind
it. -/
def loop? (jumpCount : String → Nat) : List Region → Option (List Region × List Region)
  | a :: b :: c :: d :: rest =>
      if isLoopFrame jumpCount a b c d then some ([], rest)
      else
        match rest with
        | [] => none
        | e :: rest =>
            if isBody c && isLoopFrame jumpCount a b d e then some ([c], rest)
            else if isBody b && isLoopFrame jumpCount a c d e then some ([b], rest)
            else
              match rest with
              | [] => none
              | f :: rest =>
                  if isBody b && isBody d && isLoopFrame jumpCount a c e f then
                    some ([collapse (mergeBlocks [b, d])], rest)
                  else none
  | _ => none

/-- Replace the loops of a level, from left to right, by one pass through them. -/
def passLoops (jumpCount : String → Nat) : Nat → List Region → List Region
  | 0, regions => regions
  | _ + 1, [] => []
  | steps + 1, region :: rest =>
      match loop? jumpCount (region :: rest) with
      | some (body, rest) => body ++ passLoops jumpCount steps rest
      | none => region :: passLoops jumpCount steps rest

/-- Replace loops until there is none left; each replacement makes the level shorter. -/
def settleLoops (jumpCount : String → Nat) : Nat → List Region → List Region
  | 0, regions => regions
  | rounds + 1, regions =>
      settleLoops jumpCount rounds (passLoops jumpCount regions.length regions)

/-- One level without loops and without blocks in a row. -/
def flattenLevel (jumpCount : String → Nat) (regions : List Region) : List Region :=
  mergeBlocks (settleLoops jumpCount regions.length regions)

mutual

/-- A region with the loops inside it flattened. -/
def flattenInside (jumpCount : String → Nat) : Region → Region
  | .box inner => collapse (flattenLevel jumpCount (flattenAll jumpCount inner))
  | region => region

/-- Regions with the loops inside them flattened. -/
def flattenAll (jumpCount : String → Nat) : List Region → List Region
  | [] => []
  | region :: rest => flattenInside jumpCount region :: flattenAll jumpCount rest

end

/-- Replace every loop that only its own jumps enter or leave by one pass through its body,
from the innermost level out. -/
def flattenLoops (jumpCount : String → Nat) (regions : List Region) : List Region :=
  flattenLevel jumpCount (flattenAll jumpCount regions)

/-! ## Structure of a method -/

/-- The first jump target of some code that is no label of it. -/
def undefinedTarget? (code : TypedCode) : Option String :=
  (code.flatMap Instruction.targets).find? fun target =>
    !(code.any fun instruction => instruction.label? == some target)

/-- The regions of the code of a method. -/
def structured (method : Signature) (code : TypedCode) : Except Failure (List Region) :=
  match undefinedTarget? code with
  | some label => .error (.undefinedLabel method label)
  | none =>
      let targets := code.flatMap Instruction.targets
      .ok (flattenLoops targets.count (boxed (ofCode code)))

/-- The ways out of a control instruction other than the next instruction. -/
def waysOut : Control → Nat
  | .ret _ => 1
  | .throw _ => 1
  | .condBranch _ _ => 1
  | .multiBranch targets _ => targets.length
  | _ => 0

/-- The ways out of the control instructions directly on a level. -/
def ownBranches : List Region → Nat
  | [] => 0
  | .control op :: rest => waysOut op + ownBranches rest
  | _ :: rest => ownBranches rest

mutual

/-- The largest number of ways out on any one level inside a region. -/
def branchesInside : Region → Nat
  | .box inner => max (ownBranches inner) (maxBranchesInside inner)
  | _ => 0

/-- The largest number of ways out on any one level inside some regions. -/
def maxBranchesInside : List Region → Nat
  | [] => 0
  | region :: rest => max (branchesInside region) (maxBranchesInside rest)

end

/-- The largest number of ways out of any one level. -/
def branchCount (regions : List Region) : Nat :=
  max (ownBranches regions) (maxBranchesInside regions)

end Region

end CallSearch
