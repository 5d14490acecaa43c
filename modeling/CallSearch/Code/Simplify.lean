/-
# CallSearch.Code.Simplify — merging labels and dropping jumps

Two passes shorten code without changing what its runs call.

* `mergeLabels` drops a label in front of another label, and a label in front of a
  jump to a label that is defined later, and sends the jumps to it on to the other
  label.  Replacements may chain; `resolveChains` takes every chain to its end.
* `dropJumps` drops a conditional jump that repeats one of the conditional jumps
  right before it, a jump right after a jump, a jump to the label that follows it,
  and repeated targets of a multiple jump.

Both passes look at the instruction kept last, so what they have kept is held with
the newest instruction first.
-/
import CallSearch.Typing

namespace CallSearch

set_option autoImplicit false

namespace Code

/-- Whether an instruction defines a label. -/
def defines (name : String) (instruction : Instruction Invocation) : Bool :=
  instruction.label? == some name

/-- Where a label is first defined. -/
def firstLabel? (code : TypedCode) (name : String) : Option Nat := code.findIdx? (defines name)

/-- Whether both labels are defined, the first before the second. -/
def precedes (code : TypedCode) (a b : String) : Bool :=
  match firstLabel? code a, firstLabel? code b with
  | some i, some j => i < j
  | _, _ => false

/-- Code with some labels dropped, newest instruction first, and the label that stands in for
each of them. -/
structure Merge where
  kept : TypedCode
  replaced : Table String String

/-- Keep one more instruction of `code`, dropping the label before it when the instruction
makes that label another name for a label. -/
def mergeStep (code : TypedCode) (merge : Merge) (instruction : Instruction Invocation) : Merge :=
  match merge.kept, instruction with
  | .control (.label source) :: before, .control (.label target) =>
      ⟨instruction :: before, merge.replaced.insert source target⟩
  | .control (.label source) :: before, .control (.branch target _) =>
      if precedes code source target then
        ⟨instruction :: before, merge.replaced.insert source target⟩
      else ⟨instruction :: merge.kept, merge.replaced⟩
  | _, _ => ⟨instruction :: merge.kept, merge.replaced⟩

/-- Follow replacements from a label until there is none, or a label comes up again. -/
def followChain (replaced : Table String String) : Nat → List String → String → String
  | 0, _, label => label
  | steps + 1, seen, label =>
      match replaced.get? label with
      | none => label
      | some next =>
          if seen.contains label then label
          else followChain replaced steps (label :: seen) next

/-- Replace the replacement of one label by the end of its chain. -/
def resolveChain (replaced : Table String String) (source : String) : Table String String :=
  match replaced.get? source with
  | none => replaced
  | some target =>
      replaced.insert source (followChain replaced (replaced.size + 1) [source] target)

/-- Resolve the chains of some labels one after another.  When no label is defined twice the
chains have ends, and the order makes no difference. -/
def resolveChains (sources : List String) (replaced : Table String String) :
    Table String String :=
  sources.foldl resolveChain replaced

/-- Send the jumps of a control instruction to other labels. -/
def redirect (replace : String → String) : Control → Control
  | .condBranch target line => .condBranch (replace target) line
  | .branch target line => .branch (replace target) line
  | .multiBranch targets line => .multiBranch (targets.map replace) line
  | op => op

/-- Send the jumps of an instruction to other labels. -/
def redirectJumps (replace : String → String) : Instruction Invocation → Instruction Invocation
  | .invoke call => .invoke call
  | .control op => .control (redirect replace op)

/-- Merge labels, resolving the chains of replacements in the order `arrange` gives to the
replaced labels. -/
def mergeLabelsBy (arrange : List String → List String) (code : TypedCode) : TypedCode :=
  let merge := code.foldl (mergeStep code) ⟨[], ∅⟩
  let replaced := resolveChains (arrange merge.replaced.keys) merge.replaced
  merge.kept.reverse.map (redirectJumps fun label => (replaced.get? label).getD label)

/-- Merge labels, resolving the chains of replacements in the order of the labels. -/
def mergeLabels (code : TypedCode) : TypedCode := mergeLabelsBy id code

/-- The targets of the conditional jumps kept last. -/
def lastCondTargets : TypedCode → List String
  | .control (.condBranch target _) :: before => target :: lastCondTargets before
  | _ => []

/-- Whether the instruction kept last jumps to a label, and nowhere else. -/
def endsWithJumpTo (name : String) : TypedCode → Bool
  | .control (.condBranch target _) :: _ => target == name
  | .control (.branch target _) :: _ => target == name
  | _ => false

/-- Whether the instruction kept last is an unconditional jump. -/
def endsWithBranch : TypedCode → Bool
  | .control (.branch _ _) :: _ => true
  | _ => false

/-- Keep one more instruction, newest first, unless it is a jump that adds nothing. -/
def dropStep (kept : TypedCode) (instruction : Instruction Invocation) : TypedCode :=
  match instruction with
  | .control (.condBranch target _) =>
      if (lastCondTargets kept).contains target then kept else instruction :: kept
  | .control (.branch _ _) => if endsWithBranch kept then kept else instruction :: kept
  | .control (.label name) =>
      if endsWithJumpTo name kept then instruction :: kept.tail else instruction :: kept
  | .control (.multiBranch targets line) =>
      .control (.multiBranch targets.eraseDups line) :: kept
  | _ => instruction :: kept

/-- Drop jumps that add nothing. -/
def dropJumps (code : TypedCode) : TypedCode := (code.foldl dropStep []).reverse

/-- Merge labels, then drop jumps. -/
def simplify (code : TypedCode) : TypedCode := dropJumps (mergeLabels code)

end Code

end CallSearch
