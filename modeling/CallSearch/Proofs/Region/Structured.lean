/-
# CallSearch.Proofs.Region.Structured — the regions of code, level by level

Boxing and flattening start from the code of a method and keep two facts about all of
the regions: every jump has its label on its own level, and the calls in the blocks,
read from left to right, are those of the code.  Neither needs distinct labels.

* `exists_structured_iff`: code has regions if it defines every label it jumps to;
* `structured_levels`: what holds on every level of the regions.
-/
import CallSearch.Proofs.Code.Simplify
import CallSearch.Proofs.Path.Walk

namespace CallSearch.Region

set_option autoImplicit false

/-! ## Levels and blocks -/

/-- A level of some regions: the whole, or what is in a box of a level. -/
inductive IsLevel (regions : List Region) : List Region → Prop
  | whole : IsLevel regions regions
  | inner {level inner : List Region} : IsLevel regions level → .box inner ∈ level →
      IsLevel regions inner

theorem IsLevel.closed {regions level : List Region} (isLevel : IsLevel regions level)
    (closed : Closed regions) : Closed level := by
  induction isLevel with
  | whole => exact closed
  | inner _ mem ih => exact ih.inner mem

theorem IsLevel.flat_sublist {regions level : List Region} (isLevel : IsLevel regions level) :
    (flat level).Sublist (flat regions) := by
  induction isLevel with
  | whole => exact .refl _
  | inner _ mem ih => exact (flat_inner_sublist mem).trans ih

mutual

/-- The calls in the blocks of a region, from left to right. -/
def callsInside : Region → List Invocation
  | .block calls => calls
  | .box inner => blockCalls inner
  | .control _ => []

/-- The calls in the blocks of some regions, from left to right. -/
def blockCalls : List Region → List Invocation
  | [] => []
  | region :: rest => callsInside region ++ blockCalls rest

end

mutual

theorem callsInside_eq : ∀ region : Region,
    callsInside region = TypedCode.calls (flatOne region)
  | .block calls => by rw [callsInside, flatOne, TypedCode.calls_invokes]
  | .box inner => by rw [callsInside, flatOne, blockCalls_eq inner]
  | .control _ => rfl

theorem blockCalls_eq : ∀ level : List Region, blockCalls level = TypedCode.calls (flat level)
  | [] => rfl
  | region :: rest => by
      rw [blockCalls, flat, TypedCode.calls_append, callsInside_eq region, blockCalls_eq rest]

end

/-! ## Structure of code -/

variable {method : Signature} {code : TypedCode} {regions : List Region}

theorem structured_eq_ok_iff : structured method code = .ok regions ↔
    undefinedTarget? code = none ∧
      regions = flattenLoops (code.flatMap Instruction.targets).count (boxed (ofCode code)) := by
  rw [structured]
  split
  · next label missing => simp [missing]
  · next defined => simp [defined, eq_comm]

/-- Code can be structured if it defines every label it jumps to. -/
theorem exists_structured_iff :
    (∃ regions, structured method code = .ok regions) ↔ Code.Defined code := by
  simp only [structured_eq_ok_iff, undefinedTarget?_eq_none, exists_and_left, exists_eq, and_true]
  rfl

theorem closed_structured (h : structured method code = .ok regions) : Closed regions := by
  obtain ⟨defined, rfl⟩ := structured_eq_ok_iff.1 h
  refine closed_flattenLoops _ (fun name => ?_) (closed_boxed defined)
  rw [flat_boxed]

theorem flat_structured_sublist (h : structured method code = .ok regions) :
    (flat regions).Sublist code := by
  obtain ⟨-, rfl⟩ := structured_eq_ok_iff.1 h
  have sub := flat_flattenLoops_sublist (code.flatMap Instruction.targets).count
    (boxed (ofCode code))
  rwa [flat_boxed] at sub

/-- A jump on a level finds its label there. -/
theorem isSome_labelIndex?_of_isLevel (h : structured method code = .ok regions)
    {level : List Region} (isLevel : IsLevel regions level) {op : Control}
    (mem : .control op ∈ level) {target : String} (jumps : target ∈ op.targets) :
    .control (.label target) ∈ level ∧
      (Walk.labelIndex? target (stages level)).isSome = true := by
  have label := (isLevel.closed (closed_structured h)).label_mem mem jumps
  obtain ⟨index, found⟩ := exists_labelIndex? label
  rw [labelIndex?_stages, found]
  exact ⟨label, rfl⟩

/-- The blocks of the regions of some code hold its calls in order. -/
theorem blockCalls_structured (h : structured method code = .ok regions) :
    blockCalls regions = TypedCode.calls code := by
  obtain ⟨-, rfl⟩ := structured_eq_ok_iff.1 h
  rw [blockCalls_eq, calls_flattenLoops, flat_boxed]

/-- Code that defines every label it jumps to has regions.  On every level of these the control
instructions are some of the code, and every label they jump to is defined on the same level, so
that a path finds it there.  The blocks hold the calls of the code, all of them and in order. -/
theorem structured_levels (method : Signature) (code : TypedCode) :
    ((∃ regions, structured method code = .ok regions) ↔ Code.Defined code) ∧
    ∀ regions, structured method code = .ok regions →
      (∀ level, IsLevel regions level → ∀ op, .control op ∈ level → .control op ∈ code ∧
        ∀ target ∈ op.targets, .control (.label target) ∈ level ∧
          (Walk.labelIndex? target (stages level)).isSome = true) ∧
      blockCalls regions = TypedCode.calls code := by
  refine ⟨exists_structured_iff, fun regions h => ⟨fun level isLevel op mem => ?_,
    blockCalls_structured h⟩⟩
  have inCode : .control op ∈ flat level := mem_flat.2 ⟨_, mem, List.mem_singleton.2 rfl⟩
  refine ⟨(isLevel.flat_sublist.trans (flat_structured_sublist h)).subset inCode, ?_⟩
  exact fun target jumps => isSome_labelIndex?_of_isLevel h isLevel mem jumps

/-- A loop and a choice whose branches end at two labels of one name. -/
def sampleTwoEnds : TypedCode :=
  [.control (.label "top"), .control (.condBranch "out" none), .invoke (sampleCall "a"),
    .control (.branch "top" none), .control (.label "out"),
    .control (.condBranch "else" none), .invoke (sampleCall "b"),
    .control (.branch "end" none), .control (.label "else"), .invoke (sampleCall "c"),
    .control (.label "end"), .invoke (sampleCall "d"), .control (.label "end"),
    .control (.ret none)]

/-- The regions of the choice. -/
def sampleBox : List Region :=
  [.control (.condBranch "else" none), .block [sampleCall "b"],
    .control (.branch "end" none), .control (.label "else"), .block [sampleCall "c"],
    .control (.label "end"), .block [sampleCall "d"], .control (.label "end")]

/-- The loop leaves a block, and the jump to the end leads to the last label in its box. -/
theorem structured_levels_sampleTwoEnds : ∃ regions,
    structured (sampleMethod "m") sampleTwoEnds = .ok regions ∧
    .box sampleBox ∈ regions ∧ .control (.branch "end" none) ∈ sampleBox ∧
    .control (.label "end") ∈ sampleBox ∧
    Walk.labelIndex? "end" (stages sampleBox) = some 7 ∧
    blockCalls regions = ["a", "b", "c", "d"].map sampleCall := by
  have found : structured (sampleMethod "m") sampleTwoEnds =
      .ok [.block [sampleCall "a"], .box sampleBox, .control (.ret none)] := by cbv
  have box : Region.box sampleBox ∈
      [.block [sampleCall "a"], .box sampleBox, .control (.ret none)] :=
    List.mem_cons_of_mem _ List.mem_cons_self
  have jump : Region.control (.branch "end" none) ∈ sampleBox := by simp [sampleBox]
  obtain ⟨-, holds⟩ := structured_levels (sampleMethod "m") sampleTwoEnds
  obtain ⟨levels, calls⟩ := holds _ found
  obtain ⟨-, labels⟩ := levels sampleBox (.inner .whole box) _ jump
  refine ⟨_, found, box, jump, (labels "end" List.mem_cons_self).1, ?_, calls⟩
  rw [labelIndex?_stages]
  rfl

end CallSearch.Region
