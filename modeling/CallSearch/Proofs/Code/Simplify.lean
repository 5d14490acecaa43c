/-
# CallSearch.Proofs.Code.Simplify — simplified code is closed and runs as before

Code may be simplified whether or not it has loops: where no label is defined twice,
a chain of replacements has one end, so it makes no difference in which order the
chains are resolved (`mergeLabelsBy_eq_mergeLabels`), and code that defines every
label it jumps to goes on doing so (`Defined.simplify`).  The label that a jump is
sent on to is kept by the first pass, and the second pass drops no label and adds no
jump.

`simplify_exact` puts this together with the traces.
-/
import CallSearch.Proofs.Code.DropJumps
import CallSearch.Proofs.Sample

namespace CallSearch.Code

set_option autoImplicit false

/-- Every label that is jumped to is defined. -/
def Defined (code : TypedCode) : Prop :=
  ∀ instruction ∈ code, ∀ target ∈ instruction.targets, target ∈ labels code

instance (code : TypedCode) : Decidable (Defined code) :=
  inferInstanceAs (Decidable (∀ instruction ∈ code, ∀ target ∈ instruction.targets,
    target ∈ labels code))

/-! ## The order of the replaced labels -/

/-- The replacements may be followed in any order that leaves out no replaced label. -/
theorem mergeLabelsBy_eq_mergeLabels {code : TypedCode} (distinct : (labels code).Nodup)
    {arrange : List String → List String} (all : ∀ names, names ⊆ arrange names) :
    mergeLabelsBy arrange code = mergeLabels code := by
  rw [mergeLabelsBy_eq, mergeLabels_eq, merged]
  have same : (fun label => ((resolveChains (arrange (Table.ofList (standIns code code)).keys)
      (Table.ofList (standIns code code))).get? label).getD label) = standInOf code := by
    funext label
    obtain ⟨path, final⟩ := resolveChains_spec (stands_further distinct)
      (resolving_standIns distinct) (fun _ mem => all _ mem) label
    obtain ⟨path', final'⟩ := standInOf_spec distinct label
    exact eq_of_chain_ends (stands_rightUnique distinct) path final path' final'
  simp only [same]

/-! ## Labels stay defined -/

theorem targets_redirectJumps (replace : String → String) (instruction : Instruction Invocation) :
    (redirectJumps replace instruction).targets = instruction.targets.map replace := by
  cases instruction with
  | invoke call => rfl
  | control op => exact targets_redirect replace op

theorem Defined.mergeLabels {code : TypedCode} (distinct : (labels code).Nodup)
    (defined : Defined code) : Defined (mergeLabels code) := by
  rw [mergeLabels_eq]
  intro instruction mem target jumps
  obtain ⟨source, kept, rfl⟩ := List.mem_map.1 mem
  rw [targets_redirectJumps] at jumps
  obtain ⟨label, listed, rfl⟩ := List.mem_map.1 jumps
  have old : label ∈ labels code :=
    defined source ((keptFrom_sublist code code).subset kept) label listed
  exact standInOf_mem_labels distinct List.suffix_rfl old

/-- Replacing a piece of code by one with no other jumps. -/
theorem Pruned.defined {code other : TypedCode} (h : Pruned code other) (defined : Defined code) :
    Defined other := by
  intro instruction mem target jumps
  rw [h.labels_eq]
  suffices old : ∃ source ∈ code, target ∈ source.targets by
    obtain ⟨source, mem, jumps⟩ := old
    exact defined source mem target jumps
  obtain ⟨before, piece, other, after, -, -, -, fewer⟩ := h
  rw [List.mem_append, List.mem_append] at mem
  rcases mem with mem | mem | mem
  · exact ⟨instruction, List.mem_append_left _ mem, jumps⟩
  · have listed : target ∈ piece.flatMap Instruction.targets :=
      fewer (List.mem_flatMap.2 ⟨instruction, mem, jumps⟩)
    obtain ⟨source, mem, jumps⟩ := List.mem_flatMap.1 listed
    exact ⟨source, List.mem_append_right _ (List.mem_append_left _ mem), jumps⟩
  · exact ⟨instruction, List.mem_append_right _ (List.mem_append_right _ mem), jumps⟩

theorem Defined.dropJumps {code : TypedCode} (defined : Defined code) : Defined (dropJumps code) :=
  dropJumps_induction code (fun _ _ pruned h => pruned.defined h) defined

theorem Defined.simplify {code : TypedCode} (distinct : (labels code).Nodup)
    (defined : Defined code) : Defined (simplify code) :=
  (defined.mergeLabels distinct).dropJumps

/-! ## Simplified code -/

/-- Simplified code defines every label it jumps to and has the traces it had, loops or no loops.
It is the same code in whatever order the replaced labels are gone through. -/
theorem simplify_exact {code : TypedCode} (distinct : (labels code).Nodup)
    (defined : Defined code) :
    Defined (simplify code) ∧ traces (simplify code) = traces code ∧
      ∀ arrange : List String → List String, (∀ names, (arrange names).Perm names) →
        dropJumps (mergeLabelsBy arrange code) = simplify code := by
  refine ⟨defined.simplify distinct, traces_simplify distinct, fun arrange perm => ?_⟩
  rw [simplify, mergeLabelsBy_eq_mergeLabels distinct fun names => (perm names).symm.subset]

/-- A loop around a multiple jump, with a chain of two labels in front of a jump forward. -/
def sampleJumps : TypedCode :=
  [.control (.label "top"), .invoke (sampleCall "a"),
    .control (.multiBranch ["back", "mid", "back"] none),
    .control (.label "mid"), .control (.label "next"), .control (.branch "out" none),
    .control (.label "back"), .invoke (sampleCall "b"), .control (.condBranch "top" none),
    .control (.condBranch "top" none), .control (.branch "out" none),
    .control (.label "out"), .control (.ret none)]

/-- The run that goes round the loop once. -/
theorem mem_traces_sampleJumps :
    [sampleCall "a", sampleCall "b", sampleCall "a"] ∈ traces sampleJumps := by
  have fromOut : Runs sampleJumps (sampleJumps.drop 11) [] := .label .ret
  have fromMid : Runs sampleJumps (sampleJumps.drop 3) [] :=
    .label (.label (.jump List.mem_cons_self (List.drop_suffix 11 sampleJumps) fromOut))
  have again : Runs sampleJumps sampleJumps [sampleCall "a"] :=
    .label (.invoke (.jump (List.mem_cons_of_mem _ List.mem_cons_self)
      (List.drop_suffix 3 sampleJumps) fromMid))
  have fromBack : Runs sampleJumps (sampleJumps.drop 6) [sampleCall "b", sampleCall "a"] :=
    .label (.invoke (.jump List.mem_cons_self List.suffix_rfl again))
  exact .label (.invoke (.jump List.mem_cons_self (List.drop_suffix 6 sampleJumps) fromBack))

/-- Both labels of the chain go, and the run round the loop stays. -/
theorem simplify_exact_sampleJumps :
    simplify sampleJumps =
      [.control (.label "top"), .invoke (sampleCall "a"),
        .control (.multiBranch ["back", "out"] none), .control (.branch "out" none),
        .control (.label "back"), .invoke (sampleCall "b"), .control (.condBranch "top" none),
        .control (.label "out"), .control (.ret none)] ∧
    Defined (simplify sampleJumps) ∧
    [sampleCall "a", sampleCall "b", sampleCall "a"] ∈ traces (simplify sampleJumps) ∧
    dropJumps (mergeLabelsBy List.reverse sampleJumps) = simplify sampleJumps := by
  obtain ⟨defined, same, order⟩ :=
    @simplify_exact sampleJumps (by decide) (by decide)
  refine ⟨by decide, defined, ?_, order List.reverse List.reverse_perm⟩
  rw [same]
  exact mem_traces_sampleJumps

end CallSearch.Code
