/-
# CallSearch.Proofs.MethodTree — the tree of a method against the runs of its code

The tree of a method stands for call sequences, and the typed code of the method has
runs.  The steps between the two are put together here.

* `mem_leaves_tree?_iff`: the leaves are the calls of bounded runs, and in live code
  whose loops are all flattened that is every call of a complete run;
* `language_tree?_of_forward`: where all jumps go forward, the tree stands for the
  traces of the complete runs, exactly;
* `exists_trace_of_mem_language`: in any case a sequence of the tree leaves out calls
  of a complete run, and adds none.
-/
import CallSearch.MethodTree
import CallSearch.Proofs.Code.DropJumps
import CallSearch.Proofs.Notice
import CallSearch.Proofs.Path.Tree
import CallSearch.Proofs.Region.Live
import CallSearch.Proofs.Region.Structured
import CallSearch.Proofs.Sample
import CallSearch.Proofs.Table

namespace CallSearch

set_option autoImplicit false

theorem exists_of_bind_eq_ok {ε α β : Type} {first : Except ε α} {next : α → Except ε β}
    {result : β} (h : first >>= next = .ok result) :
    ∃ value, first = .ok value ∧ next value = .ok result := by
  cases first with
  | error failure => cases h
  | ok value => exact ⟨value, rfl, h⟩

/-! ## Typing keeps labels and jumps -/

/-- An instruction without the payload of its call. -/
def Instruction.outline {γ : Type} : Instruction γ → Instruction Unit
  | .invoke _ => .invoke ()
  | .control op => .control op

namespace Code

variable {γ : Type}

theorem labels_outline (code : List (Instruction γ)) :
    labels (code.map Instruction.outline) = labels code := by
  rw [labels, List.filterMap_map]
  refine List.filterMap_congr fun instruction _ => ?_
  cases instruction with
  | invoke call => rfl
  | control op => cases op <;> rfl

theorem jumpsForward_outline (code : List (Instruction γ)) :
    JumpsForward (code.map Instruction.outline) ↔ JumpsForward code := by
  constructor
  · intro forward op rest sub target jumps
    rw [← labels_outline]
    exact forward op _ (sub.map Instruction.outline) target jumps
  · intro forward op rest sub target jumps
    obtain ⟨place, sub', same⟩ := List.suffix_map_iff.1 sub
    obtain ⟨first, rest', rfl, outline, rfl⟩ := List.map_eq_cons_iff.1 same.symm
    rw [labels_outline]
    cases first with
    | invoke call => cases outline
    | control other =>
        cases outline
        exact forward op rest' sub' target jumps

end Code

theorem outline_typedFrom {cls : Class} {method : Method} {ordinal : Nat}
    {code : List (Instruction CallSite)} {typed : TypedCode}
    (h : typedFrom cls method ordinal code = .ok typed) :
    typed.map Instruction.outline = code.map Instruction.outline := by
  induction code generalizing ordinal typed with
  | nil =>
      cases h
      rfl
  | cons instruction rest ih =>
      cases instruction with
      | invoke call =>
          rw [typedFrom] at h
          obtain ⟨call', -, h⟩ := exists_of_bind_eq_ok h
          obtain ⟨rest', found, h⟩ := exists_of_bind_eq_ok h
          cases h
          rw [List.map_cons, List.map_cons, ih found]
          rfl
      | control op =>
          rw [typedFrom] at h
          obtain ⟨rest', found, h⟩ := exists_of_bind_eq_ok h
          cases h
          rw [List.map_cons, List.map_cons, ih found]
          rfl

/-! ## From code to tree -/

namespace Method

/-- The typed code of a method has the labels of its code. -/
theorem labels_typed {cls : Class} {method : Method} {code : List (Instruction CallSite)}
    {typed : TypedCode} (hcode : method.code = some code) (h : method.typed cls = .ok typed) :
    Code.labels typed = Code.labels code := by
  rw [Method.typed, hcode] at h
  rw [← Code.labels_outline, outline_typedFrom h, Code.labels_outline]

theorem jumpsForward_typed {cls : Class} {method : Method} {code : List (Instruction CallSite)}
    {typed : TypedCode} (hcode : method.code = some code) (h : method.typed cls = .ok typed)
    (forward : Code.JumpsForward code) : Code.JumpsForward typed := by
  rw [Method.typed, hcode] at h
  rw [← Code.jumpsForward_outline, outline_typedFrom h, Code.jumpsForward_outline]
  exact forward

/-- The regions of typed code, before loops are flattened. -/
def boxes (typed : TypedCode) : List Region := Region.boxed (Region.ofCode (Code.simplify typed))

/-- How often a label is jumped to in the simplified code. -/
def jumpCount (typed : TypedCode) : String → Nat :=
  ((Code.simplify typed).flatMap Instruction.targets).count

theorem regions_eq_ok {cls : Class} {method : Method} {regions : List Region}
    (h : method.regions cls = .ok regions) :
    ∃ typed, method.typed cls = .ok typed ∧
      Region.undefinedTarget? (Code.simplify typed) = none ∧
      regions = Region.flattenLoops (jumpCount typed) (boxes typed) := by
  obtain ⟨typed, found, h⟩ := exists_of_bind_eq_ok h
  exact ⟨typed, found, Region.structured_eq_ok_iff.1 h⟩

theorem tree?_eq_some {cls : Class} {method : Method} {limit : Option Nat} {tree : Tree Invocation}
    (h : method.tree? cls limit = .ok (some tree)) :
    ∃ regions, method.regions cls = .ok regions ∧ tree = Path.tree (Region.paths regions) := by
  rw [Method.tree?] at h
  split at h
  · cases h
  · obtain ⟨regions, found, h⟩ := exists_of_bind_eq_ok h
    obtain ⟨-, -, h⟩ := exists_of_bind_eq_ok h
    cases h
    exact ⟨regions, found, rfl⟩

section Boxes

variable {typed : TypedCode} (distinct : (Code.labels typed).Nodup)

include distinct

theorem nodup_labels_boxes : (Code.labels (Region.flat (boxes typed))).Nodup := by
  rw [boxes, Region.flat_boxed]
  exact Code.nodup_labels_simplify distinct

/-- The boxed regions of a method, on their own and with their jumps counted. -/
theorem fits_boxes (defined : Region.undefinedTarget? (Code.simplify typed) = none) :
    Region.Fits (jumpCount typed) [] (boxes typed) [] where
  closed := Region.closed_boxed defined
  distinct := by simpa using nodup_labels_boxes distinct
  counted name := by
    rw [List.nil_append, List.append_nil, boxes, Region.flat_boxed]
    exact Nat.le_refl _
  apart op mem := by cases mem

/-- The boxed regions of a method have the traces of its code. -/
theorem traces_boxes (defined : Region.undefinedTarget? (Code.simplify typed) = none) :
    Region.traces (boxes typed) = Code.traces typed := by
  have closed : Region.Closed (boxes typed) := Region.closed_boxed defined
  rw [← Region.traces_flat closed (nodup_labels_boxes distinct), boxes, Region.flat_boxed,
    Code.traces_simplify distinct]

/-- The runs of the regions of a method are part of runs of its code. -/
theorem exists_trace_of_runs (defined : Region.undefinedTarget? (Code.simplify typed) = none)
    {regions : List Region} (same : regions = Region.flattenLoops (jumpCount typed) (boxes typed))
    {trace : List Invocation} {ending : Region.Ending}
    (run : Region.Runs regions regions trace ending) :
    ∃ longer ∈ Code.traces typed, trace.Sublist longer := by
  subst same
  obtain ⟨longer, part, run⟩ := Region.below_flattenLoops (jumpCount typed)
    (Region.closed_boxed defined) (nodup_labels_boxes distinct) trace ending run
  refine ⟨longer, ?_, part⟩
  rw [← traces_boxes distinct defined]
  exact ⟨ending, run⟩

/-- Where jumps go forward, the bounded runs of the regions of a method make the calls of the
runs of its code. -/
theorem exists_walks_iff (forward : Code.JumpsForward typed)
    (defined : Region.undefinedTarget? (Code.simplify typed) = none) {regions : List Region}
    (same : regions = Region.flattenLoops (jumpCount typed) (boxes typed))
    {trace : List Invocation} :
    (∃ ending, Region.Walks regions 0 [] trace ending) ↔ trace ∈ Code.traces typed := by
  subst same
  have once := nodup_labels_boxes distinct
  have free : Code.LoopFree (Region.flat (boxes typed)) := by
    rw [boxes, Region.flat_boxed]
    exact (forward.simplify distinct).loopFree (Code.nodup_labels_simplify distinct)
  have sub := Region.flat_flattenLoops_sublist (jumpCount typed) (boxes typed)
  rw [← traces_boxes distinct defined,
    ← Region.traces_flattenLoops (fits_boxes distinct defined) free]
  constructor
  · rintro ⟨ending, walk⟩
    exact ⟨ending, walk.runs⟩
  · rintro ⟨ending, run⟩
    exact ⟨ending, Region.walks_of_runs ((sub.filterMap _).nodup once) (free.sublist sub) run rfl
      (by simp)⟩

end Boxes

/-- The leaves of the tree of some regions are the calls of their bounded runs. -/
theorem mem_leaves_tree_iff {regions : List Region} {call : Invocation} :
    call ∈ (Path.tree (Region.paths regions)).leaves ↔
      ∃ trace ending, Region.Walks regions 0 [] trace ending ∧ call ∈ trace := by
  have passable := Region.allPassable_paths regions
  rw [Tree.mem_leaves_iff (Path.feasible_tree passable)]
  by_cases empty : Region.paths regions = []
  · -- Without a path the tree has no leaf, and there is no bounded run.
    rw [empty, Path.language_tree_nil]
    constructor
    · rintro ⟨_, rfl, mem⟩
      cases mem
    · rintro ⟨trace, ending, walk, -⟩
      have mem := Region.mem_languageOfAny_paths.2 ⟨ending, walk⟩
      rw [empty] at mem
      cases mem
  · rw [Path.language_tree empty passable]
    constructor
    · rintro ⟨trace, found, mem⟩
      obtain ⟨ending, walk⟩ := Region.mem_languageOfAny_paths.1 found
      exact ⟨trace, ending, walk, mem⟩
    · rintro ⟨trace, ending, walk, mem⟩
      exact ⟨trace, Region.mem_languageOfAny_paths.2 ⟨ending, walk⟩, mem⟩

/-! ## Sample methods -/

/-- A loop with its test in front. -/
def sampleLoop {γ : Type} (call : γ) : List (Instruction γ) :=
  [.control (.label "head"), .control (.condBranch "done" none), .invoke call,
    .control (.branch "head" none), .control (.label "done")]

def sampleLoopMethod : Method := sampleDefinition "m" (sampleLoop (sampleSite "f" []))

/-- A loop with its test behind, which is entered at the test. -/
def sampleRotated {γ : Type} (call : γ) : List (Instruction γ) :=
  [.control (.branch "test" none), .control (.label "body"), .invoke call,
    .control (.label "test"), .control (.condBranch "body" none), .control (.ret none)]

def sampleRotatedMethod : Method := sampleDefinition "m" (sampleRotated (sampleSite "f" []))

/-- A choice with an early end. -/
def sampleChoice {γ : Type} (first second : γ) : List (Instruction γ) :=
  [.control (.condBranch "else" none), .invoke first, .control (.ret none),
    .control (.label "else"), .invoke second]

def sampleChoiceMethod : Method :=
  sampleDefinition "m" (sampleChoice (sampleSite "f" []) (sampleSite "g" []))

/-! ## Calls -/

/-- A call is a leaf of the tree of a method exactly if a bounded run of its regions makes it,
and such a run leaves out calls of a complete run of the code.  If the code is live and no jump
back is left in the regions, every call of a complete run is a leaf. -/
theorem mem_leaves_tree?_iff {cls : Class} {method : Method} {limit : Option Nat}
    {code : List (Instruction CallSite)} {tree : Tree Invocation} {regions : List Region}
    (hcode : method.code = some code) (distinct : (Code.labels code).Nodup)
    (h : method.tree? cls limit = .ok (some tree)) (hregions : method.regions cls = .ok regions) :
    ∃ typed, method.typed cls = .ok typed ∧
      (∀ call, call ∈ tree.leaves ↔
        ∃ trace ending, Region.Walks regions 0 [] trace ending ∧ call ∈ trace) ∧
      (∀ trace ending, Region.Walks regions 0 [] trace ending →
        ∃ longer ∈ Code.traces typed, trace.Sublist longer) ∧
      (Code.Live (Code.simplify typed) → Code.LoopFree (Region.flat regions) →
        ∀ trace ∈ Code.traces typed, ∀ call ∈ trace, call ∈ tree.leaves) := by
  obtain ⟨regions', hregions', rfl⟩ := tree?_eq_some h
  cases hregions.symm.trans hregions'
  obtain ⟨typed, htyped, defined, same⟩ := regions_eq_ok hregions
  have distinct' : (Code.labels typed).Nodup := labels_typed hcode htyped ▸ distinct
  refine ⟨typed, htyped, fun call => mem_leaves_tree_iff, fun trace ending walk =>
    exists_trace_of_runs distinct' defined same walk.runs, fun live free trace found call mem => ?_⟩
  rw [← Code.traces_simplify distinct'] at found
  -- A call that is made stands in the code, and live code has a run to it once flattened.
  have inside := Code.Runs.invoke_mem found List.suffix_rfl mem
  rw [← Region.flat_boxed (Code.simplify typed)] at inside live
  subst same
  obtain ⟨trace', ⟨ending, run⟩, mem'⟩ :=
    Region.exists_runs_flattenLoops (fits_boxes distinct' defined) live inside
  have sub := Region.flat_flattenLoops_sublist (jumpCount typed) (boxes typed)
  have once := (sub.filterMap _).nodup (nodup_labels_boxes distinct')
  exact mem_leaves_tree_iff.2
    ⟨trace', ending, Region.walks_of_runs once free run rfl (by simp), mem'⟩

/-- The code of the sample loop is live: a run goes round it, or leaves it at once. -/
theorem live_sampleLoop (call : Invocation) : Code.Live (sampleLoop call) := by
  have done : .control (.label "done") :: [] <:+ sampleLoop call :=
    ⟨(sampleLoop call).dropLast, rfl⟩
  have test : Code.Reaches (sampleLoop call) (sampleLoop call) (sampleLoop call).tail :=
    .single .label
  have away : Code.Moves (sampleLoop call) (sampleLoop call).tail [.control (.label "done")] :=
    .jump (List.mem_singleton.2 rfl) done
  have round : Code.Reaches (sampleLoop call) (sampleLoop call)
      [.control (.branch "head" none), .control (.label "done")] :=
    (test.tail .fall).tail .invoke
  have back : Code.Moves (sampleLoop call)
      [.control (.branch "head" none), .control (.label "done")] (sampleLoop call) :=
    .jump (List.mem_singleton.2 rfl) List.suffix_rfl
  have leave : Code.Completes (sampleLoop call) (sampleLoop call) :=
    ⟨[], (test.tail away).tail .label, .past⟩
  intro place placed some
  rcases List.suffix_cons_iff.1 placed with rfl | placed
  · exact ⟨.refl, leave⟩
  rcases List.suffix_cons_iff.1 placed with rfl | placed
  · exact ⟨test, [], .head away (.single .label), .past⟩
  rcases List.suffix_cons_iff.1 placed with rfl | placed
  · exact ⟨test.tail .fall, leave.of_reaches (.head .invoke (.single back))⟩
  rcases List.suffix_cons_iff.1 placed with rfl | placed
  · exact ⟨round, leave.of_reaches (.single back)⟩
  rcases List.suffix_cons_iff.1 placed with rfl | placed
  · exact ⟨test.tail away, [], .single .label, .past⟩
  · exact absurd (List.suffix_nil.1 placed) some

theorem regions_sampleLoopMethod :
    sampleLoopMethod.regions (sampleClass []) = .ok [.block [sampleCallIn "m" "f" 0]] := by cbv

theorem tree?_sampleLoopMethod :
    sampleLoopMethod.tree? (sampleClass []) none =
      .ok (some (.leaf (sampleCallIn "m" "f" 0))) := by cbv

set_option maxRecDepth 1000 in
/-- In the sample loop every call is found. -/
theorem mem_leaves_tree?_sampleLoop :
    ∃ typed, sampleLoopMethod.typed (sampleClass []) = .ok typed ∧
      ∃ tree, sampleLoopMethod.tree? (sampleClass []) none = .ok (some tree) ∧
        Code.Live (Code.simplify typed) ∧
        ∀ trace ∈ Code.traces typed, ∀ call ∈ trace, call ∈ tree.leaves := by
  have typed : sampleLoopMethod.typed (sampleClass []) =
      .ok (sampleLoop (sampleCallIn "m" "f" 0)) := by cbv
  have simple : Code.simplify (sampleLoop (sampleCallIn "m" "f" 0)) =
      sampleLoop (sampleCallIn "m" "f" 0) := by cbv
  obtain ⟨_, same, -, -, complete⟩ := mem_leaves_tree?_iff rfl (by decide) tree?_sampleLoopMethod
    regions_sampleLoopMethod
  cases typed.symm.trans same
  have live : Code.Live (Code.simplify (sampleLoop (sampleCallIn "m" "f" 0))) := by
    rw [simple]
    exact live_sampleLoop _
  have free : Code.LoopFree (Region.flat [.block [sampleCallIn "m" "f" 0]]) := by
    intro name rest sub
    have mem := mem_of_suffix sub
    simp [Region.flat, Region.flatOne] at mem
  exact ⟨_, typed, _, tree?_sampleLoopMethod, live, complete live free⟩

set_option maxRecDepth 1000 in
/-- A call of a complete run can be lost: the walk through a loop that is entered at its test ends
where it comes to the test again. -/
theorem not_mem_leaves_sampleRotated :
    (Code.labels (sampleRotated (sampleSite "f" []))).Nodup ∧
      ∃ typed, sampleRotatedMethod.typed (sampleClass []) = .ok typed ∧
        ∃ tree, sampleRotatedMethod.tree? (sampleClass []) none = .ok (some tree) ∧
          ∃ trace ∈ Code.traces typed, ∃ call ∈ trace, call ∉ tree.leaves := by
  have typed : sampleRotatedMethod.typed (sampleClass []) =
      .ok (sampleRotated (sampleCallIn "m" "f" 0)) := by cbv
  have tree : sampleRotatedMethod.tree? (sampleClass []) none =
      .ok (some (.seq [])) := by cbv
  have body := List.drop_suffix 1 (sampleRotated (sampleCallIn "m" "f" 0))
  have test := List.drop_suffix 3 (sampleRotated (sampleCallIn "m" "f" 0))
  refine ⟨by decide, _, typed, _, tree, [sampleCallIn "m" "f" 0], ?_, sampleCallIn "m" "f" 0,
    by simp, by simp [Tree.leaves, Tree.leavesOfAll]⟩
  -- Over the test into the body, and over the test again to the end.
  exact .jump (List.mem_singleton.2 rfl) test (.label (.jump (List.mem_singleton.2 rfl) body
    (.label (.invoke (.label (.fall .ret))))))

/-- Where all jumps go forward, the tree of a method stands for the traces of the complete runs
of its code, and for the empty sequence if there is no complete run. -/
theorem language_tree?_of_forward {cls : Class} {method : Method} {limit : Option Nat}
    {code : List (Instruction CallSite)} {tree : Tree Invocation} (hcode : method.code = some code)
    (distinct : (Code.labels code).Nodup) (forward : Code.JumpsForward code)
    (h : method.tree? cls limit = .ok (some tree)) :
    ∃ typed, method.typed cls = .ok typed ∧
      (Code.traces typed ≠ 0 → tree.language = Code.traces typed) ∧
      (Code.traces typed = 0 → tree.language = 1) := by
  obtain ⟨regions, hregions, rfl⟩ := tree?_eq_some h
  obtain ⟨typed, htyped, defined, same⟩ := regions_eq_ok hregions
  have distinct' : (Code.labels typed).Nodup := labels_typed hcode htyped ▸ distinct
  have forward' := jumpsForward_typed hcode htyped forward
  have sequences : Path.languageOfAny (Region.paths regions) = Code.traces typed := by
    ext trace
    rw [Region.mem_languageOfAny_paths, exists_walks_iff distinct' forward' defined same]
  refine ⟨typed, htyped, fun some => ?_, fun none => ?_⟩
  · rw [← sequences]
    refine Path.language_tree (fun empty => some ?_) (Region.allPassable_paths regions)
    rw [← sequences, empty, Path.languageOfAny]
  · have empty : Region.paths regions = [] := by
      by_contra some
      have language := Path.language_tree some (Region.allPassable_paths regions)
      obtain ⟨trace, mem⟩ := (Path.feasible_tree (Region.allPassable_paths regions)).exists_mem
      rw [language, sequences, none] at mem
      exact mem
    rw [empty]
    exact Path.language_tree_nil

set_option maxRecDepth 1000 in
/-- The tree of the sample choice stands for its two runs. -/
theorem language_tree?_sampleChoice :
    Code.JumpsForward (sampleChoice (sampleSite "f" []) (sampleSite "g" [])) ∧
      ∃ typed, sampleChoiceMethod.typed (sampleClass []) = .ok typed ∧
        ∃ tree, sampleChoiceMethod.tree? (sampleClass []) none = .ok (some tree) ∧
          Code.traces typed ≠ 0 ∧ tree.language = Code.traces typed := by
  have typed : sampleChoiceMethod.typed (sampleClass []) =
      .ok (sampleChoice (sampleCallIn "m" "f" 0) (sampleCallIn "m" "g" 1)) := by cbv
  have tree : sampleChoiceMethod.tree? (sampleClass []) none =
      .ok (some (.alt [.leaf (sampleCallIn "m" "f" 0), .leaf (sampleCallIn "m" "g" 1)])) := by cbv
  have forward : Code.JumpsForward (sampleChoice (sampleSite "f" []) (sampleSite "g" [])) := by
    decide
  obtain ⟨_, same, exact', -⟩ := language_tree?_of_forward rfl (by decide) forward tree
  cases typed.symm.trans same
  have some : Code.traces (sampleChoice (sampleCallIn "m" "f" 0) (sampleCallIn "m" "g" 1)) ≠ 0 := by
    intro none
    have run : [sampleCallIn "m" "f" 0] ∈
        Code.traces (sampleChoice (sampleCallIn "m" "f" 0) (sampleCallIn "m" "g" 1)) :=
      .fall (.invoke .ret)
    rw [none] at run
    exact run
  exact ⟨forward, _, typed, _, tree, some, exact' some⟩

/-- Every call sequence of the tree of a method leaves out calls of a complete run of its code,
and adds none, if there is a path through the method at all. -/
theorem exists_trace_of_mem_language {cls : Class} {method : Method} {limit : Option Nat}
    {code : List (Instruction CallSite)} {tree : Tree Invocation} {regions : List Region}
    (hcode : method.code = some code) (distinct : (Code.labels code).Nodup)
    (h : method.tree? cls limit = .ok (some tree)) (hregions : method.regions cls = .ok regions)
    (found : Region.paths regions ≠ []) :
    ∃ typed, method.typed cls = .ok typed ∧
      ∀ sequence ∈ tree.language, ∃ trace ∈ Code.traces typed, sequence.Sublist trace := by
  obtain ⟨regions', hregions', rfl⟩ := tree?_eq_some h
  cases hregions.symm.trans hregions'
  obtain ⟨typed, htyped, defined, same⟩ := regions_eq_ok hregions
  have distinct' : (Code.labels typed).Nodup := labels_typed hcode htyped ▸ distinct
  refine ⟨typed, htyped, fun sequence mem => ?_⟩
  rw [Path.language_tree found (Region.allPassable_paths regions),
    Region.mem_languageOfAny_paths] at mem
  obtain ⟨ending, walk⟩ := mem
  exact exists_trace_of_runs distinct' defined same walk.runs

/-- The call sequences of the sample loop are part of its runs. -/
theorem exists_trace_sampleLoop :
    ∃ regions, sampleLoopMethod.regions (sampleClass []) = .ok regions ∧
      Region.paths regions ≠ [] ∧
      ∃ typed, sampleLoopMethod.typed (sampleClass []) = .ok typed ∧
        ∃ tree, sampleLoopMethod.tree? (sampleClass []) none = .ok (some tree) ∧
          ∀ sequence ∈ tree.language, ∃ trace ∈ Code.traces typed, sequence.Sublist trace := by
  have paths : Region.paths [.block [sampleCallIn "m" "f" 0]] =
      [[.block [sampleCallIn "m" "f" 0]]] := by cbv
  have found : Region.paths [.block [sampleCallIn "m" "f" 0]] ≠ [] := by
    rw [paths]
    exact List.cons_ne_nil _ _
  obtain ⟨typed, htyped, all⟩ := exists_trace_of_mem_language rfl (by decide)
    tree?_sampleLoopMethod regions_sampleLoopMethod found
  exact ⟨_, regions_sampleLoopMethod, found, typed, htyped, _, tree?_sampleLoopMethod, all⟩

end Method

/-! ## Trees of a program -/

namespace MethodTrees

theorem feasible_addMethod {config : AnalysisConfig} {trees next : MethodTrees} {cls : Class}
    {method : Method}
    (feasible : ∀ method tree, trees.get? method = some tree → tree.Feasible)
    (h : (addMethod config trees cls method).result = .ok next) :
    ∀ method tree, next.get? method = some tree → tree.Feasible := by
  rw [addMethod] at h
  split at h
  · exact Logged.result_pure.1 h ▸ feasible
  · next tree found =>
    obtain rfl := Logged.result_pure.1 h
    obtain ⟨regions, -, rfl⟩ := Method.tree?_eq_some found
    intro other tree here
    rw [Table.get?_insert_eq] at here
    split at here
    · cases here
      exact Path.feasible_tree (Region.allPassable_paths regions)
    · exact feasible other tree here
  · split at h
    · obtain ⟨-, -, h⟩ := Logged.result_bind.1 h
      exact Logged.result_pure.1 h ▸ feasible
    · cases h
  · cases h

/-- The trees of a program have no impossible parts. -/
theorem feasible_ofClasses {config : AnalysisConfig} {classes : ClassTable} {trees : MethodTrees}
    (h : (ofClasses config classes).result = .ok trees) :
    ∀ method tree, trees.get? method = some tree → tree.Feasible := by
  refine Logged.foldlM_invariant
    (fun trees : MethodTrees => ∀ method tree, trees.get? method = some tree → tree.Feasible)
    (fun cls _ trees _ feasible stepped => ?_) (by rintro _ _ ⟨⟩) h
  exact Logged.foldlM_invariant _ (fun _ _ _ _ => feasible_addMethod) feasible stepped

end MethodTrees

end CallSearch
