/-
# CallSearch.Proofs.Code.DropJumps — dropping jumps keeps the traces

Each step of the pass replaces a piece of code without labels by another such piece.
A piece is entered at its start only, so it is enough to compare the two pieces as
far as their first jump: `Follows` says what code does up to there, for any meaning
of the jumps.  `Pruned` is the relation between code before and after such a
replacement.

* `Pruned.traces_eq`: the replacement keeps the traces;
* `pruned_dropStep`: each step of the pass is such a replacement;
* `traces_simplify`: simplifying keeps the traces.
-/
import CallSearch.Proofs.Code.MergeLabels

namespace CallSearch.Code

set_option autoImplicit false

/-! ## Runs up to the first jump -/

/-- The traces from a label on. -/
def RunsFrom (code : TypedCode) (name : String) (trace : List Invocation) : Prop :=
  ∃ after, .control (.label name) :: after <:+ code ∧
    Runs code (.control (.label name) :: after) trace

/-- What code does up to its first jump, where `jump` says what may come after a jump to a
label. -/
def Follows (jump : String → List Invocation → Prop) : TypedCode → List Invocation → Prop
  | [], trace => trace = []
  | .invoke call :: rest, trace => ∃ more, trace = call :: more ∧ Follows jump rest more
  | .control (.ret _) :: _, trace => trace = []
  | .control (.throw _) :: _, trace => trace = []
  | .control (.label _) :: rest, trace => Follows jump rest trace
  | .control (.condBranch target _) :: rest, trace => jump target trace ∨ Follows jump rest trace
  | .control (.branch target _) :: _, trace => jump target trace
  | .control (.multiBranch targets _) :: _, trace => ∃ target ∈ targets, jump target trace

theorem Follows.jump {jump : String → List Invocation → Prop} {op : Control} {target : String}
    {rest : TypedCode} {trace : List Invocation} (mem : target ∈ op.targets)
    (h : jump target trace) : Follows jump (.control op :: rest) trace := by
  cases op with
  | ret | throw | label => exact absurd mem List.not_mem_nil
  | condBranch other =>
      rw [Control.targets, List.mem_singleton] at mem
      exact Or.inl (mem ▸ h)
  | branch other =>
      rw [Control.targets, List.mem_singleton] at mem
      exact mem ▸ h
  | multiBranch targets => exact ⟨target, mem, h⟩

theorem runs_of_runsFrom {code rest : TypedCode} {op : Control} {target : String}
    {trace : List Invocation} (mem : target ∈ op.targets) (h : RunsFrom code target trace) :
    Runs code (.control op :: rest) trace := by
  obtain ⟨after, found, run⟩ := h
  exact .jump mem found run

theorem runs_of_follows {code rest : TypedCode} {trace : List Invocation}
    (h : Follows (RunsFrom code) rest trace) : Runs code rest trace := by
  induction rest generalizing trace with
  | nil =>
      obtain rfl : trace = [] := h
      exact .past
  | cons first rest ih =>
      match first with
      | .invoke call =>
          obtain ⟨more, rfl, h⟩ := h
          exact .invoke (ih h)
      | .control (.ret line) => exact runs_ret_iff.2 h
      | .control (.throw line) => exact runs_throw_iff.2 h
      | .control (.label name) => exact .label (ih h)
      | .control (.condBranch target line) =>
          rcases h with h | h
          · exact runs_of_runsFrom List.mem_cons_self h
          · exact .fall (ih h)
      | .control (.branch target line) => exact runs_of_runsFrom List.mem_cons_self h
      | .control (.multiBranch targets line) =>
          obtain ⟨target, mem, h⟩ := h
          exact runs_of_runsFrom mem h

/-- Where every label of `code` leads to less than it does in `other`, so does every place. -/
theorem follows_of_runs {code other : TypedCode}
    (labels : ∀ name after, .control (.label name) :: after <:+ code →
      ∃ after', .control (.label name) :: after' <:+ other ∧
        ∀ trace, Follows (RunsFrom other) after trace → Follows (RunsFrom other) after' trace)
    {rest : TypedCode} {trace : List Invocation} (run : Runs code rest trace) :
    Follows (RunsFrom other) rest trace := by
  induction run with
  | past => rfl
  | ret => rfl
  | throw => rfl
  | invoke _ ih => exact ⟨_, rfl, ih⟩
  | label _ ih => exact ih
  | fall _ ih => exact Or.inr ih
  | jump mem found _ ih =>
      obtain ⟨after, found', less⟩ := labels _ _ found
      exact .jump mem ⟨after, found', .label (runs_of_follows (less _ ih))⟩

theorem follows_iff_runs {code rest : TypedCode} {trace : List Invocation} :
    Follows (RunsFrom code) rest trace ↔ Runs code rest trace :=
  ⟨runs_of_follows, follows_of_runs fun _ after found => ⟨after, found, fun _ h => h⟩⟩

/-- What comes after two ends of code comes after the same code in front of them. -/
theorem follows_append {jump : String → List Invocation → Prop} (front : TypedCode)
    {first second : TypedCode}
    (less : ∀ trace, Follows jump first trace → Follows jump second trace)
    (trace : List Invocation) (h : Follows jump (front ++ first) trace) :
    Follows jump (front ++ second) trace := by
  induction front generalizing trace with
  | nil => exact less trace h
  | cons instruction front ih =>
      match instruction with
      | .invoke call =>
          obtain ⟨more, rfl, h⟩ := h
          exact ⟨more, rfl, ih more h⟩
      | .control (.ret line) => exact h
      | .control (.throw line) => exact h
      | .control (.label name) => exact ih trace h
      | .control (.condBranch target line) =>
          rcases h with h | h
          · exact Or.inl h
          · exact Or.inr (ih trace h)
      | .control (.branch target line) => exact h
      | .control (.multiBranch targets line) => exact h

/-! ## Replacing a piece of code -/

/-- A place that starts with a label, around a piece of code without labels. -/
theorem label_suffix_around {before piece after rest : TypedCode} {name : String}
    (unlabelled : labels piece = [])
    (h : .control (.label name) :: rest <:+ before ++ (piece ++ after)) :
    .control (.label name) :: rest <:+ after ∨
      ∃ front, .control (.label name) :: front <:+ before ∧ rest = front ++ (piece ++ after) := by
  rcases suffix_append_iff.1 h with h | ⟨front, some, sub, same⟩
  · rcases suffix_append_iff.1 h with h | ⟨inner, some, sub, same⟩
    · exact Or.inl h
    · obtain ⟨first, inner, rfl⟩ := List.exists_cons_of_ne_nil some
      cases same
      have : name ∈ labels piece := mem_labels.2 (mem_of_suffix sub)
      rw [unlabelled] at this
      cases this
  · obtain ⟨first, front, rfl⟩ := List.exists_cons_of_ne_nil some
    cases same
    exact Or.inr ⟨front, sub, rfl⟩

/-- Two pieces of code in front of `after` do the same up to the first jump.  A jump to the
label that `after` starts with is as good as going on. -/
def SamePiece (piece other after : TypedCode) : Prop :=
  ∀ jump : String → List Invocation → Prop,
    (∀ name rest, after = .control (.label name) :: rest →
      ∀ trace, jump name trace ↔ Follows jump after trace) →
    ∀ trace, Follows jump (piece ++ after) trace ↔ Follows jump (other ++ after) trace

/-- The second code is the first with a piece without labels replaced by one that does the same
and has no other jumps. -/
inductive Pruned : TypedCode → TypedCode → Prop
  | intro (before piece other after : TypedCode) :
      labels piece = [] → labels other = [] → SamePiece piece other after →
      other.flatMap Instruction.targets ⊆ piece.flatMap Instruction.targets →
      Pruned (before ++ (piece ++ after)) (before ++ (other ++ after))

theorem Pruned.refl (code : TypedCode) : Pruned code code :=
  .intro [] [] [] code rfl rfl (fun _ _ _ => Iff.rfl) (List.Subset.refl _)

theorem Pruned.labels_eq {code other : TypedCode} (h : Pruned code other) :
    labels other = labels code := by
  obtain ⟨before, piece, other, after, none, none', -, -⟩ := h
  simp only [labels_append, none, none']

theorem mem_traces_of_piece {before piece other after : TypedCode}
    (distinct : (labels (before ++ (other ++ after))).Nodup) (unlabelled : labels piece = [])
    (same : SamePiece piece other after) {trace : List Invocation}
    (run : trace ∈ traces (before ++ (piece ++ after))) :
    trace ∈ traces (before ++ (other ++ after)) := by
  have here : ∀ trace, Follows (RunsFrom (before ++ (other ++ after))) (piece ++ after) trace →
      Follows (RunsFrom (before ++ (other ++ after))) (other ++ after) trace := by
    intro trace
    refine (same _ ?_ trace).1
    rintro name rest rfl trace
    rw [follows_iff_runs]
    have found : .control (.label name) :: rest <:+
        before ++ (other ++ .control (.label name) :: rest) :=
      (List.suffix_append _ _).trans (List.suffix_append _ _)
    constructor
    · rintro ⟨rest', found', run⟩
      obtain rfl := label_unique distinct found found'
      exact run
    · intro run
      exact ⟨rest, found, run⟩
  -- Jumps lead to labels before or behind the piece, and behind it the code is the same.
  refine runs_of_follows (follows_append before here trace (follows_of_runs ?_ run))
  intro name rest found
  rcases label_suffix_around unlabelled found with sub | ⟨front, sub, rfl⟩
  · exact ⟨rest, sub.trans ((List.suffix_append _ _).trans (List.suffix_append _ _)),
      fun _ h => h⟩
  · exact ⟨front ++ (other ++ after), suffix_append_right _ sub, follows_append front here⟩

/-- Replacing a piece of code by one that does the same keeps the traces. -/
theorem Pruned.traces_eq {code other : TypedCode} (distinct : (labels code).Nodup)
    (h : Pruned code other) : traces other = traces code := by
  have distinct' : (labels other).Nodup := h.labels_eq ▸ distinct
  obtain ⟨before, piece, other, after, none, none', same, -⟩ := h
  ext trace
  constructor
  · refine mem_traces_of_piece distinct none' ?_
    exact fun jump meets trace => (same jump meets trace).symm
  · exact mem_traces_of_piece distinct' none same

theorem Pruned.jumpsForward {code other : TypedCode} (forward : JumpsForward code)
    (h : Pruned code other) : JumpsForward other := by
  obtain ⟨before, piece, other, after, none, none', -, fewer⟩ := h
  intro op rest sub target mem
  rcases suffix_append_iff.1 sub with sub | ⟨front, some, inBefore, same⟩
  · rcases suffix_append_iff.1 sub with sub | ⟨inner, some, inPiece, same⟩
    · exact forward op rest (sub.trans ((List.suffix_append _ _).trans (List.suffix_append _ _)))
        target mem
    · -- The jump is in the new piece, so there is one like it in the old piece.
      obtain ⟨first, inner, rfl⟩ := List.exists_cons_of_ne_nil some
      rw [List.cons_append] at same
      cases same
      have old : target ∈ piece.flatMap Instruction.targets :=
        fewer (List.mem_flatMap.2 ⟨_, mem_of_suffix inPiece, mem⟩)
      obtain ⟨first, mem, jumps⟩ := List.mem_flatMap.1 old
      obtain ⟨more, sub'⟩ := exists_suffix_of_mem mem
      rcases first with call | op'
      · cases jumps
      · have later := forward op' (more ++ after)
          ((suffix_append_right after sub').trans (List.suffix_append _ _)) target jumps
        have unlabelled : labels more = [] :=
          List.eq_nil_iff_forall_not_mem.2 fun name mem => by
            have := ((suffix_of_cons sub').sublist.filterMap Instruction.label?).subset mem
            rw [← labels, none] at this
            cases this
        rw [labels_append, unlabelled, List.nil_append] at later
        rw [labels_append]
        exact List.mem_append_right _ later
  · obtain ⟨first, front, rfl⟩ := List.exists_cons_of_ne_nil some
    rw [List.cons_append] at same
    cases same
    have later := forward op (front ++ (piece ++ after)) (suffix_append_right _ inBefore) target mem
    simpa only [labels_append, none, none'] using later

/-! ## The steps of the pass -/

theorem follows_conds {jump : String → List Invocation → Prop} {conds : TypedCode}
    (all : ∀ instruction ∈ conds, ∃ target line, instruction = .control (.condBranch target line))
    (rest : TypedCode) (trace : List Invocation) :
    Follows jump (conds ++ rest) trace ↔
      (∃ target line, .control (.condBranch target line) ∈ conds ∧ jump target trace) ∨
        Follows jump rest trace := by
  induction conds with
  | nil => simp
  | cons first conds ih =>
      obtain ⟨target, line, rfl⟩ := all first List.mem_cons_self
      have rest := ih fun instruction mem => all instruction (List.mem_cons_of_mem _ mem)
      rw [List.cons_append, Follows, rest, ← or_assoc]
      refine or_congr_left ⟨?_, ?_⟩
      · rintro (h | ⟨other, line', mem, h⟩)
        · exact ⟨target, line, List.mem_cons_self, h⟩
        · exact ⟨other, line', List.mem_cons_of_mem _ mem, h⟩
      · rintro ⟨other, line', mem, h⟩
        rcases List.mem_cons.1 mem with same | mem
        · cases same
          exact Or.inl h
        · exact Or.inr ⟨other, line', mem, h⟩

theorem labels_conds {conds : TypedCode}
    (all : ∀ instruction ∈ conds, ∃ target line, instruction = .control (.condBranch target line)) :
    labels conds = [] := by
  rw [labels, List.filterMap_eq_nil_iff]
  intro instruction mem
  obtain ⟨target, line, rfl⟩ := all instruction mem
  rfl

/-- The conditional jumps kept last, one of them to `target`. -/
theorem exists_of_mem_lastCondTargets {kept : TypedCode} {target : String}
    (h : target ∈ lastCondTargets kept) :
    ∃ conds line before, kept = conds ++ .control (.condBranch target line) :: before ∧
      ∀ instruction ∈ conds, ∃ target line, instruction = .control (.condBranch target line) := by
  induction kept using lastCondTargets.induct with
  | case1 other line kept ih =>
      rw [lastCondTargets, List.mem_cons] at h
      rcases h with rfl | h
      · exact ⟨[], line, kept, rfl, by simp⟩
      · obtain ⟨conds, line', before, rfl, all⟩ := ih h
        refine ⟨.control (.condBranch other line) :: conds, line', before, rfl, ?_⟩
        intro instruction mem
        rcases List.mem_cons.1 mem with rfl | mem
        · exact ⟨other, line, rfl⟩
        · exact all instruction mem
  | case2 kept unlike =>
      rw [lastCondTargets] at h
      · cases h
      · exact unlike

/-- A conditional jump right after conditional jumps, one of them to the same label. -/
theorem pruned_cond {kept : TypedCode} {target : String} (line : Option Nat)
    (h : target ∈ lastCondTargets kept) (rest : TypedCode) :
    Pruned (kept.reverse ++ .control (.condBranch target line) :: rest) (kept.reverse ++ rest) := by
  obtain ⟨conds, line', before, rfl, all⟩ := exists_of_mem_lastCondTargets h
  let piece : TypedCode := .control (.condBranch target line') :: conds.reverse
  have allPiece : ∀ instruction ∈ piece, ∃ target line,
      instruction = .control (.condBranch target line) := by
    intro instruction mem
    rcases List.mem_cons.1 mem with rfl | mem
    · exact ⟨target, line', rfl⟩
    · exact all instruction (List.mem_reverse.1 mem)
  have shape := Pruned.intro before.reverse (piece ++ [.control (.condBranch target line)]) piece rest
    (by rw [labels_append, labels_conds allPiece]; rfl) (labels_conds allPiece) (by
      intro jump _ trace
      rw [List.append_assoc, follows_conds allPiece, follows_conds allPiece]
      constructor
      · rintro (h | h | h)
        · exact Or.inl h
        · exact Or.inl ⟨target, line', List.mem_cons_self, h⟩
        · exact Or.inr h
      · rintro (h | h)
        · exact Or.inl h
        · exact Or.inr (Or.inr h))
    (by rw [List.flatMap_append]; exact List.subset_append_left _ _)
  simpa [piece] using shape

/-- A jump right after a jump. -/
theorem pruned_branch {kept : TypedCode} {target : String} (line : Option Nat)
    (h : endsWithBranch kept = true) (rest : TypedCode) :
    Pruned (kept.reverse ++ .control (.branch target line) :: rest) (kept.reverse ++ rest) := by
  unfold endsWithBranch at h
  split at h
  · next first line' before =>
    have shape := Pruned.intro before.reverse
      [.control (.branch first line'), .control (.branch target line)]
      [.control (.branch first line')] rest rfl rfl (fun _ _ _ => Iff.rfl)
      (by simp [Instruction.targets, Control.targets])
    simpa using shape
  · cases h

/-- A jump to the label that follows it. -/
theorem pruned_label {kept : TypedCode} {name : String} (h : endsWithJumpTo name kept = true)
    (rest : TypedCode) :
    Pruned (kept.reverse ++ .control (.label name) :: rest)
      (kept.tail.reverse ++ .control (.label name) :: rest) := by
  unfold endsWithJumpTo at h
  split at h
  · next target line before =>
    obtain rfl := beq_iff_eq.1 h
    have shape := Pruned.intro before.reverse [.control (.condBranch target line)] []
      (.control (.label target) :: rest) rfl rfl (by
        intro jump meets trace
        have here := meets target rest rfl trace
        constructor
        · rintro (h | h)
          · exact here.1 h
          · exact h
        · exact Or.inr)
      (by simp)
    simpa using shape
  · next target line before =>
    obtain rfl := beq_iff_eq.1 h
    have shape := Pruned.intro before.reverse [.control (.branch target line)] []
      (.control (.label target) :: rest) rfl rfl
      (fun jump meets trace => meets target rest rfl trace) (by simp)
    simpa using shape
  · cases h

/-- Each step of the pass replaces a piece of code by one that does the same. -/
theorem pruned_dropStep (kept : TypedCode) (instruction : Instruction Invocation)
    (rest : TypedCode) :
    Pruned (kept.reverse ++ instruction :: rest) ((dropStep kept instruction).reverse ++ rest) := by
  have plain : Pruned (kept.reverse ++ instruction :: rest)
      ((instruction :: kept).reverse ++ rest) := by
    rw [List.reverse_cons, List.append_assoc, List.singleton_append]
    exact .refl _
  unfold dropStep
  split
  · next target line =>
    split
    · next repeated => exact pruned_cond line (List.contains_iff_mem.1 repeated) rest
    · exact plain
  · split
    · next behind => exact pruned_branch _ behind rest
    · exact plain
  · next name =>
    split
    · next ahead =>
      rw [List.reverse_cons, List.append_assoc, List.singleton_append]
      exact pruned_label ahead rest
    · exact plain
  · next targets line =>
    rw [List.reverse_cons, List.append_assoc, List.singleton_append]
    refine .intro kept.reverse [.control (.multiBranch targets line)]
      [.control (.multiBranch targets.eraseDups line)] rest rfl rfl ?_ ?_
    · intro jump _ trace
      simp only [List.cons_append, List.nil_append, Follows, List.mem_eraseDups]
    · simp [Instruction.targets, Control.targets, List.subset_def]
  · exact plain

/-- What every step of the pass keeps, the pass keeps. -/
theorem dropJumps_induction {motive : TypedCode → Prop} (code : TypedCode)
    (step : ∀ before after, Pruned before after → motive before → motive after)
    (start : motive code) : motive (dropJumps code) := by
  suffices general : ∀ (rest kept : TypedCode), motive (kept.reverse ++ rest) →
      motive (rest.foldl dropStep kept).reverse from general code [] start
  intro rest
  induction rest with
  | nil =>
      intro kept h
      rwa [List.append_nil] at h
  | cons instruction rest ih =>
      intro kept h
      exact ih _ (step _ _ (pruned_dropStep kept instruction rest) h)

theorem labels_dropJumps (code : TypedCode) : labels (dropJumps code) = labels code :=
  dropJumps_induction (motive := fun other => labels other = labels code) code
    (fun _ _ pruned same => pruned.labels_eq.trans same) rfl

/-- Dropping jumps keeps the traces. -/
theorem traces_dropJumps {code : TypedCode} (distinct : (labels code).Nodup) :
    traces (dropJumps code) = traces code := by
  have both := dropJumps_induction
    (motive := fun other => (labels other).Nodup ∧ traces other = traces code) code
    (fun _ _ pruned h => ⟨pruned.labels_eq ▸ h.1, (pruned.traces_eq h.1).trans h.2⟩)
    ⟨distinct, rfl⟩
  exact both.2

theorem JumpsForward.dropJumps {code : TypedCode} (forward : JumpsForward code) :
    JumpsForward (dropJumps code) :=
  dropJumps_induction code (fun _ _ pruned h => pruned.jumpsForward h) forward

/-! ## Both passes -/

theorem nodup_labels_simplify {code : TypedCode} (distinct : (labels code).Nodup) :
    (labels (simplify code)).Nodup := by
  rw [simplify, labels_dropJumps]
  exact nodup_labels_mergeLabels distinct

/-- Simplifying code keeps the traces. -/
theorem traces_simplify {code : TypedCode} (distinct : (labels code).Nodup) :
    traces (simplify code) = traces code := by
  rw [simplify, traces_dropJumps (nodup_labels_mergeLabels distinct), traces_mergeLabels distinct]

/-- Simplifying code keeps jumps going forward. -/
theorem JumpsForward.simplify {code : TypedCode} (distinct : (labels code).Nodup)
    (forward : JumpsForward code) : JumpsForward (simplify code) :=
  (forward.mergeLabels distinct).dropJumps

end CallSearch.Code
