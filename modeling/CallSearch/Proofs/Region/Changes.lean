/-
# CallSearch.Proofs.Region.Changes — flattening as changes of a level, one at a time

Flattening puts the blocks in a row together, leaves one pass through a loop, changes
what is in a box, and takes a region that is left alone out of its box.  Each of these
is one change of a level (`Changes`), and what one change keeps, flattening keeps.

* `changes_flattenLoops`: flattening is changes one after another;
* `flat_flattenLoops_sublist`: it only leaves out code;
* `calls_flattenLoops`: it leaves out no call, and keeps their order;
* `closed_flattenLoops`: every jump stays on its level, also where a label is defined
  twice.
-/
import CallSearch.Proofs.Region.Loops
import Mathlib.Data.List.Flatten
import Mathlib.Logic.Relation

namespace CallSearch

set_option autoImplicit false

/-! ## Calls of code -/

namespace TypedCode

@[simp] theorem calls_append (first second : TypedCode) :
    calls (first ++ second) = calls first ++ calls second :=
  List.filterMap_append

@[simp] theorem calls_control (op : Control) (code : TypedCode) :
    calls (.control op :: code) = calls code :=
  rfl

@[simp] theorem calls_invokes (sites : List Invocation) : calls (sites.map .invoke) = sites := by
  rw [calls, List.filterMap_map]
  exact List.filterMap_some

theorem mem_calls {call : Invocation} {code : TypedCode} :
    call ∈ calls code ↔ .invoke call ∈ code := by
  rw [calls, List.mem_filterMap]
  constructor
  · rintro ⟨_ | _, mem, same⟩ <;> cases same
    exact mem
  · exact fun mem => ⟨_, mem, rfl⟩

end TypedCode

namespace Region

open Relation (ReflTransGen)

/-! ## Blocks in a row -/

theorem flat_mergeBlocks (level : List Region) : flat (mergeBlocks level) = flat level := by
  induction level with
  | nil => rfl
  | cons region rest ih =>
      match region with
      | .box inner => simp [mergeBlocks, flat, ih]
      | .control op => simp [mergeBlocks, flat, ih]
      | .block calls =>
          rw [mergeBlocks]
          split
          · next more regions same =>
            rw [same, flat, flatOne] at ih
            rw [flat, flat, flatOne, flatOne, ← ih, List.map_append, List.append_assoc]
          · simp [flat, ih]

/-- Merging blocks keeps the other regions. -/
theorem mem_mergeBlocks {region : Region} (other : ∀ calls, region ≠ .block calls)
    {level : List Region} : region ∈ mergeBlocks level ↔ region ∈ level := by
  induction level with
  | nil => rfl
  | cons first level ih =>
      cases first with
      | box inner => rw [mergeBlocks.eq_def, List.mem_cons, List.mem_cons, ih]
      | control op => rw [mergeBlocks.eq_def, List.mem_cons, List.mem_cons, ih]
      | block calls =>
          rw [mergeBlocks]
          split
          · next more regions same =>
            rw [same] at ih
            simpa [other] using ih
          · simp [other, ih]

theorem closed_mergeBlocks {level : List Region} (closed : Closed level) :
    Closed (mergeBlocks level) := by
  refine .intro (fun op mem target jumps => ?_) (fun inner mem => ?_)
  · rw [mem_mergeBlocks (by simp)] at mem ⊢
    exact closed.label_mem mem jumps
  · exact closed.inner ((mem_mergeBlocks (by simp)).1 mem)

/-- Several regions make a box, a single one stays as it is. -/
theorem collapse_cases (level : List Region) :
    collapse level = .box level ∨ level = [collapse level] := by
  unfold collapse
  split
  · exact Or.inr rfl
  · exact Or.inl rfl

theorem closed_collapse {level : List Region} (closed : Closed level) :
    Closed [collapse level] := by
  rcases collapse_cases level with boxed | alone
  · rw [boxed]
    exact .intro (by simp) (by simpa using closed)
  · exact alone ▸ closed

theorem flat_around (first rest : List Region) (region : Region) :
    flat (first ++ region :: rest) = flat first ++ (flatOne region ++ flat rest) := by
  rw [flat_append, flat]

/-- No jump leads into a box or out of it, so closed regions may stand in its place. -/
theorem Closed.replace_box {first rest inner : List Region} {region : Region}
    (closed : Closed (first ++ .box inner :: rest)) (closed' : Closed [region]) :
    Closed (first ++ region :: rest) := by
  have around : ∀ {op : Control}, .control op ∈ first ∨ .control op ∈ rest →
      ∀ target ∈ op.targets, .control (.label target) ∈ first ++ region :: rest := by
    intro op mem target jumps
    have listed : .control op ∈ first ++ .box inner :: rest := by simpa using mem
    have defined : .control (.label target) ∈ first ∨ .control (.label target) ∈ rest := by
      simpa using closed.label_mem listed jumps
    exact List.mem_append.2 (defined.imp_right (List.mem_cons_of_mem _))
  refine .intro (fun op mem target jumps => ?_) (fun box mem => ?_)
  · rcases List.mem_append.1 mem with mem | mem
    · exact around (Or.inl mem) target jumps
    · rcases List.mem_cons.1 mem with rfl | mem
      · have defined := closed'.label_mem List.mem_cons_self jumps
        exact List.mem_append_right _ (List.mem_singleton.1 defined ▸ List.mem_cons_self)
      · exact around (Or.inr mem) target jumps
  · rcases List.mem_append.1 mem with mem | mem
    · exact closed.inner (List.mem_append_left _ mem)
    · rcases List.mem_cons.1 mem with rfl | mem
      · exact closed'.inner List.mem_cons_self
      · exact closed.inner (List.mem_append_right _ (List.mem_cons_of_mem _ mem))

/-! ## One loop -/

/-- No label is jumped to more often than counted. -/
def Counted (jumpCount : String → Nat) (code : TypedCode) : Prop :=
  ∀ name, (code.flatMap Instruction.targets).count name ≤ jumpCount name

theorem Counted.sublist {jumpCount : String → Nat} {code part : TypedCode}
    (counted : Counted jumpCount code) (sub : part.Sublist code) : Counted jumpCount part :=
  fun name => ((sub.flatMap _).count_le name).trans (counted name)

/-- The regions of a loop without what is behind it. -/
def loopRegions (pre post : List Region) (head exit : String) (line line' : Option Nat) :
    List Region :=
  .control (.label head) :: (pre ++ .control (.condBranch exit line) ::
    (post ++ [.control (.branch head line'), .control (.label exit)]))

section Loop

variable {jumpCount : String → Nat} {first loop body rest pre post : List Region}
  {head exit : String} {line line' : Option Nat}

/-- The labels that stand in a loop itself are its own two, and are jumped to in it. -/
theorem mem_loopRegions_label (bodies : ∀ region ∈ pre ++ post, region.isBody = true)
    {name : String} (mem : .control (.label name) ∈ loopRegions pre post head exit line line') :
    (name = head ∨ name = exit) ∧ ∃ op, name ∈ op.targets ∧
      .control op ∈ loopRegions pre post head exit line line' := by
  have own : name = head ∨ name = exit := by
    simp only [loopRegions, List.mem_cons, List.mem_append, reduceCtorEq, Region.control.injEq,
      Control.label.injEq, false_or, List.not_mem_nil, or_false] at mem
    rcases mem with same | here | here | same
    · exact Or.inl same
    · cases bodies _ (List.mem_append_left _ here)
    · cases bodies _ (List.mem_append_right _ here)
    · exact Or.inr same
  refine ⟨own, ?_⟩
  rcases own with rfl | rfl
  · exact ⟨.branch name line', List.mem_singleton.2 rfl, by simp [loopRegions]⟩
  · exact ⟨.condBranch name line, List.mem_singleton.2 rfl, by simp [loopRegions]⟩

/-- No jump from around a loop leads to it, where its labels are jumped to once only. -/
theorem label_not_mem_loopRegions (bodies : ∀ region ∈ pre ++ post, region.isBody = true)
    (once : jumpCount head = 1 ∧ jumpCount exit = 1)
    (counted : Counted jumpCount
      (flat (first ++ (loopRegions pre post head exit line line' ++ rest))))
    {op : Control} (mem : .control op ∈ first ++ rest) {target : String}
    (jumps : target ∈ op.targets) :
    .control (.label target) ∉ loopRegions pre post head exit line line' := by
  intro label
  have jumped : ∀ {level : List Region} {op : Control}, .control op ∈ level →
      target ∈ op.targets → 0 < ((flat level).flatMap Instruction.targets).count target := by
    intro level op mem jumps
    refine List.count_pos_iff.2 (List.mem_flatMap.2 ⟨.control op, ?_, jumps⟩)
    exact mem_flat.2 ⟨_, mem, List.mem_singleton.2 rfl⟩
  obtain ⟨own, other, jumps', there⟩ := mem_loopRegions_label bodies label
  -- The two jumps count as two, but there is only one.
  have outside := jumped mem jumps
  have inside := jumped there jumps'
  have total := counted target
  have single : jumpCount target = 1 := by
    rcases own with rfl | rfl
    · exact once.1
    · exact once.2
  simp only [flat_append, List.flatMap_append, List.count_append] at total outside
  omega

namespace IsLoop

variable (isLoop : IsLoop loop body rest pre post head exit line line')

include isLoop

theorem eq_loopRegions : loop = loopRegions pre post head exit line line' ++ rest := by
  rw [isLoop.shape]
  simp [loopRegions]

theorem flat_body : flat body = flat pre ++ flat post := by
  rcases isLoop.left with ⟨rfl, empty⟩ | ⟨rfl, -⟩
  · rw [← flat_append, empty]
  · rw [flat, flatOne_collapse, flat_mergeBlocks, flat_append]
    exact List.append_nil _

theorem flat_sublist : (flat (body ++ rest)).Sublist (flat loop) := by
  rw [isLoop.shape, flat_append, isLoop.flat_body]
  simp only [flat, flatOne, flat_append, List.singleton_append, List.append_assoc]
  refine List.Sublist.cons _ ((List.Sublist.refl _).append ?_)
  refine List.Sublist.cons _ ((List.Sublist.refl _).append ?_)
  exact ((List.Sublist.refl _).cons _).cons _

theorem calls_eq : TypedCode.calls (flat (body ++ rest)) = TypedCode.calls (flat loop) := by
  rw [isLoop.shape, flat_append, isLoop.flat_body]
  simp [flat, flatOne, flat_append]

theorem control_not_mem_body {op : Control} : .control op ∉ body := by
  rcases isLoop.left with ⟨rfl, -⟩ | ⟨rfl, -⟩
  · exact List.not_mem_nil
  · intro mem
    have isBody := isBody_collapse_mergeBlocks isLoop.short isLoop.bodies
    rw [← List.mem_singleton.1 mem] at isBody
    cases isBody

/-- What is left of a loop has its jumps closed. -/
theorem closed_body (closed : ∀ inner, .box inner ∈ pre ++ post → Closed inner) :
    Closed body := by
  have parts : Closed (pre ++ post) := by
    refine .intro (fun op mem => ?_) closed
    cases isLoop.bodies _ mem
  rcases isLoop.left with ⟨rfl, -⟩ | ⟨rfl, -⟩
  · exact .intro (by simp) (by simp)
  · exact closed_collapse (closed_mergeBlocks parts)

/-- Without the frame of a loop the jumps of its level are closed: none leads to the frame. -/
theorem closed (once : jumpCount head = 1 ∧ jumpCount exit = 1)
    (counted : Counted jumpCount (flat (first ++ loop))) (closed : Closed (first ++ loop)) :
    Closed (first ++ (body ++ rest)) := by
  obtain rfl := isLoop.eq_loopRegions
  have leftOver : Closed body := by
    refine isLoop.closed_body fun inner mem => closed.inner ?_
    simp only [loopRegions, List.mem_append, List.mem_cons] at mem ⊢
    tauto
  refine .intro (fun op mem target jumps => ?_) (fun inner mem => ?_)
  · have notBody : .control op ∉ body := isLoop.control_not_mem_body
    have here : .control op ∈ first ++ rest := by
      simp only [List.mem_append] at mem ⊢
      tauto
    have away := label_not_mem_loopRegions isLoop.bodies once counted here jumps
    have listed : .control op ∈ first ++ (loopRegions pre post head exit line line' ++ rest) := by
      simp only [List.mem_append] at here ⊢
      tauto
    have defined := closed.label_mem listed jumps
    simp only [List.mem_append] at defined ⊢
    tauto
  · simp only [List.mem_append] at mem
    rcases mem with mem | mem | mem
    · exact closed.inner (List.mem_append_left _ mem)
    · exact leftOver.inner mem
    · exact closed.inner (by simp [mem])

end IsLoop

end Loop

/-! ## Changes -/

/-- One change of a level. -/
inductive Changes (jumpCount : String → Nat) : List Region → List Region → Prop
  /-- The blocks in a row are put together. -/
  | merge (level : List Region) : Changes jumpCount level (mergeBlocks level)
  /-- A loop that only its own jumps enter or leave is replaced by one pass through it. -/
  | loop (first : List Region) {loop body rest pre post : List Region} {head exit : String}
      {line line' : Option Nat} : IsLoop loop body rest pre post head exit line line' →
      jumpCount head = 1 ∧ jumpCount exit = 1 →
      Changes jumpCount (first ++ loop) (first ++ (body ++ rest))
  /-- What is in a box changes. -/
  | inside {first inner inner' rest : List Region} : Changes jumpCount inner inner' →
      Changes jumpCount (first ++ .box inner :: rest) (first ++ .box inner' :: rest)
  /-- A region alone in a box takes the place of the box. -/
  | alone {first rest : List Region} {region : Region} :
      Changes jumpCount (first ++ .box [region] :: rest) (first ++ region :: rest)

section Changes

variable {jumpCount : String → Nat} {level level' : List Region}

namespace Changes

theorem sublist (change : Changes jumpCount level level') :
    (flat level').Sublist (flat level) := by
  induction change with
  | merge level => rw [flat_mergeBlocks]
  | loop first isLoop once =>
      rw [flat_append first, flat_append first]
      exact (List.Sublist.refl _).append isLoop.flat_sublist
  | inside change ih =>
      rw [flat_around, flat_around]
      exact (List.Sublist.refl _).append (ih.append (List.Sublist.refl _))
  | alone => rw [flat_around, flat_around, flatOne, flat, flat, List.append_nil]

theorem calls_eq (change : Changes jumpCount level level') :
    TypedCode.calls (flat level') = TypedCode.calls (flat level) := by
  induction change with
  | merge level => rw [flat_mergeBlocks]
  | loop first isLoop once =>
      rw [flat_append first, flat_append first, TypedCode.calls_append, TypedCode.calls_append,
        isLoop.calls_eq]
  | inside change ih => simp [flat_around, flatOne, ih]
  | alone => rw [flat_around, flat_around, flatOne, flat, flat, List.append_nil]

theorem closed (change : Changes jumpCount level level') (counted : Counted jumpCount (flat level))
    (closed : Closed level) : Closed level' := by
  induction change with
  | merge level => exact closed_mergeBlocks closed
  | loop _ isLoop once => exact isLoop.closed once counted closed
  | inside change ih =>
      have inner := closed.inner (List.mem_append_right _ List.mem_cons_self)
      have inner' := ih (counted.sublist (flat_inner_sublist (by simp))) inner
      exact closed.replace_box (.intro (by simp) (by simpa using inner'))
  | alone =>
      exact closed.replace_box (closed.inner (List.mem_append_right _ List.mem_cons_self))

end Changes

/-! ## Changes one after another -/

theorem sublist_of_changes (changes : ReflTransGen (Changes jumpCount) level level') :
    (flat level').Sublist (flat level) := by
  induction changes with
  | refl => exact .refl _
  | tail _ change ih => exact change.sublist.trans ih

theorem calls_of_changes (changes : ReflTransGen (Changes jumpCount) level level') :
    TypedCode.calls (flat level') = TypedCode.calls (flat level) := by
  induction changes with
  | refl => rfl
  | tail _ change ih => exact change.calls_eq.trans ih

theorem closed_of_changes (changes : ReflTransGen (Changes jumpCount) level level')
    (counted : Counted jumpCount (flat level)) (closed : Closed level) : Closed level' := by
  induction changes with
  | refl => exact closed
  | tail changes change ih => exact change.closed (counted.sublist (sublist_of_changes changes)) ih

/-- Changes in a box, which a region that is left alone then leaves. -/
theorem changes_box {first inner inner' rest : List Region}
    (changes : ReflTransGen (Changes jumpCount) inner inner') :
    ReflTransGen (Changes jumpCount) (first ++ .box inner :: rest)
      (first ++ collapse inner' :: rest) := by
  have inside : ReflTransGen (Changes jumpCount) (first ++ .box inner :: rest)
      (first ++ .box inner' :: rest) :=
    changes.lift (fun inner => first ++ .box inner :: rest) fun _ _ => .inside
  rcases collapse_cases inner' with boxed | alone
  · rwa [boxed]
  · have change : Changes jumpCount (first ++ .box [collapse inner'] :: rest)
        (first ++ collapse inner' :: rest) := .alone
    rw [← alone] at change
    exact inside.tail change

end Changes

/-! ## Flattening -/

section Flatten

variable (jumpCount : String → Nat)

theorem changes_passLoops (steps : Nat) (first level : List Region) :
    ReflTransGen (Changes jumpCount) (first ++ level)
      (first ++ passLoops jumpCount steps level) := by
  induction steps generalizing first level with
  | zero => exact .refl
  | succ steps ih =>
      cases level with
      | nil => exact .refl
      | cons region rest =>
          rw [passLoops]
          split
          · next body behind found =>
            obtain ⟨pre, post, head, exit, line, line', loop, once⟩ := loop?_eq_some found
            have further := ih (first ++ body) behind
            rw [List.append_assoc, List.append_assoc] at further
            exact further.head (.loop first loop once)
          · have further := ih (first ++ [region]) rest
            simpa using further

theorem changes_settleLoops (rounds : Nat) (level : List Region) :
    ReflTransGen (Changes jumpCount) level (settleLoops jumpCount rounds level) := by
  induction rounds generalizing level with
  | zero => exact .refl
  | succ rounds ih => exact (changes_passLoops jumpCount level.length [] level).trans (ih _)

theorem changes_flattenLevel (level : List Region) :
    ReflTransGen (Changes jumpCount) level (flattenLevel jumpCount level) :=
  (changes_settleLoops jumpCount level.length level).tail (.merge _)

mutual

theorem changes_flattenInside : (region : Region) → (first rest : List Region) →
    ReflTransGen (Changes jumpCount) (first ++ region :: rest)
      (first ++ flattenInside jumpCount region :: rest)
  | .block _, _, _ => .refl
  | .control _, _, _ => .refl
  | .box inner, first, rest => by
      rw [flattenInside]
      exact changes_box ((changes_flattenAll inner []).trans (changes_flattenLevel jumpCount _))

theorem changes_flattenAll : (level first : List Region) →
    ReflTransGen (Changes jumpCount) (first ++ level) (first ++ flattenAll jumpCount level)
  | [], _ => .refl
  | region :: rest, first => by
      have further := changes_flattenAll rest (first ++ [flattenInside jumpCount region])
      rw [flattenAll]
      exact (changes_flattenInside region first rest).trans (by simpa using further)

end

/-- Flattening the loops of a level is changes of it one after another. -/
theorem changes_flattenLoops (level : List Region) :
    ReflTransGen (Changes jumpCount) level (flattenLoops jumpCount level) :=
  (changes_flattenAll jumpCount level []).trans (changes_flattenLevel jumpCount _)

theorem flat_flattenLoops_sublist (level : List Region) :
    (flat (flattenLoops jumpCount level)).Sublist (flat level) :=
  sublist_of_changes (changes_flattenLoops jumpCount level)

/-- Flattening leaves out no call, and keeps their order. -/
theorem calls_flattenLoops (level : List Region) :
    TypedCode.calls (flat (flattenLoops jumpCount level)) = TypedCode.calls (flat level) :=
  calls_of_changes (changes_flattenLoops jumpCount level)

/-- Flattening keeps every jump on its level, also where a label is defined twice. -/
theorem closed_flattenLoops {level : List Region} (counted : Counted jumpCount (flat level))
    (closed : Closed level) : Closed (flattenLoops jumpCount level) :=
  closed_of_changes (changes_flattenLoops jumpCount level) counted closed

end Flatten

end Region

end CallSearch
