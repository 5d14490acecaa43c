/-
# CallSearch.Proofs.Code.Run — runs of labelled code

A run is at the part of the code that is still to come.  It starts with the whole
code, may fall through or take a conditional jump, takes one of the targets of a
multiple jump, and is complete when it returns, throws or comes past the last
instruction.  Its trace lists the calls it makes.

`Code.traces` is the set of traces of complete runs, the meaning that the passes over
code are measured by.
-/
import CallSearch.Proofs.Suffix
import CallSearch.Typing
import Mathlib.Computability.Language

namespace CallSearch.Code

set_option autoImplicit false

/-- The labels some code defines, in the order of the code. -/
def labels {γ : Type} (code : List (Instruction γ)) : List String :=
  code.filterMap Instruction.label?

/-- The complete runs of `code` that have `rest` still to come, by the calls they make. -/
inductive Runs (code : TypedCode) : TypedCode → List Invocation → Prop
  | past : Runs code [] []
  | ret {line : Option Nat} {rest : TypedCode} : Runs code (.control (.ret line) :: rest) []
  | throw {line : Option Nat} {rest : TypedCode} : Runs code (.control (.throw line) :: rest) []
  | invoke {call : Invocation} {rest : TypedCode} {trace : List Invocation} :
      Runs code rest trace → Runs code (.invoke call :: rest) (call :: trace)
  | label {name : String} {rest : TypedCode} {trace : List Invocation} :
      Runs code rest trace → Runs code (.control (.label name) :: rest) trace
  | fall {target : String} {line : Option Nat} {rest : TypedCode} {trace : List Invocation} :
      Runs code rest trace → Runs code (.control (.condBranch target line) :: rest) trace
  | jump {op : Control} {target : String} {rest after : TypedCode} {trace : List Invocation} :
      target ∈ op.targets → .control (.label target) :: after <:+ code →
      Runs code (.control (.label target) :: after) trace → Runs code (.control op :: rest) trace

/-- The traces of the complete runs of some code. -/
def traces (code : TypedCode) : Language Invocation := {trace | Runs code code trace}

theorem mem_traces {code : TypedCode} {trace : List Invocation} :
    trace ∈ traces code ↔ Runs code code trace := Iff.rfl

/-- Every jump goes to a label that is defined later in the code. -/
def JumpsForward {γ : Type} (code : List (Instruction γ)) : Prop :=
  ∀ op rest, .control op :: rest <:+ code → ∀ target ∈ op.targets, target ∈ labels rest

/-- No jump leads back to a label before it. -/
def LoopFree {γ : Type} (code : List (Instruction γ)) : Prop :=
  ∀ name rest, .control (.label name) :: rest <:+ code →
    ∀ instruction ∈ rest, name ∉ instruction.targets

section Labels

variable {γ : Type}

@[simp]
theorem labels_label (name : String) (rest : List (Instruction γ)) :
    labels (.control (.label name) :: rest) = name :: labels rest := rfl

@[simp]
theorem labels_append (first second : List (Instruction γ)) :
    labels (first ++ second) = labels first ++ labels second := List.filterMap_append

/-- An instruction with targets defines no label. -/
theorem label?_of_targets {op : Control} {target : String} (h : target ∈ op.targets) :
    (Instruction.control op : Instruction γ).label? = none := by
  cases op <;> first | rfl | exact absurd h List.not_mem_nil

theorem mem_labels {name : String} {code : List (Instruction γ)} :
    name ∈ labels code ↔ .control (.label name) ∈ code := by
  rw [labels, List.mem_filterMap]
  constructor
  · rintro ⟨instruction, mem, defined⟩
    unfold Instruction.label? at defined
    split at defined
    · cases defined
      exact mem
    · cases defined
  · intro mem
    exact ⟨_, mem, rfl⟩

/-- Where no label is defined twice, a label is found at one place only. -/
theorem label_unique {code : List (Instruction γ)} (distinct : (labels code).Nodup) {name : String}
    {u v : List (Instruction γ)} (hu : .control (.label name) :: u <:+ code)
    (hv : .control (.label name) :: v <:+ code) : u = v :=
  (List.cons.inj (suffix_eq_of_name distinct rfl rfl hu hv)).2

theorem jumpsForward_cons {instruction : Instruction γ} {rest : List (Instruction γ)} :
    JumpsForward (instruction :: rest) ↔
      (∀ target ∈ instruction.targets, target ∈ labels rest) ∧ JumpsForward rest := by
  constructor
  · intro forward
    refine ⟨fun target jumps => ?_,
      fun op after sub => forward op after (sub.trans (List.suffix_cons _ _))⟩
    cases instruction with
    | invoke call => cases jumps
    | control op => exact forward op rest List.suffix_rfl target jumps
  · rintro ⟨first, forward⟩ op after sub
    rcases List.suffix_cons_iff.1 sub with same | sub
    · cases same
      exact first
    · exact forward op after sub

instance decidableJumpsForward : (code : List (Instruction γ)) → Decidable (JumpsForward code)
  | [] => .isTrue fun _ _ sub => absurd (List.suffix_nil.1 sub) (List.cons_ne_nil _ _)
  | _ :: rest =>
      have := decidableJumpsForward rest
      decidable_of_iff _ jumpsForward_cons.symm

theorem JumpsForward.loopFree {code : List (Instruction γ)} (distinct : (labels code).Nodup)
    (forward : JumpsForward code) : LoopFree code := by
  intro name rest sub instruction mem jumps
  obtain ⟨after, sub'⟩ := exists_suffix_of_mem mem
  match instruction with
  | .invoke call => exact absurd jumps List.not_mem_nil
  | .control op =>
      -- The label of a jump forward comes after the jump, and so not once more before it.
      have later := forward op after (sub'.trans (suffix_of_cons sub)) name jumps
      have once := (sub.sublist.filterMap Instruction.label?).nodup distinct
      rw [← labels, labels_label, List.nodup_cons] at once
      exact once.1 (((suffix_of_cons sub').sublist.filterMap _).subset later)

/-- Leaving out instructions adds no jump back. -/
theorem LoopFree.sublist {code part : List (Instruction γ)} (free : LoopFree code)
    (sub : part.Sublist code) : LoopFree part := by
  rintro name rest ⟨before, rfl⟩ instruction mem jumps
  obtain ⟨first, second, rfl, -, sub'⟩ := List.append_sublist_iff.1 sub
  obtain ⟨third, fourth, rfl, here, there⟩ := List.cons_sublist_iff.1 sub'
  obtain ⟨after, sub''⟩ := exists_suffix_of_mem here
  obtain ⟨front, rfl⟩ := sub''
  refine free name (after ++ fourth) ⟨first ++ front, by simp⟩ instruction ?_ jumps
  exact List.mem_append_right _ (there.subset mem)

end Labels

/-! ## One step of a run -/

theorem runs_ret_iff {code rest : TypedCode} {line : Option Nat} {trace : List Invocation} :
    Runs code (.control (.ret line) :: rest) trace ↔ trace = [] := by
  constructor
  · intro h
    cases h with
    | ret => rfl
    | jump mem => exact absurd mem List.not_mem_nil
  · rintro rfl
    exact .ret

theorem runs_throw_iff {code rest : TypedCode} {line : Option Nat} {trace : List Invocation} :
    Runs code (.control (.throw line) :: rest) trace ↔ trace = [] := by
  constructor
  · intro h
    cases h with
    | throw => rfl
    | jump mem => exact absurd mem List.not_mem_nil
  · rintro rfl
    exact .throw

theorem runs_invoke_iff {code rest : TypedCode} {call : Invocation} {trace : List Invocation} :
    Runs code (.invoke call :: rest) trace ↔ ∃ more, trace = call :: more ∧ Runs code rest more := by
  constructor
  · intro h
    cases h with
    | invoke h => exact ⟨_, rfl, h⟩
  · rintro ⟨more, rfl, h⟩
    exact .invoke h

/-- An instruction that only jumps leads to one of its targets. -/
theorem Runs.of_branch {code rest : TypedCode} {target : String} {line : Option Nat}
    {trace : List Invocation} (h : Runs code (.control (.branch target line) :: rest) trace) :
    ∃ after, .control (.label target) :: after <:+ code ∧
      Runs code (.control (.label target) :: after) trace := by
  cases h with
  | jump mem found h =>
      rw [Control.targets, List.mem_singleton] at mem
      subst mem
      exact ⟨_, found, h⟩

end CallSearch.Code
