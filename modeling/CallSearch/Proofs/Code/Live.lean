/-
# CallSearch.Proofs.Code.Live — code without dead parts

Code is live when every instruction is reached from the start and a run can be
completed from it.  A part of the code that no jump enters or leaves (`Sealed`) is
entered at its first instruction and left behind its last one, so what happens in it
does not depend on the code around.

Taking the frame of a loop away, that is its label, its test, its jump back and the
label behind it, keeps code live: `Live.unframe`.  Runs go once through what is left
of the loop, and in live code that is possible.
-/
import CallSearch.Proofs.Code.Run
import Mathlib.Logic.Relation

namespace CallSearch.Code

set_option autoImplicit false

open Relation

/-! ## Moves -/

/-- One move of a run, from a place in the code to the next. -/
inductive Moves (code : TypedCode) : TypedCode → TypedCode → Prop
  | invoke {call : Invocation} {rest : TypedCode} : Moves code (.invoke call :: rest) rest
  | label {name : String} {rest : TypedCode} :
      Moves code (.control (.label name) :: rest) rest
  | fall {target : String} {line : Option Nat} {rest : TypedCode} :
      Moves code (.control (.condBranch target line) :: rest) rest
  | jump {op : Control} {target : String} {rest after : TypedCode} :
      target ∈ op.targets → .control (.label target) :: after <:+ code →
      Moves code (.control op :: rest) (.control (.label target) :: after)

/-- A place where a run is complete. -/
inductive Complete : TypedCode → Prop
  | past : Complete []
  | ret {line : Option Nat} {rest : TypedCode} : Complete (.control (.ret line) :: rest)
  | throw {line : Option Nat} {rest : TypedCode} : Complete (.control (.throw line) :: rest)

/-- A run from the first place on can be at the second. -/
abbrev Reaches (code : TypedCode) : TypedCode → TypedCode → Prop := ReflTransGen (Moves code)

/-- A run from a place on can be completed. -/
def Completes (code place : TypedCode) : Prop := ∃ last, Reaches code place last ∧ Complete last

/-- Every instruction is reached, and from there the run can be completed. -/
def Live (code : TypedCode) : Prop :=
  ∀ place, place <:+ code → place ≠ [] → Reaches code code place ∧ Completes code place

theorem Completes.of_reaches {code place next : TypedCode} (h : Completes code next)
    (path : Reaches code place next) : Completes code place := by
  obtain ⟨last, path', complete⟩ := h
  exact ⟨last, path.trans path', complete⟩

/-- A move goes on behind an instruction, whatever code is around it, or to a label the
instruction jumps to. -/
theorem Moves.cases {code place next : TypedCode} (move : Moves code place next) :
    ∃ instruction rest, place = instruction :: rest ∧
      (next = rest ∧ (∀ code rest, Moves code (instruction :: rest) rest) ∨
        ∃ op target after, instruction = .control op ∧ target ∈ op.targets ∧
          next = .control (.label target) :: after ∧
          .control (.label target) :: after <:+ code) := by
  cases move with
  | invoke => exact ⟨_, _, rfl, Or.inl ⟨rfl, fun _ _ => .invoke⟩⟩
  | label => exact ⟨_, _, rfl, Or.inl ⟨rfl, fun _ _ => .label⟩⟩
  | fall => exact ⟨_, _, rfl, Or.inl ⟨rfl, fun _ _ => .fall⟩⟩
  | jump mem found => exact ⟨_, _, rfl, Or.inr ⟨_, _, _, rfl, mem, rfl, found⟩⟩

theorem Moves.suffix {code place next : TypedCode} (move : Moves code place next)
    (placed : place <:+ code) : next <:+ code := by
  cases move with
  | invoke => exact suffix_of_cons placed
  | label => exact suffix_of_cons placed
  | fall => exact suffix_of_cons placed
  | jump _ found => exact found

theorem Reaches.suffix {code place next : TypedCode} (path : Reaches code place next)
    (placed : place <:+ code) : next <:+ code := by
  induction path with
  | refl => exact placed
  | tail _ move ih => exact move.suffix ih

theorem runs_of_reaches {code place next : TypedCode} (path : Reaches code place next)
    {trace : List Invocation} (run : Runs code next trace) :
    ∃ before, Runs code place (before ++ trace) := by
  induction path using ReflTransGen.head_induction_on with
  | refl => exact ⟨[], run⟩
  | head move _ ih =>
      obtain ⟨before, run⟩ := ih
      cases move with
      | invoke => exact ⟨_ :: before, .invoke run⟩
      | label => exact ⟨before, .label run⟩
      | fall => exact ⟨before, .fall run⟩
      | jump mem found => exact ⟨before, .jump mem found run⟩

theorem exists_runs_of_completes {code place : TypedCode} (h : Completes code place) :
    ∃ trace, Runs code place trace := by
  obtain ⟨last, path, complete⟩ := h
  have run : Runs code last [] := by
    cases complete with
    | past => exact .past
    | ret => exact .ret
    | throw => exact .throw
  obtain ⟨before, run⟩ := runs_of_reaches path run
  exact ⟨before ++ [], run⟩

/-- Every call of live code is made by a complete run. -/
theorem Live.exists_trace {code : TypedCode} (live : Live code) {call : Invocation}
    (mem : .invoke call ∈ code) : ∃ trace ∈ traces code, call ∈ trace := by
  obtain ⟨rest, sub⟩ := exists_suffix_of_mem mem
  obtain ⟨path, completes⟩ := live _ sub (List.cons_ne_nil _ _)
  obtain ⟨trace, run⟩ := exists_runs_of_completes completes
  obtain ⟨before, whole⟩ := runs_of_reaches path run
  obtain ⟨more, rfl, -⟩ := runs_invoke_iff.1 run
  exact ⟨_, whole, by simp⟩

/-- The calls of a run stand in the code. -/
theorem Runs.invoke_mem {code rest : TypedCode} {trace : List Invocation}
    (run : Runs code rest trace) (placed : rest <:+ code) {call : Invocation}
    (mem : call ∈ trace) : .invoke call ∈ code := by
  induction run with
  | past => cases mem
  | ret => cases mem
  | throw => cases mem
  | invoke _ ih =>
      rcases List.mem_cons.1 mem with rfl | mem
      · exact mem_of_suffix placed
      · exact ih (suffix_of_cons placed) mem
  | label _ ih => exact ih (suffix_of_cons placed) mem
  | fall _ ih => exact ih (suffix_of_cons placed) mem
  | jump _ found _ ih => exact ih found mem

/-! ## Sealed parts -/

/-- No jump enters or leaves a part of some code. -/
structure Sealed (before part after : TypedCode) : Prop where
  inside : ∀ op, .control op ∈ part → ∀ target ∈ op.targets, target ∈ labels part
  outside : ∀ op, .control op ∈ before ++ after → ∀ target ∈ op.targets, target ∉ labels part

theorem Moves.append {part place next : TypedCode} (move : Moves part place next)
    (before after : TypedCode) :
    Moves (before ++ (part ++ after)) (place ++ after) (next ++ after) := by
  cases move with
  | invoke => exact .invoke
  | label => exact .label
  | fall => exact .fall
  | jump mem found =>
      exact .jump mem ((suffix_append_right after found).trans (List.suffix_append _ _))

/-- What runs do in a part they do in it anywhere. -/
theorem Reaches.append {part place next : TypedCode} (path : Reaches part place next)
    (before after : TypedCode) :
    Reaches (before ++ (part ++ after)) (place ++ after) (next ++ after) :=
  ReflTransGen.lift (· ++ after) (fun _ _ (move : Moves part _ _) => move.append before after) _ _
    path

/-- Whether a run is complete at a place depends on the instruction there. -/
theorem Complete.congr {place more : TypedCode} (some : place ≠ [])
    (complete : Complete (place ++ more)) : Complete place := by
  match place, some with
  | instruction :: rest, _ =>
      cases complete with
      | ret => exact .ret
      | throw => exact .throw

theorem Complete.append {place : TypedCode} (complete : Complete place) (some : place ≠ [])
    (after : TypedCode) : Complete (place ++ after) := by
  cases complete with
  | past => exact absurd rfl some
  | ret => exact .ret
  | throw => exact .throw

section Sealed

variable {before part after : TypedCode} (closed : Sealed before part after)
  (distinct : (labels (before ++ (part ++ after))).Nodup)

include closed distinct

/-- A move from inside a sealed part is a move of the part. -/
theorem Sealed.moves_inside {place next : TypedCode} (some : place ≠ []) (placed : place <:+ part)
    (move : Moves (before ++ (part ++ after)) (place ++ after) next) :
    ∃ next', next = next' ++ after ∧ Moves part place next' := by
  match place with
  | [] => exact absurd rfl some
  | instruction :: rest =>
      cases move with
      | invoke => exact ⟨rest, rfl, .invoke⟩
      | label => exact ⟨rest, rfl, .label⟩
      | fall => exact ⟨rest, rfl, .fall⟩
      | @jump op target _ after' mem found =>
          have own := closed.inside op (mem_of_suffix placed) target mem
          obtain ⟨behind, sub⟩ := exists_suffix_of_mem (mem_labels.1 own)
          have found' := (suffix_append_right after sub).trans (List.suffix_append before _)
          obtain rfl : after' = behind ++ after := label_unique distinct found found'
          exact ⟨_, rfl, .jump mem sub⟩

/-- A move into a sealed part is a move of the part, or leads to its start. -/
theorem Sealed.moves_into {place next : TypedCode} (some : next ≠ []) (placed : next <:+ part)
    (placed' : place <:+ before ++ (part ++ after))
    (move : Moves (before ++ (part ++ after)) place (next ++ after)) :
    next = part ∨ ∃ place', place' ≠ [] ∧ place' <:+ part ∧ place = place' ++ after ∧
      Moves part place' next := by
  -- No instruction outside the part jumps into it.
  have falls : ∀ instruction rest, place = instruction :: rest → instruction ∈ before ++ after →
      next ++ after = rest := by
    rintro instruction rest rfl mem
    obtain ⟨_, _, here, ⟨same, -⟩ | ⟨op, target, behind, rfl, jumps, same, -⟩⟩ := move.cases
    · rw [same, (List.cons.inj here).2]
    · obtain ⟨rfl, rfl⟩ := List.cons.inj here
      obtain ⟨first, rest', rfl⟩ := List.exists_cons_of_ne_nil some
      obtain rfl : first = .control (.label target) := (List.cons.inj same).1
      exact absurd (mem_labels.2 (mem_of_suffix placed)) (closed.outside op mem target jumps)
  obtain ⟨instruction, rest, here, -⟩ := move.cases
  rcases suffix_append_iff.1 placed' with inner | ⟨outer, someOuter, sub, same⟩
  · rcases suffix_append_iff.1 inner with last | ⟨inner', someInner, sub, rfl⟩
    · have same := falls instruction rest here
        (List.mem_append_right _ (mem_of_suffix (here ▸ last)))
      have longer := (here ▸ last).length_le
      rw [List.length_cons, ← same, List.length_append] at longer
      omega
    · obtain ⟨next', same, move'⟩ := closed.moves_inside distinct someInner sub move
      obtain rfl := List.append_cancel_right same
      exact Or.inr ⟨inner', someInner, sub, rfl, move'⟩
  · match outer, someOuter with
    | first :: outer, _ =>
        rw [here, List.cons_append] at same
        obtain ⟨rfl, rfl⟩ := List.cons.inj same
        have same := falls instruction _ here (List.mem_append_left _ (mem_of_suffix sub))
        rw [← List.append_assoc] at same
        obtain rfl := List.append_cancel_right same
        have longer := placed.length_le
        rw [List.length_append] at longer
        obtain rfl : outer = [] := List.length_eq_zero_iff.1 (by omega)
        exact Or.inl rfl

/-- A run comes to a place in a sealed part from the start of the part. -/
theorem Sealed.reaches_inside {place next : TypedCode} (path : Reaches (before ++ (part ++ after))
      (before ++ (part ++ after)) place) (same : place = next ++ after) (some : next ≠ [])
    (placed : next <:+ part) : Reaches part part next := by
  induction path generalizing next with
  | refl =>
      have whole := congrArg List.length same
      have shorter := placed.length_le
      simp only [List.length_append] at whole
      obtain rfl : next = part := placed.eq_of_length (by omega)
      exact .refl
  | @tail last _ path move ih =>
      subst same
      rcases closed.moves_into distinct some placed (Reaches.suffix path List.suffix_rfl) move with
        rfl | ⟨place', some', placed', rfl, move'⟩
      · exact .refl
      · exact (ih rfl some' placed').tail move'

/-- A run that comes behind a sealed part, and not to a label, has come through the part. -/
theorem Sealed.passes {instruction : Instruction Invocation} {rest : TypedCode}
    (same : after = instruction :: rest) (plain : instruction.label? = none)
    (path : Reaches (before ++ (part ++ after)) (before ++ (part ++ after)) after) :
    Reaches part part [] := by
  rcases ReflTransGen.cases_tail path with whole | ⟨place, path, move⟩
  · have empty : part = [] := by
      have := congrArg List.length whole
      simp only [List.length_append] at this
      exact List.length_eq_zero_iff.1 (by omega)
    rw [empty]
  · obtain ⟨last, rest', rfl, ⟨falls, -⟩ | ⟨op, target, behind, -, -, label, -⟩⟩ := move.cases
    · subst falls
      rcases suffix_append_iff.1 (Reaches.suffix path List.suffix_rfl) with
        inner | ⟨outer, _, sub, here⟩
      · rcases suffix_append_iff.1 inner with sub | ⟨inner', someInner, sub, here⟩
        · exact absurd sub.length_le (by simp)
        · obtain rfl : inner' = [last] :=
            (List.append_cancel_right (here.symm.trans (List.singleton_append).symm))
          obtain ⟨next', same', move'⟩ := closed.moves_inside distinct someInner sub move
          obtain rfl : next' = [] := List.append_cancel_right same'.symm
          exact (closed.reaches_inside distinct path rfl someInner sub).tail move'
      · have empty : part = [] := by
          have := congrArg List.length here
          have := List.length_pos_iff.2 ‹_›
          simp only [List.length_append, List.length_cons] at *
          exact List.length_eq_zero_iff.1 (by omega)
        rw [empty]
    · rw [same] at label
      rw [(List.cons.inj label).1] at plain
      cases plain

/-- A run that is completed from a place in a sealed part is completed in it, or comes through
the part. -/
theorem Sealed.completes {place place' : TypedCode}
    (h : Completes (before ++ (part ++ after)) place') (same : place' = place ++ after)
    (placed : place <:+ part) :
    (∃ last, last ≠ [] ∧ Reaches part place last ∧ Complete last) ∨ Reaches part place [] := by
  obtain ⟨last, path, complete⟩ := h
  induction path using ReflTransGen.head_induction_on generalizing place with
  | refl =>
      subst same
      by_cases some : place = []
      · exact Or.inr (some ▸ .refl)
      · exact Or.inl ⟨place, some, .refl, complete.congr some⟩
  | head move _ ih =>
      subst same
      by_cases some : place = []
      · exact Or.inr (some ▸ .refl)
      · obtain ⟨next, rfl, move'⟩ := closed.moves_inside distinct some placed move
        rcases ih rfl (move'.suffix placed) with ⟨last, someLast, path, complete⟩ | path
        · exact Or.inl ⟨last, someLast, .head move' path, complete⟩
        · exact Or.inr (.head move' path)

end Sealed

/-! ## Putting another part in the place of a sealed part -/

/-- Places with a sealed part in the code, and with another part in its place.  All of the sealed
part stands for the start of the other. -/
inductive Image (before part after other : TypedCode) : TypedCode → TypedCode → Prop
  | before {place : TypedCode} : place ≠ [] → place <:+ before →
      Image before part after other (place ++ (part ++ after)) (place ++ (other ++ after))
  | inside {place : TypedCode} : place ≠ [] → place <:+ part →
      Image before part after other (place ++ after) (other ++ after)
  | after {place : TypedCode} : place <:+ after → Image before part after other place place

/-- A jump from outside the part leads to the same label. -/
theorem Sealed.image_of_jump {before part after other : TypedCode}
    (closed : Sealed before part after) {op : Control} (mem : .control op ∈ before ++ after)
    {target : String} (jumps : target ∈ op.targets) {behind : TypedCode}
    (found : .control (.label target) :: behind <:+ before ++ (part ++ after)) :
    ∃ next, Image before part after other (.control (.label target) :: behind) next ∧
      ∀ rest, Moves (before ++ (other ++ after)) (.control op :: rest) next := by
  rcases suffix_append_iff.1 found with inner | ⟨outer, someOuter, sub, same⟩
  · rcases suffix_append_iff.1 inner with last | ⟨inner', someInner, sub, same⟩
    · exact ⟨_, .after last, fun _ => .jump jumps
        ((last.trans (List.suffix_append _ _)).trans (List.suffix_append _ _))⟩
    · match inner', someInner with
      | first :: _, _ =>
          obtain rfl : .control (.label target) = first := (List.cons.inj same).1
          exact absurd (mem_labels.2 (mem_of_suffix sub)) (closed.outside op mem target jumps)
  · match outer, someOuter with
    | first :: outer, _ =>
        obtain rfl : .control (.label target) = first := (List.cons.inj same).1
        rw [same]
        exact ⟨_, .before (List.cons_ne_nil _ _) sub, fun _ => .jump jumps
          (suffix_append_right (other ++ after) sub)⟩

section Image

variable {before part after other : TypedCode} (closed : Sealed before part after)
  (distinct : (labels (before ++ (part ++ after))).Nodup) (some : part ≠ [])
  (through : Reaches (before ++ (other ++ after)) (other ++ after) after)

include closed distinct some through

/-- Moves keep the image of a place. -/
theorem Image.moves {place next place' : TypedCode}
    (image : Image before part after other place place')
    (move : Moves (before ++ (part ++ after)) place next) :
    ∃ next', Image before part after other next next' ∧
      Reaches (before ++ (other ++ after)) place' next' := by
  cases image with
  | @before place someBefore sub =>
      match place, someBefore with
      | instruction :: rest, _ =>
          obtain ⟨_, _, same, ⟨rfl, falls⟩ | ⟨op, target, behind, rfl, jumps, rfl, found⟩⟩ :=
            move.cases
          · obtain ⟨rfl, rfl⟩ := List.cons.inj same
            refine ⟨rest ++ (other ++ after), ?_, .single (falls _ _)⟩
            cases rest with
            | nil => exact .inside some List.suffix_rfl
            | cons first rest => exact .before (List.cons_ne_nil _ _) (suffix_of_cons sub)
          · obtain ⟨rfl, -⟩ := List.cons.inj same
            obtain ⟨next', image, move'⟩ := closed.image_of_jump
              (List.mem_append_left _ (mem_of_suffix sub)) jumps found
            exact ⟨next', image, .single (move' _)⟩
  | @inside place someInside sub =>
      obtain ⟨next', rfl, move'⟩ := closed.moves_inside distinct someInside sub move
      by_cases empty : next' = []
      · exact ⟨after, empty ▸ .after List.suffix_rfl, through⟩
      · exact ⟨other ++ after, .inside empty (move'.suffix sub), .refl⟩
  | after sub =>
      obtain ⟨instruction, rest, rfl, ⟨rfl, falls⟩ | ⟨op, target, behind, rfl, jumps, rfl, found⟩⟩ :=
        move.cases
      · exact ⟨next, .after (suffix_of_cons sub), .single (falls _ _)⟩
      · obtain ⟨next', image, move'⟩ := closed.image_of_jump
          (List.mem_append_right _ (mem_of_suffix sub)) jumps found
        exact ⟨next', image, .single (move' _)⟩

theorem Image.reaches {place next place' : TypedCode}
    (image : Image before part after other place place')
    (path : Reaches (before ++ (part ++ after)) place next) :
    ∃ next', Image before part after other next next' ∧
      Reaches (before ++ (other ++ after)) place' next' := by
  induction path with
  | refl => exact ⟨place', image, .refl⟩
  | tail _ move ih =>
      obtain ⟨last, image, path⟩ := ih
      obtain ⟨next', image, path'⟩ := image.moves closed distinct some through move
      exact ⟨next', image, path.trans path'⟩

end Image

section Unique

variable {before part after other place next : TypedCode}

theorem Image.eq_of_before (some : place ≠ [])
    (image : Image before part after other (place ++ (part ++ after)) next) :
    next = place ++ (other ++ after) := by
  generalize same : place ++ (part ++ after) = whole at image
  have long := congrArg List.length same
  have pos := List.length_pos_iff.2 some
  rw [List.length_append, List.length_append] at long
  cases image with
  | before _ _ => rw [List.append_cancel_right same]
  | inside _ sub =>
      have := sub.length_le
      rw [List.length_append] at long
      omega
  | after sub =>
      have := sub.length_le
      omega

theorem Image.eq_of_start (some : part ≠ [])
    (image : Image before part after other (part ++ after) next) : next = other ++ after := by
  generalize same : part ++ after = whole at image
  have long := congrArg List.length same
  have pos := List.length_pos_iff.2 some
  rw [List.length_append] at long
  cases image with
  | before someBefore _ =>
      have := List.length_pos_iff.2 someBefore
      simp only [List.length_append] at long
      omega
  | inside _ _ => rfl
  | after sub =>
      have := sub.length_le
      omega

theorem Image.eq_of_after (placed : place <:+ after)
    (image : Image before part after other place next) : next = place := by
  have short := placed.length_le
  cases image with
  | before some _ =>
      have := List.length_pos_iff.2 some
      simp only [List.length_append] at short
      omega
  | inside some _ =>
      have := List.length_pos_iff.2 some
      simp only [List.length_append] at short
      omega
  | after _ => rfl

end Unique

/-- A part that runs come through, with every instruction reached from its start and left in
some way. -/
structure LivePart (part : TypedCode) : Prop where
  passes : Reaches part part []
  reached : ∀ place, place ≠ [] → place <:+ part → Reaches part part place
  left : ∀ place, place ≠ [] → place <:+ part →
    (∃ last, last ≠ [] ∧ Reaches part place last ∧ Complete last) ∨ Reaches part place []

/-- A sealed part of live code is live, if what comes behind it is no label. -/
theorem Live.part {before part after rest : TypedCode} {instruction : Instruction Invocation}
    (live : Live (before ++ (part ++ after))) (closed : Sealed before part after)
    (distinct : (labels (before ++ (part ++ after))).Nodup) (same : after = instruction :: rest)
    (plain : instruction.label? = none) : LivePart part where
  passes := by
    refine closed.passes distinct same plain (live after ?_ (by simp [same])).1
    exact (List.suffix_append _ _).trans (List.suffix_append _ _)
  reached place some sub := by
    refine closed.reaches_inside distinct (live _ ?_ (by simp [some])).1 rfl some sub
    exact (suffix_append_right after sub).trans (List.suffix_append _ _)
  left place some sub := by
    refine closed.completes distinct (live _ ?_ (by simp [some])).2 rfl sub
    exact (suffix_append_right after sub).trans (List.suffix_append _ _)

/-- Live parts in a row. -/
theorem LivePart.append {first second : TypedCode} (h : LivePart first) (h' : LivePart second) :
    LivePart (first ++ second) := by
  have through : Reaches (first ++ second) (first ++ second) second := h.passes.append [] second
  have later : ∀ {place next}, Reaches second place next →
      Reaches (first ++ second) place next := by
    intro place next path
    simpa using path.append first []
  refine ⟨through.trans (later h'.passes), fun place some placed => ?_,
    fun place some placed => ?_⟩
  · rcases suffix_append_iff.1 placed with sub | ⟨inner, someInner, sub, rfl⟩
    · exact through.trans (later (h'.reached place some sub))
    · exact (h.reached inner someInner sub).append [] second
  · rcases suffix_append_iff.1 placed with sub | ⟨inner, someInner, sub, rfl⟩
    · rcases h'.left place some sub with ⟨last, someLast, path, complete⟩ | path
      · exact Or.inl ⟨last, someLast, later path, complete⟩
      · exact Or.inr (later path)
    · rcases h.left inner someInner sub with ⟨last, someLast, path, complete⟩ | path
      · exact Or.inl ⟨_, by simp [someLast], path.append [] second, complete.append someLast _⟩
      · exact Or.inr ((path.append [] second).trans (later h'.passes))

/-- The start of the code with the other part stands for the start of the code. -/
theorem image_start {before part after other : TypedCode} (some : part ≠ []) :
    Image before part after other (before ++ (part ++ after)) (before ++ (other ++ after)) := by
  by_cases empty : before = []
  · rw [empty]
    exact .inside some List.suffix_rfl
  · exact .before empty List.suffix_rfl

/-- A run that can be completed can be completed with a live part in the place of a sealed part,
provided that there is a place to complete it in the live part if there is one in the sealed
part. -/
theorem Image.completes {before part after other place place' : TypedCode}
    (image : Image before part after other place place') (closed : Sealed before part after)
    (distinct : (labels (before ++ (part ++ after))).Nodup) (some : part ≠ [])
    (livePart : LivePart other)
    (halts : ∀ last, last ≠ [] → last <:+ part → Complete last →
      ∃ last', last' ≠ [] ∧ last' <:+ other ∧ Complete last')
    (h : Completes (before ++ (part ++ after)) place) :
    Completes (before ++ (other ++ after)) place' := by
  obtain ⟨last, path, complete⟩ := h
  obtain ⟨last', image', path'⟩ := image.reaches closed distinct some
    (livePart.passes.append before after) path
  cases image' with
  | before someLast _ => exact ⟨_, path', (complete.congr someLast).append someLast _⟩
  | inside someLast sub =>
      obtain ⟨halt, someHalt, sub', complete'⟩ := halts _ someLast sub (complete.congr someLast)
      have inner := (livePart.reached halt someHalt sub').append before after
      exact ⟨_, path'.trans inner, complete'.append someHalt after⟩
  | after _ => exact ⟨_, path', complete⟩

/-- Live code stays live when a live part takes the place of a sealed part, provided that runs
can be completed in it if they can in the sealed part. -/
theorem Live.replace {before part after other : TypedCode} (live : Live (before ++ (part ++ after)))
    (closed : Sealed before part after) (distinct : (labels (before ++ (part ++ after))).Nodup)
    (some : part ≠ []) (livePart : LivePart other)
    (halts : ∀ last, last ≠ [] → last <:+ part → Complete last →
      ∃ last', last' ≠ [] ∧ last' <:+ other ∧ Complete last') :
    Live (before ++ (other ++ after)) := by
  have completes : ∀ {place place'}, Image before part after other place place' →
      Completes (before ++ (part ++ after)) place →
      Completes (before ++ (other ++ after)) place' := fun image h =>
    image.completes closed distinct some livePart halts h
  have reaches : ∀ {place}, place <:+ before ++ (part ++ after) → place ≠ [] →
      ∃ place', Image before part after other place place' ∧
        Reaches (before ++ (other ++ after)) (before ++ (other ++ after)) place' :=
    fun placed somePlace => (image_start some).reaches closed distinct some
      (livePart.passes.append before after) (live _ placed somePlace).1
  have behind : Completes (before ++ (other ++ after)) after := by
    by_cases empty : after = []
    · exact ⟨after, .refl, empty ▸ .past⟩
    · refine completes (.after List.suffix_rfl) (live after ?_ empty).2
      exact (List.suffix_append _ _).trans (List.suffix_append _ _)
  intro place placed somePlace
  -- The place is behind the part, in it, or before it.
  rcases suffix_append_iff.1 placed with placed | ⟨outer, someOuter, sub, rfl⟩
  · rcases suffix_append_iff.1 placed with last | ⟨inner, someInner, sub, rfl⟩
    · have placed' : place <:+ before ++ (part ++ after) :=
        (last.trans (List.suffix_append _ _)).trans (List.suffix_append _ _)
      obtain ⟨place', image, path⟩ := reaches placed' somePlace
      obtain rfl := image.eq_of_after last
      exact ⟨path, completes (.after last) (live _ placed' somePlace).2⟩
    · obtain ⟨start', image, path⟩ := reaches (List.suffix_append before (part ++ after))
        (by simp [some])
      obtain rfl := image.eq_of_start some
      refine ⟨path.trans ((livePart.reached inner someInner sub).append before after), ?_⟩
      rcases livePart.left inner someInner sub with ⟨halt, someHalt, path', complete⟩ | path'
      · exact ⟨_, path'.append before after, complete.append someHalt after⟩
      · exact behind.of_reaches (path'.append before after)
  · have placed' : outer ++ (part ++ after) <:+ before ++ (part ++ after) :=
      suffix_append_right _ sub
    have somePlace' : outer ++ (part ++ after) ≠ [] := by simp [someOuter]
    obtain ⟨place', image, path⟩ := reaches placed' somePlace'
    obtain rfl := image.eq_of_before someOuter
    exact ⟨path, completes image (live _ placed' somePlace').2⟩

/-! ## Loops without their frame -/

/-- The two parts of the body of a loop, with the label of the loop, its test, its jump back and
the label behind it. -/
def framed (pre post : TypedCode) (head exit : String) (line line' : Option Nat) : TypedCode :=
  .control (.label head) :: (pre ++ .control (.condBranch exit line) ::
    (post ++ [.control (.branch head line'), .control (.label exit)]))

theorem labels_framed (pre post : TypedCode) (head exit : String) (line line' : Option Nat) :
    labels (framed pre post head exit line line') =
      head :: (labels pre ++ (labels post ++ [exit])) := by
  have test : ∀ rest : TypedCode, labels (.control (.condBranch exit line) :: rest) = labels rest :=
    fun _ => rfl
  have back : labels ([.control (.branch head line'), .control (.label exit)] : TypedCode) =
      [exit] := rfl
  rw [framed, labels_label, labels_append, test, labels_append, back]

section Unframe

variable {pre post : TypedCode} {head exit : String} {line line' : Option Nat}

/-- A run that is complete in a loop is complete in a part of its body. -/
theorem exists_complete_of_framed {last : TypedCode} (some : last ≠ [])
    (placed : last <:+ framed pre post head exit line line') (complete : Complete last) :
    ∃ last', last' ≠ [] ∧ last' <:+ pre ++ post ∧ Complete last' := by
  rcases List.suffix_cons_iff.1 placed with rfl | placed
  · cases complete
  rcases suffix_append_iff.1 placed with placed | ⟨inner, someInner, sub, rfl⟩
  · rcases List.suffix_cons_iff.1 placed with rfl | placed
    · cases complete
    rcases suffix_append_iff.1 placed with placed | ⟨inner, someInner, sub, rfl⟩
    · rcases List.suffix_cons_iff.1 placed with rfl | placed
      · cases complete
      rcases List.suffix_cons_iff.1 placed with rfl | placed
      · cases complete
      · exact absurd (List.suffix_nil.1 placed) some
    · exact ⟨inner, someInner, sub.trans (List.suffix_append _ _), complete.congr someInner⟩
  · exact ⟨inner ++ post, by simp [someInner], suffix_append_right post sub,
      (complete.congr someInner).append someInner post⟩

/-- Live code stays live without the frame of a loop. -/
theorem Live.unframe {before after : TypedCode}
    (live : Live (before ++ (framed pre post head exit line line' ++ after)))
    (distinct : (labels (before ++ (framed pre post head exit line line' ++ after))).Nodup)
    (loop : Sealed before (framed pre post head exit line line') after)
    (first : Sealed (before ++ [.control (.label head)]) pre
      (.control (.condBranch exit line) ::
        (post ++ .control (.branch head line') :: .control (.label exit) :: after)))
    (second : Sealed (before ++ .control (.label head) ::
        (pre ++ [.control (.condBranch exit line)])) post
      (.control (.branch head line') :: .control (.label exit) :: after)) :
    Live (before ++ ((pre ++ post) ++ after)) := by
  have atPre : before ++ (framed pre post head exit line line' ++ after) =
      (before ++ [.control (.label head)]) ++ (pre ++ .control (.condBranch exit line) ::
        (post ++ .control (.branch head line') :: .control (.label exit) :: after)) := by
    simp [framed]
  have atPost : before ++ (framed pre post head exit line line' ++ after) =
      (before ++ .control (.label head) :: (pre ++ [.control (.condBranch exit line)])) ++
        (post ++ .control (.branch head line') :: .control (.label exit) :: after) := by
    simp [framed]
  have livePre : LivePart pre := (atPre ▸ live).part first (atPre ▸ distinct) rfl rfl
  have livePost : LivePart post := (atPost ▸ live).part second (atPost ▸ distinct) rfl rfl
  exact live.replace loop distinct (List.cons_ne_nil _ _) (livePre.append livePost)
    fun _ => exists_complete_of_framed

end Unframe

end CallSearch.Code
