/-
# CallSearch.Proofs.Path.Queue — walks followed one move at a time

The ends of all walks through a level are listed by one recursion.  Here the same walks
are followed one move at a time: a queue holds the walks under way, its first walk makes
a move, and the other ways out of a fork wait in front of the walks already waiting.  Each
walk counts how often it passed a label and how often it took a jump back.

* `settles_ends`: whatever waits behind it, a walk is over after some moves, and the ends
  found are those of the recursion;
* `Queue.yields_iff`: so the queue of a level runs empty, and leaves the paths of the level.
-/
import CallSearch.Proofs.Path.Walk
import Mathlib.Logic.Function.Iterate

namespace CallSearch

set_option autoImplicit false

namespace Level

/-- The level whose walks end in certain ways. -/
def ofEnds (ends : List WalkEnd) : Level where
  through := sortUnique (ends.filterMap fun | .through path => some path | .exit _ => none)
  exits := sortUnique (ends.filterMap fun | .exit path => some path | .through _ => none)

/-- The order in which ends are found leaves no trace. -/
theorem ofEnds_congr {first second : List WalkEnd} (same : ∀ last, last ∈ first ↔ last ∈ second) :
    ofEnds first = ofEnds second := by
  rw [ofEnds, ofEnds]
  congr 1
  · exact sortUnique_congr fun path => by simp only [List.mem_filterMap, same]
  · exact sortUnique_congr fun path => by simp only [List.mem_filterMap, same]

end Level

namespace Walk

/-! ## Walks under way -/

/-- A walk that has not ended. -/
structure Pending where
  position : Nat
  /-- The steps so far, newest first. -/
  trail : Path
  /-- For each position, how often the walk passed the label or took the jump back there. -/
  visits : List Nat

namespace Pending

/-- How often a walk passed a position. -/
def visitsAt (walk : Pending) (position : Nat) : Nat := walk.visits.getD position 0

/-- The walk at another position. -/
def goTo (walk : Pending) (position : Nat) : Pending := { walk with position }

/-- The walk behind a region that adds a step to it. -/
def add (walk : Pending) (step : Step) : Pending :=
  { walk with position := walk.position + 1, trail := step :: walk.trail }

/-- The walk with the pass of its position counted. -/
def count (walk : Pending) : Pending :=
  { walk with visits := walk.visits.modify walk.position (· + 1) }

/-- The walk at each of some labels that it did not pass yet, in the order of their places. -/
def forks (stages : List Stage) (targets : List String) (walk : Pending) : List Pending :=
  ((sortUnique (targets.filterMap (labelIndex? · stages))).filter
    (walk.visitsAt · == 0)).map walk.goTo

end Pending

/-- Walks under way, the one to follow next first, and the ends found so far. -/
structure Queue where
  pending : List Pending
  found : List WalkEnd

/-- Where a walk goes in one move, and the ends it finds. -/
def move (stages : List Stage) (walk : Pending) : Queue :=
  match stages[walk.position]? with
  | none => ⟨[], [.through walk.trail.reverse]⟩
  | some (.block calls) => ⟨[walk.add (.block calls)], []⟩
  | some (.box through exits) =>
      ⟨if through.isEmpty then [] else [walk.add (.nested through)],
        if exits.isEmpty then [] else [.exit (.nested exits :: walk.trail).reverse]⟩
  | some (.control (.ret _)) => ⟨[], [.exit walk.trail.reverse]⟩
  | some (.control (.throw _)) => ⟨[], [.exit walk.trail.reverse]⟩
  | some (.control (.condBranch target _)) =>
      ⟨walk.goTo (walk.position + 1) :: walk.forks stages [target], []⟩
  | some (.control (.branch target _)) =>
      match labelIndex? target stages with
      | none => ⟨[], []⟩
      | some label =>
          if label < walk.position then
            if walk.visitsAt walk.position < backPasses then
              ⟨[walk.count.goTo (label + 1)], []⟩
            else ⟨[], []⟩
          else ⟨[walk.goTo label], []⟩
  | some (.control (.multiBranch targets _)) => ⟨(walk.forks stages targets).reverse, []⟩
  | some (.control (.label _)) =>
      if walk.visitsAt walk.position = 0 then ⟨[walk.count.goTo (walk.position + 1)], []⟩
      else ⟨[], []⟩

section Move

variable {stages : List Stage} {target : String} {line : Option Nat}

theorem move_past (walk : Pending) (past : stages.length ≤ walk.position) :
    move stages walk = ⟨[], [.through walk.trail.reverse]⟩ := by
  simp only [move, List.getElem?_eq_none past]

theorem move_block (walk : Pending) {calls : List Invocation}
    (here : stages[walk.position]? = some (.block calls)) :
    move stages walk = ⟨[walk.add (.block calls)], []⟩ := by
  simp only [move, here]

theorem move_box (walk : Pending) {through exits : List Path}
    (here : stages[walk.position]? = some (.box through exits)) :
    move stages walk = ⟨if through.isEmpty then [] else [walk.add (.nested through)],
      if exits.isEmpty then [] else [.exit (.nested exits :: walk.trail).reverse]⟩ := by
  simp only [move, here]

theorem move_ret (walk : Pending)
    (here : stages[walk.position]? = some (.control (.ret line))) :
    move stages walk = ⟨[], [.exit walk.trail.reverse]⟩ := by
  simp only [move, here]

theorem move_throw (walk : Pending)
    (here : stages[walk.position]? = some (.control (.throw line))) :
    move stages walk = ⟨[], [.exit walk.trail.reverse]⟩ := by
  simp only [move, here]

theorem move_condBranch (walk : Pending)
    (here : stages[walk.position]? = some (.control (.condBranch target line))) :
    move stages walk = ⟨walk.goTo (walk.position + 1) :: walk.forks stages [target], []⟩ := by
  simp only [move, here]

theorem move_branch (walk : Pending)
    (here : stages[walk.position]? = some (.control (.branch target line))) :
    move stages walk = match labelIndex? target stages with
      | none => ⟨[], []⟩
      | some label =>
          if label < walk.position then
            if walk.visitsAt walk.position < backPasses then
              ⟨[walk.count.goTo (label + 1)], []⟩
            else ⟨[], []⟩
          else ⟨[walk.goTo label], []⟩ := by
  simp only [move, here]

theorem move_multiBranch (walk : Pending) {targets : List String}
    (here : stages[walk.position]? = some (.control (.multiBranch targets line))) :
    move stages walk = ⟨(walk.forks stages targets).reverse, []⟩ := by
  simp only [move, here]

theorem move_label (walk : Pending) {name : String}
    (here : stages[walk.position]? = some (.control (.label name))) :
    move stages walk = if walk.visitsAt walk.position = 0 then
      ⟨[walk.count.goTo (walk.position + 1)], []⟩ else ⟨[], []⟩ := by
  simp only [move, here]

end Move

namespace Queue

/-- One walk at the start of a level, with no position passed. -/
def start (stages : List Stage) : Queue := ⟨[⟨0, [], List.replicate stages.length 0⟩], []⟩

/-- The queue after one more move; an empty queue stays as it is. -/
def step (stages : List Stage) : Queue → Queue
  | ⟨[], found⟩ => ⟨[], found⟩
  | ⟨walk :: rest, found⟩ =>
      ⟨(move stages walk).pending ++ rest, (move stages walk).found ++ found⟩

/-- The queue of a level runs empty, with the ends of some paths. -/
def Yields (stages : List Stage) (level : Level) : Prop :=
  ∃ steps, ((step stages)^[steps] (start stages)).pending = [] ∧
    Level.ofEnds ((step stages)^[steps] (start stages)).found = level

end Queue

/-! ## The end of a walk -/

section Settles

variable {stages : List Stage} {walks : List Pending} {walk : Pending} {ends : WalkEnd → Prop}

/-- After some moves the walks are over with certain ends, whatever waits behind them. -/
def Settles (stages : List Stage) (walks : List Pending) (ends : WalkEnd → Prop) : Prop :=
  ∃ steps found, (∀ last, last ∈ found ↔ ends last) ∧ ∀ rest before,
    (Queue.step stages)^[steps] ⟨walks ++ rest, before⟩ = ⟨rest, found ++ before⟩

theorem Settles.congr {ends' : WalkEnd → Prop} (settles : Settles stages walks ends)
    (same : ∀ last, ends last ↔ ends' last) : Settles stages walks ends' := by
  obtain rfl : ends = ends' := funext fun last => propext (same last)
  exact settles

theorem settles_nil : Settles stages [] fun _ => False := ⟨0, [], by simp, fun _ _ => rfl⟩

theorem Settles.append {others : List Pending} {ends' : WalkEnd → Prop}
    (first : Settles stages walks ends) (second : Settles stages others ends') :
    Settles stages (walks ++ others) fun last => ends last ∨ ends' last := by
  obtain ⟨steps, found, mem, run⟩ := first
  obtain ⟨steps', found', mem', run'⟩ := second
  refine ⟨steps' + steps, found' ++ found, fun last => ?_, fun rest before => ?_⟩
  · rw [List.mem_append, mem, mem', or_comm]
  · rw [Function.iterate_add_apply, List.append_assoc, run, run', List.append_assoc]

/-- A walk is over when what it goes on as is. -/
theorem Settles.of_move {found : List WalkEnd} (go : move stages walk = ⟨walks, found⟩)
    (settles : Settles stages walks ends) :
    Settles stages [walk] fun last => last ∈ found ∨ ends last := by
  obtain ⟨steps, found', mem, run⟩ := settles
  refine ⟨steps + 1, found' ++ found, fun last => ?_, fun rest before => ?_⟩
  · rw [List.mem_append, mem, or_comm]
  · rw [Function.iterate_succ_apply, List.cons_append, Queue.step, go, List.append_assoc]
    exact run rest _

theorem settles_all (each : Pending → WalkEnd → Prop)
    (settles : ∀ walk ∈ walks, Settles stages [walk] (each walk)) :
    Settles stages walks fun last => ∃ walk ∈ walks, each walk last := by
  induction walks with
  | nil => exact settles_nil.congr fun last => by simp
  | cons walk walks ih =>
      have first := settles walk List.mem_cons_self
      have rest := ih fun other mem => settles other (List.mem_cons_of_mem _ mem)
      exact (first.append rest).congr fun last => by simp

end Settles

/-! ## Counts and marks -/

/-- Counts that say how often each position of a level is marked. -/
structure Agrees (size : Nat) (visits marks : List Nat) : Prop where
  length : visits.length = size
  count : ∀ position, visits.getD position 0 = marks.count position

theorem Agrees.start (size : Nat) : Agrees size (List.replicate size 0) [] where
  length := List.length_replicate
  count position := by
    rw [List.getD_eq_getElem?_getD, List.getElem?_replicate]
    split <;> rfl

/-- Counting a pass is marking the position. -/
theorem Agrees.mark {size position : Nat} {visits marks : List Nat}
    (agrees : Agrees size visits marks) (inside : position < size) :
    Agrees size (visits.modify position (· + 1)) (position :: marks) where
  length := (List.length_modify _ _ _).trans agrees.length
  count other := by
    have before := agrees.count other
    rw [List.getD_eq_getElem?_getD] at before ⊢
    rw [List.getElem?_modify, List.count_cons]
    by_cases same : position = other
    · subst same
      rw [List.getElem?_eq_getElem (agrees.length ▸ inside)] at before ⊢
      simp at before ⊢
      exact before
    · cases there : visits[other]? <;> simp [there, same] at before ⊢ <;> exact before

theorem Agrees.visitsAt {size position place : Nat} {trail : Path} {visits marks : List Nat}
    (agrees : Agrees size visits marks) :
    (Pending.mk position trail visits).visitsAt place = marks.count place :=
  agrees.count place

section Moves

variable {stages : List Stage} {position place size : Nat} {trail : Path} {visits marks : List Nat}

theorem labelIndex?_eq_some {name : String} (found : labelIndex? name stages = some place) :
    stages[place]? = some (.control (.label name)) := by
  induction stages generalizing place with
  | nil => cases found
  | cons stage rest ih =>
      rw [labelIndex?] at found
      split at found
      · next later =>
        cases found
        exact ih later
      · split at found
        · next here =>
          cases found
          unfold isLabel at here
          split at here
          · simpa using here
          · cases here
        · cases found

theorem mem_forks {walk next : Pending} {targets : List String} :
    next ∈ walk.forks stages targets ↔ ∃ target ∈ targets, ∃ place,
      labelIndex? target stages = some place ∧ walk.visitsAt place = 0 ∧
        next = walk.goTo place := by
  simp only [Pending.forks, List.mem_map, List.mem_filter, mem_sortUnique, List.mem_filterMap,
    beq_iff_eq]
  constructor
  · rintro ⟨place, ⟨⟨target, mem, found⟩, fresh⟩, rfl⟩
    exact ⟨target, mem, place, found, fresh, rfl⟩
  · rintro ⟨target, mem, place, found, fresh, rfl⟩
    exact ⟨place, ⟨⟨target, mem, found⟩, fresh⟩, rfl⟩

/-- A walk that comes to a label goes on behind it, or is over if it passed it before. -/
theorem settles_label {name : String} {ends : WalkEnd → Prop}
    (there : stages[place]? = some (.control (.label name))) (agrees : Agrees size visits marks)
    (behind : place ∉ marks →
      Settles stages [⟨place + 1, trail, visits.modify place (· + 1)⟩] ends) :
    Settles stages [⟨place, trail, visits⟩] fun last => place ∉ marks ∧ ends last := by
  have go := move_label ⟨place, trail, visits⟩ there
  simp only [agrees.visitsAt, List.count_eq_zero] at go
  by_cases fresh : place ∉ marks
  · rw [if_pos fresh] at go
    exact ((behind fresh).of_move go).congr fun last => by simp [fresh]
  · rw [if_neg fresh] at go
    exact (settles_nil.of_move go).congr fun last => by simp [fresh]

/-- The walks that a jump forks are over with the ends behind its labels. -/
theorem settles_forks (position : Nat) (targets : List String) {forks : List Pending}
    (agrees : Agrees size visits marks)
    (same : ∀ next, next ∈ forks ↔ next ∈ (Pending.mk position trail visits).forks stages targets)
    (settles : ∀ target ∈ targets, ∀ place, labelIndex? target stages = some place → place ∉ marks →
      Settles stages [⟨place + 1, trail, visits.modify place (· + 1)⟩]
        (· ∈ ends stages (place + 1) trail (place :: marks))) :
    Settles stages forks fun last => ∃ target ∈ targets, ∃ place,
      labelIndex? target stages = some place ∧ place ∉ marks ∧
        last ∈ ends stages (place + 1) trail (place :: marks) := by
  have listed : ∀ next, next ∈ forks ↔ ∃ target ∈ targets, ∃ place,
      labelIndex? target stages = some place ∧ place ∉ marks ∧ next = ⟨place, trail, visits⟩ := by
    intro next
    simp only [same, mem_forks, agrees.visitsAt, List.count_eq_zero, Pending.goTo]
  refine (settles_all (fun next last => next.position ∉ marks ∧
    last ∈ ends stages (next.position + 1) trail (next.position :: marks)) ?_).congr fun last => ?_
  · intro next mem
    obtain ⟨target, jumps, place, found, -, rfl⟩ := (listed next).1 mem
    exact settles_label (labelIndex?_eq_some found) agrees (settles target jumps place found)
  · constructor
    · rintro ⟨next, mem, fresh, reached⟩
      obtain ⟨target, jumps, place, found, -, rfl⟩ := (listed next).1 mem
      exact ⟨target, jumps, place, found, fresh, reached⟩
    · rintro ⟨target, jumps, place, found, fresh, reached⟩
      exact ⟨_, (listed _).2 ⟨target, jumps, place, found, fresh, rfl⟩, fresh, reached⟩

/-- A walk at a jump that is always taken is over with the ends behind its label. -/
theorem settles_branch {target : String} {line : Option Nat}
    (here : stages[position]? = some (.control (.branch target line)))
    (agrees : Agrees size visits marks)
    (back : ∀ place, labelIndex? target stages = some place → place < position →
      marks.count position < backPasses →
      Settles stages [⟨place + 1, trail, visits.modify position (· + 1)⟩]
        (· ∈ ends stages (place + 1) trail (position :: marks)))
    (forward : ∀ place, labelIndex? target stages = some place → position ≤ place → place ∉ marks →
      Settles stages [⟨place + 1, trail, visits.modify place (· + 1)⟩]
        (· ∈ ends stages (place + 1) trail (place :: marks))) :
    Settles stages [⟨position, trail, visits⟩] (· ∈ ends stages position trail marks) := by
  have go := move_branch ⟨position, trail, visits⟩ here
  cases found : labelIndex? target stages with
  | none =>
      simp only [found] at go
      exact (settles_nil.of_move go).congr fun last => by simp [mem_ends_branch here, found]
  | some place =>
      simp only [found, agrees.visitsAt] at go
      by_cases before : place < position
      · rw [if_pos before] at go
        by_cases room : marks.count position < backPasses
        · rw [if_pos room] at go
          exact ((back place found before room).of_move go).congr fun last => by
            simp [mem_ends_branch here, found, before, room, Nat.not_le.2 before]
        · rw [if_neg room] at go
          exact (settles_nil.of_move go).congr fun last => by
            simp [mem_ends_branch here, found, room, Nat.not_le.2 before]
      · rw [if_neg before] at go
        have ahead := Nat.le_of_not_lt before
        have arrived := settles_label (labelIndex?_eq_some found) agrees (forward place found ahead)
        exact (arrived.of_move go).congr fun last => by
          simp [mem_ends_branch here, found, before, ahead]

/-- A walk is over with the ends that the recursion lists for it. -/
theorem settles_ends (stages : List Stage) (position : Nat) (trail : Path) {visits marks : List Nat}
    (agrees : Agrees stages.length visits marks) :
    Settles stages [⟨position, trail, visits⟩] (· ∈ ends stages position trail marks) := by
  induction position, trail, marks using ends_induction stages generalizing visits with
  | past position trail marks past =>
      exact (settles_nil.of_move (move_past _ past)).congr fun last => by simp [mem_ends_past past]
  | block position trail marks calls here ih =>
      exact ((ih agrees).of_move (move_block _ here)).congr fun last => by
        simp [mem_ends_block here]
  | box position trail marks through exits here ih =>
      have go := move_box ⟨position, trail, visits⟩ here
      by_cases none : through = []
      · rw [if_pos (List.isEmpty_iff.2 none)] at go
        refine (settles_nil.of_move go).congr fun last => ?_
        by_cases exits = [] <;> simp [mem_ends_box here, *]
      · rw [if_neg (mt List.isEmpty_iff.1 none)] at go
        refine ((ih agrees).of_move go).congr fun last => ?_
        by_cases exits = [] <;> simp [mem_ends_box here, *]
  | ret position trail marks line here =>
      exact (settles_nil.of_move (move_ret _ here)).congr fun last => by simp [mem_ends_ret here]
  | throw position trail marks line here =>
      exact (settles_nil.of_move (move_throw _ here)).congr fun last => by
        simp [mem_ends_throw here]
  | condBranch position trail marks target line here ihJump ihFall =>
      have forks := settles_forks position [target] agrees
        (fun _ => Iff.rfl) (by
          intro other listed place found fresh
          obtain rfl := List.mem_singleton.1 listed
          exact ihJump place found fresh (agrees.mark (labelIndex?_lt found)))
      exact (((ihFall agrees).append forks).of_move (move_condBranch _ here)).congr fun last => by
        simp [mem_ends_condBranch here, or_comm]
  | branch position trail marks target line here ihBack ihForward =>
      have inside := (List.getElem?_eq_some_iff.1 here).1
      exact settles_branch here agrees
        (fun place found before room => ihBack place found before room (agrees.mark inside))
        (fun place found ahead fresh =>
          ihForward place found ahead fresh (agrees.mark (labelIndex?_lt found)))
  | multiBranch position trail marks targets line here ih =>
      have forks := settles_forks position targets agrees
        (fun _ => List.mem_reverse) (fun target listed place found fresh =>
          ih target listed place found fresh (agrees.mark (labelIndex?_lt found)))
      exact (forks.of_move (move_multiBranch _ here)).congr fun last => by
        simp [mem_ends_multiBranch here]
  | label position trail marks name here ih =>
      have inside := (List.getElem?_eq_some_iff.1 here).1
      exact (settles_label here agrees fun fresh => ih fresh (agrees.mark inside)).congr
        fun last => by rw [mem_ends_label here]

end Moves

/-! ## The end of the queue -/

namespace Queue

variable {stages : List Stage}

theorem step_of_pending_eq_nil {queue : Queue} (none : queue.pending = []) :
    step stages queue = queue := by
  match queue, none with
  | ⟨[], found⟩, _ => rfl

/-- However long an empty queue is followed, it is the same. -/
theorem iterate_step_unique {queue : Queue} {first second : Nat}
    (h : ((step stages)^[first] queue).pending = [])
    (h' : ((step stages)^[second] queue).pending = []) :
    (step stages)^[first] queue = (step stages)^[second] queue := by
  wlog le : first ≤ second generalizing first second
  · exact (this h' h (Nat.le_of_not_le le)).symm
  · obtain ⟨more, rfl⟩ := Nat.exists_eq_add_of_le' le
    rw [Function.iterate_add_apply, Function.iterate_fixed (step_of_pending_eq_nil h)]

/-- The queue of a level runs empty, with the ends that the recursion lists. -/
theorem exists_iterate_start (stages : List Stage) :
    ∃ steps found, (step stages)^[steps] (start stages) = ⟨[], found⟩ ∧
      ∀ last, last ∈ found ↔ last ∈ ends stages 0 [] [] := by
  obtain ⟨steps, found, mem, run⟩ := settles_ends stages 0 [] (Agrees.start stages.length)
  refine ⟨steps, found, ?_, mem⟩
  have all := run [] []
  rwa [List.append_nil, List.append_nil] at all

/-- The queue of a level leaves the paths of the level. -/
theorem yields_iff {level : Level} : Yields stages level ↔ level = Level.ofStages stages := by
  obtain ⟨steps, found, empties, mem⟩ := exists_iterate_start stages
  have paths : Level.ofEnds found = Level.ofStages stages := Level.ofEnds_congr mem
  constructor
  · rintro ⟨steps', none, rfl⟩
    rw [iterate_step_unique none (congrArg pending empties), empties, paths]
  · rintro rfl
    exact ⟨steps, congrArg pending empties, by rw [empties, paths]⟩

end Queue

end Walk

end CallSearch
