/-
# CallSearch.Proofs.Path.Bounds — enumerating paths ends, with bounded paths

A walk passes a label once and takes a jump back twice (`limit`).  Between two passes it
only goes forward, but for a jump to a label, which the next pass pays for.  So the trail
is at most once through the level for each pass and once more (`Pending.Sound`).

* `Pending.comesTo_move`: what a walk can do in one move;
* `Pending.Sound.move`: a move keeps passes and trail within their limits;
* `Region.level_ends`: the queue of a level runs empty with the paths of the level, no
  count exceeds 2, and the paths are bounded.
-/
import CallSearch.Proofs.Code.Simplify
import CallSearch.Proofs.Path.Queue
import Mathlib.Algebra.Order.BigOperators.Group.List
import Mathlib.Algebra.Order.Ring.Nat

namespace CallSearch

set_option autoImplicit false

/-- The path a walk ended with. -/
def WalkEnd.path : WalkEnd → Path
  | .through path => path
  | .exit path => path

theorem Ending.path_of (ending : Region.Ending) (path : Path) : (ending.of path).path = path := by
  cases ending <;> rfl

namespace Walk

/-! ## What a move can do -/

/-- How often a walk may pass a label or take a jump back. -/
def limit : Stage → Nat
  | .control (.label _) => 1
  | .control (.branch _ _) => backPasses
  | _ => 0

theorem limit_le_two (stage : Stage) : limit stage ≤ 2 := by
  unfold limit
  split <;> simp [backPasses]

namespace Pending

/-- Whether a walk stands at a label. -/
def AtLabel (stages : List Stage) (walk : Pending) : Prop :=
  ∃ name, stages[walk.position]? = some (.control (.label name))

/-- The moves of a walk. -/
inductive Moves (stages : List Stage) (walk : Pending) : Pending → Prop
  /-- Over a region that adds a step. -/
  | add {step : Step} : walk.position < stages.length → ¬ walk.AtLabel stages →
      Moves stages walk (walk.add step)
  /-- To the next region. -/
  | next : walk.position < stages.length → ¬ walk.AtLabel stages →
      Moves stages walk (walk.goTo (walk.position + 1))
  /-- To a label. -/
  | jump {place : Nat} : (walk.goTo place).AtLabel stages → Moves stages walk (walk.goTo place)
  /-- Anywhere, at the price of one of the passes that are left. -/
  | count {stage : Stage} {place : Nat} : stages[walk.position]? = some stage →
      walk.visitsAt walk.position < limit stage → place ≤ stages.length →
      Moves stages walk (walk.count.goTo place)

variable {stages : List Stage} {walk next : Pending}

theorem not_atLabel {stage : Stage} (here : stages[walk.position]? = some stage)
    (other : ∀ name, stage ≠ .control (.label name)) : ¬ walk.AtLabel stages := by
  rintro ⟨name, same⟩
  exact other name (Option.some.inj (here.symm.trans same))

theorem moves_of_mem_forks {targets : List String} (mem : next ∈ walk.forks stages targets) :
    Moves stages walk next := by
  obtain ⟨target, -, place, found, -, rfl⟩ := mem_forks.1 mem
  exact .jump ⟨target, labelIndex?_eq_some found⟩

/-- What a move comes to: walks that the walk moves to, and ends whose path is its trail, or the
trail and the step for leaving a box. -/
structure ComesTo (stages : List Stage) (walk : Pending) (queue : Queue) : Prop where
  pending : ∀ next ∈ queue.pending, Moves stages walk next
  found : ∀ last ∈ queue.found, last.path.length ≤ walk.trail.length ∨
    walk.position < stages.length ∧ ¬ walk.AtLabel stages ∧
      last.path.length = walk.trail.length + 1

theorem comesTo_walks {pending : List Pending} (moves : ∀ next ∈ pending, Moves stages walk next) :
    ComesTo stages walk ⟨pending, []⟩ where
  pending := moves
  found _ mem := absurd mem List.not_mem_nil

theorem comesTo_walk (moves : Moves stages walk next) : ComesTo stages walk ⟨[next], []⟩ :=
  comesTo_walks fun _ mem => List.mem_singleton.1 mem ▸ moves

theorem comesTo_nothing : ComesTo stages walk ⟨[], []⟩ :=
  comesTo_walks fun _ mem => absurd mem List.not_mem_nil

theorem comesTo_end {last : WalkEnd} (same : last.path = walk.trail.reverse) :
    ComesTo stages walk ⟨[], [last]⟩ where
  pending _ mem := absurd mem List.not_mem_nil
  found other mem := by
    obtain rfl := List.mem_singleton.1 mem
    exact Or.inl (by rw [same, List.length_reverse])

theorem comesTo_box {through exits : List Path}
    (here : stages[walk.position]? = some (.box through exits)) :
    ComesTo stages walk (move stages walk) := by
  have inside := (List.getElem?_eq_some_iff.1 here).1
  have other := not_atLabel here (by simp)
  rw [move_box _ here]
  constructor
  · intro next mem
    split at mem
    · cases mem
    · exact List.mem_singleton.1 mem ▸ .add inside other
  · intro last mem
    dsimp only at mem
    split at mem
    · cases mem
    · obtain rfl := List.mem_singleton.1 mem
      refine Or.inr ⟨inside, other, ?_⟩
      rw [WalkEnd.path, List.length_reverse, List.length_cons]

theorem comesTo_move (walk : Pending) : ComesTo stages walk (move stages walk) := by
  cases here : stages[walk.position]? with
  | none =>
      rw [move_past _ (List.getElem?_eq_none_iff.1 here)]
      exact comesTo_end rfl
  | some stage =>
      have inside := (List.getElem?_eq_some_iff.1 here).1
      match stage with
      | .block calls =>
          rw [move_block _ here]
          exact comesTo_walk (.add inside (not_atLabel here (by simp)))
      | .box through exits => exact comesTo_box here
      | .control (.ret line) =>
          rw [move_ret _ here]
          exact comesTo_end rfl
      | .control (.throw line) =>
          rw [move_throw _ here]
          exact comesTo_end rfl
      | .control (.condBranch target line) =>
          rw [move_condBranch _ here]
          refine comesTo_walks fun next mem => ?_
          rcases List.mem_cons.1 mem with rfl | forked
          · exact .next inside (not_atLabel here (by simp))
          · exact moves_of_mem_forks forked
      | .control (.branch target line) =>
          rw [move_branch _ here]
          split
          · exact comesTo_nothing
          · next place found =>
            split
            · split
              · next room => exact comesTo_walk (.count here room (labelIndex?_lt found))
              · exact comesTo_nothing
            · exact comesTo_walk (.jump ⟨target, labelIndex?_eq_some found⟩)
      | .control (.multiBranch targets line) =>
          rw [move_multiBranch _ here]
          exact comesTo_walks fun next mem => moves_of_mem_forks (List.mem_reverse.1 mem)
      | .control (.label name) =>
          rw [move_label _ here]
          split
          · next fresh =>
            exact comesTo_walk (.count here (by rw [fresh]; exact Nat.one_pos) inside)
          · exact comesTo_nothing

/-! ## What a run keeps -/

/-- Each pass is within the limit of its region, and the trail is within what the passes allow: it
grows only while the walk goes forward, and between two passes that is once through the level.
A walk that jumped to a label pays for it with the next pass. -/
structure Sound (stages : List Stage) (walk : Pending) : Prop where
  visits : List.Forall₂ (· ≤ ·) walk.visits (stages.map limit)
  inside : walk.position ≤ stages.length
  trail : walk.trail.length ≤ walk.visits.sum * stages.length + walk.position ∨
    walk.AtLabel stages ∧ walk.trail.length ≤ (walk.visits.sum + 1) * stages.length

theorem Sound.trail_le (sound : Sound stages walk) :
    walk.trail.length ≤ (walk.visits.sum + 1) * stages.length := by
  rcases sound.trail with forward | ⟨-, jumped⟩
  · have := sound.inside
    rw [Nat.add_one_mul]
    omega
  · exact jumped

theorem Sound.trail_le_of_not_atLabel (sound : Sound stages walk)
    (other : ¬ walk.AtLabel stages) :
    walk.trail.length ≤ walk.visits.sum * stages.length + walk.position :=
  sound.trail.resolve_right fun ⟨label, _⟩ => other label

theorem Sound.sum_visits_le (sound : Sound stages walk) :
    walk.visits.sum ≤ (stages.map limit).sum :=
  sound.visits.sum_le_sum

theorem Sound.visits_le_two (sound : Sound stages walk) : ∀ passes ∈ walk.visits, passes ≤ 2 := by
  have each : ∀ {visits limits : List Nat}, List.Forall₂ (· ≤ ·) visits limits →
      (∀ most ∈ limits, most ≤ 2) → ∀ passes ∈ visits, passes ≤ 2 := by
    intro visits limits within small
    induction within with
    | nil => simp
    | cons first _ ih =>
        rw [List.forall_mem_cons] at small ⊢
        exact ⟨Nat.le_trans first small.1, ih small.2⟩
  refine each sound.visits fun most mem => ?_
  obtain ⟨stage, -, rfl⟩ := List.mem_map.1 mem
  exact limit_le_two stage

theorem sum_modify {visits : List Nat} {position : Nat} (inside : position < visits.length) :
    (visits.modify position (· + 1)).sum = visits.sum + 1 := by
  induction visits generalizing position with
  | nil => cases inside
  | cons first visits ih =>
      cases position with
      | zero => simp [Nat.add_right_comm]
      | succ position =>
          have := ih (Nat.lt_of_succ_lt_succ inside)
          simp [this, Nat.add_assoc]

theorem forall₂_modify {visits limits : List Nat} {position most : Nat}
    (within : List.Forall₂ (· ≤ ·) visits limits) (here : limits[position]? = some most)
    (room : visits.getD position 0 < most) :
    List.Forall₂ (· ≤ ·) (visits.modify position (· + 1)) limits := by
  induction within generalizing position with
  | nil => cases here
  | cons first _ ih =>
      cases position with
      | zero =>
          cases here
          exact .cons room ‹_›
      | succ position => exact .cons first (ih here room)

/-- A move keeps passes and trail within their limits. -/
theorem Sound.move (sound : Sound stages walk) (mem : next ∈ (move stages walk).pending) :
    Sound stages next := by
  cases (comesTo_move walk).pending next mem with
  | add inside other =>
      refine ⟨sound.visits, inside, Or.inl ?_⟩
      have := sound.trail_le_of_not_atLabel other
      exact Nat.succ_le_succ this
  | next inside other =>
      refine ⟨sound.visits, inside, Or.inl ?_⟩
      exact Nat.le_succ_of_le (sound.trail_le_of_not_atLabel other)
  | jump label =>
      obtain ⟨name, there⟩ := label
      exact ⟨sound.visits, (List.getElem?_eq_some_iff.1 there).1.le, Or.inr ⟨⟨name, there⟩,
        sound.trail_le⟩⟩
  | @count stage place here room inside =>
      have there : (stages.map limit)[walk.position]? = some (limit stage) := by
        rw [List.getElem?_map, here, Option.map_some]
      have passed : walk.position < walk.visits.length := by
        rw [sound.visits.length_eq]
        exact (List.getElem?_eq_some_iff.1 there).1
      refine ⟨forall₂_modify sound.visits there room, inside, Or.inl ?_⟩
      have grown : (walk.count.goTo place).visits.sum = walk.visits.sum + 1 := sum_modify passed
      rw [grown]
      exact Nat.le_add_right_of_le sound.trail_le

/-- The path of an end that a move finds is within the limit. -/
theorem Sound.length_le (sound : Sound stages walk) {last : WalkEnd}
    (mem : last ∈ (Walk.move stages walk).found) :
    last.path.length ≤ ((stages.map limit).sum + 1) * stages.length := by
  have most : (walk.visits.sum + 1) * stages.length ≤
      ((stages.map limit).sum + 1) * stages.length :=
    Nat.mul_le_mul_right _ (Nat.succ_le_succ sound.sum_visits_le)
  refine Nat.le_trans ?_ most
  rcases (comesTo_move walk).found last mem with short | ⟨inside, other, left⟩
  · exact Nat.le_trans short sound.trail_le
  · have := sound.trail_le_of_not_atLabel other
    rw [left, Nat.add_one_mul]
    omega

end Pending

namespace Queue

variable {stages : List Stage} {queue : Queue}

/-- Walks and ends are within their limits. -/
structure Sound (stages : List Stage) (queue : Queue) : Prop where
  pending : ∀ walk ∈ queue.pending, walk.Sound stages
  found : ∀ last ∈ queue.found,
    last.path.length ≤ ((stages.map limit).sum + 1) * stages.length

theorem sound_start (stages : List Stage) : (start stages).Sound stages where
  pending walk mem := by
    obtain rfl := List.mem_singleton.1 mem
    refine ⟨?_, Nat.zero_le _, Or.inl (Nat.zero_le _)⟩
    show List.Forall₂ (· ≤ ·) (List.replicate stages.length 0) (stages.map limit)
    induction stages with
    | nil => exact .nil
    | cons stage stages ih => exact .cons (Nat.zero_le _) (ih List.mem_cons_self)
  found last mem := nomatch mem

theorem Sound.step (sound : queue.Sound stages) : (step stages queue).Sound stages := by
  match queue with
  | ⟨[], found⟩ => exact sound
  | ⟨walk :: rest, found⟩ =>
      have first := sound.pending walk List.mem_cons_self
      refine ⟨fun next mem => ?_, fun last mem => ?_⟩
      · rcases List.mem_append.1 mem with moved | waiting
        · exact first.move moved
        · exact sound.pending next (List.mem_cons_of_mem _ waiting)
      · rcases List.mem_append.1 mem with new | old
        · exact first.length_le new
        · exact sound.found last old

theorem sound_iterate (stages : List Stage) (steps : Nat) :
    ((Queue.step stages)^[steps] (start stages)).Sound stages := by
  induction steps with
  | zero => exact sound_start stages
  | succ steps ih =>
      rw [Function.iterate_succ_apply']
      exact ih.step

end Queue

end Walk

namespace Region

/-! ## Enumerating the paths of a level -/

/-- The regions of a level as a walk meets them, once the queues of its boxes ran empty. -/
inductive Staged : List Region → List Stage → Prop
  | nil : Staged [] []
  | block {calls : List Invocation} {rest : List Region} {stages : List Stage} :
      Staged rest stages → Staged (.block calls :: rest) (.block calls :: stages)
  | control {op : Control} {rest : List Region} {stages : List Stage} :
      Staged rest stages → Staged (.control op :: rest) (.control op :: stages)
  | box {inner rest : List Region} {within stages : List Stage} {level : Level} :
      Staged inner within → Walk.Queue.Yields within level → Staged rest stages →
      Staged (.box inner :: rest) (.box level.through level.exits :: stages)

/-- Following the walks of a level, after those of its boxes, comes to an end with some paths. -/
def Enumerates (regions : List Region) (level : Level) : Prop :=
  ∃ stages, Staged regions stages ∧ Walk.Queue.Yields stages level

theorem staged_stages : (regions : List Region) → Staged regions (stages regions)
  | [] => .nil
  | .block _ :: rest => .block (staged_stages rest)
  | .control _ :: rest => .control (staged_stages rest)
  | .box inner :: rest =>
      .box (staged_stages inner) (Walk.Queue.yields_iff.2 rfl) (staged_stages rest)

theorem Staged.eq {regions : List Region} {found : List Stage} (staged : Staged regions found) :
    found = stages regions := by
  induction staged with
  | nil => rfl
  | block _ ih | control _ ih => rw [ih]; rfl
  | box _ yields _ ihInner ih =>
      rw [ih, Walk.Queue.yields_iff.1 yields, ihInner]
      rfl

/-- Enumerating a level always ends, with the paths of the level. -/
theorem enumerates_iff {regions : List Region} {found : Level} :
    Enumerates regions found ↔ found = level regions := by
  constructor
  · rintro ⟨_, staged, yields⟩
    rw [Walk.Queue.yields_iff.1 yields, staged.eq]
    rfl
  · rintro rfl
    exact ⟨_, staged_stages regions, Walk.Queue.yields_iff.2 rfl⟩

/-- Whether a region is an unconditional jump. -/
def isBranch : Region → Bool
  | .control (.branch _ _) => true
  | _ => false

/-- The limits of a level, by its labels and unconditional jumps. -/
theorem sum_limits (regions : List Region) :
    ((stages regions).map Walk.limit).sum =
      regions.countP (·.label?.isSome) + 2 * regions.countP isBranch := by
  induction regions with
  | nil => rfl
  | cons region rest ih =>
      have one : Walk.limit region.stage =
          (if region.label?.isSome then 1 else 0) + 2 * (if isBranch region then 1 else 0) := by
        cases region with
        | block calls | box inner => rfl
        | control op => cases op <;> rfl
      rw [stages, List.map_cons, List.sum_cons, ih, one, List.countP_cons, List.countP_cons]
      omega

theorem length_path_le {regions : List Region} {ending : Ending} {path : Path}
    (mem : path ∈ ending.paths (level regions)) :
    path.length ≤ (1 + regions.countP (·.label?.isSome) + 2 * regions.countP isBranch) *
      regions.length := by
  obtain ⟨steps, found, empties, all⟩ := Walk.Queue.exists_iterate_start (stages regions)
  have sound := Walk.Queue.sound_iterate (stages regions) steps
  rw [empties] at sound
  have bound := sound.found _ ((all _).2 (mem_paths_ofStages.1 mem))
  rw [Ending.path_of, sum_limits, stages_eq_map, List.length_map] at bound
  rwa [Nat.add_assoc 1, Nat.add_comm 1]

/-- Enumerating the paths of a level always ends, whatever its labels and jumps are, and with the
paths of the level.  No walk on the way passes a position more than twice, and a path has no more
steps than the level has regions, taken once for each label, twice for each unconditional jump, and
once more. -/
theorem level_ends (regions : List Region) :
    (∀ found, Enumerates regions found ↔ found = level regions) ∧
    (∀ steps, ∀ walk ∈ ((Walk.Queue.step (stages regions))^[steps]
      (Walk.Queue.start (stages regions))).pending, ∀ passes ∈ walk.visits, passes ≤ 2) ∧
    ∀ ending : Ending, ∀ path ∈ ending.paths (level regions),
      path.length ≤ (1 + regions.countP (·.label?.isSome) + 2 * regions.countP isBranch) *
        regions.length :=
  ⟨fun _ => enumerates_iff,
    fun steps walk mem => ((Walk.Queue.sound_iterate _ steps).pending walk mem).visits_le_two,
    fun _ _ => length_path_le⟩

/-- A loop whose way out is defined twice, with a jump to a label that is missing. -/
def sampleTurns : List Region :=
  [.control (.label "top"), .block [sampleCall "a"], .control (.condBranch "out" none),
    .control (.branch "top" none), .control (.label "out"),
    .control (.condBranch "nowhere" none), .control (.label "out")]

/-- The walk that stays in the loop takes the jump back twice and makes the call three times. -/
theorem level_ends_sampleTurns :
    Enumerates sampleTurns (level sampleTurns) ∧
    (∃ walk ∈ ((Walk.Queue.step (stages sampleTurns))^[10]
        (Walk.Queue.start (stages sampleTurns))).pending,
      walk.visits = [1, 0, 0, 2, 0, 0, 0] ∧ ∀ passes ∈ walk.visits, passes ≤ 2) ∧
    ∃ path ∈ (level sampleTurns).through, path.length = 3 ∧
      path.length ≤ (1 + 3 + 2 * 1) * 7 := by
  obtain ⟨enumerates, counts, bound⟩ := level_ends sampleTurns
  have under : (((Walk.Queue.step (stages sampleTurns))^[10]
      (Walk.Queue.start (stages sampleTurns))).pending.map (·.visits)).head? =
        some [1, 0, 0, 2, 0, 0, 0] := by cbv
  have turns : List.replicate 3 (.block [sampleCall "a"]) ∈ (level sampleTurns).through := by
    have all : (level sampleTurns).through = [List.replicate 1 (.block [sampleCall "a"]),
      List.replicate 2 (.block [sampleCall "a"]),
      List.replicate 3 (.block [sampleCall "a"])] := by cbv
    rw [all]
    exact List.mem_cons_of_mem _ (List.mem_cons_of_mem _ List.mem_cons_self)
  refine ⟨(enumerates _).2 rfl, ?_, _, turns, rfl, bound .through _ turns⟩
  rw [List.head?_map, Option.map_eq_some_iff] at under
  obtain ⟨walk, first, passes⟩ := under
  exact ⟨walk, List.mem_of_head? first, passes, counts 10 walk (List.mem_of_head? first)⟩

end Region

end CallSearch
