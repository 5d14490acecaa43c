/-
# CallSearch.Proofs.Region.Live — flattening loops keeps live code live

Each change of a level, with the code around it as it is (`Fits`), keeps the calls, the
jumps on their level and live code live (`Keeps`), and so do changes one after another:
`keeps_flattenLoops`.

* `traces_flattenLoops`: without jumps back, flattening keeps the traces;
* `exists_runs_flattenLoops`: every call of live code is made by a run of the
  flattened regions.
-/
import CallSearch.Proofs.Code.Live
import CallSearch.Proofs.Region.Flatten

namespace CallSearch.Region

set_option autoImplicit false

open Code (Live Sealed)
open Relation (ReflTransGen)

/-- A level with closed jumps in some code, where no label is defined twice or jumped to more
often than counted, and no jump comes from outside the level. -/
structure Fits (jumpCount : String → Nat) (before : TypedCode) (level : List Region)
    (after : TypedCode) : Prop where
  closed : Closed level
  distinct : (Code.labels (before ++ (flat level ++ after))).Nodup
  counted : ∀ name, ((before ++ (flat level ++ after)).flatMap Instruction.targets).count name ≤
    jumpCount name
  apart : ∀ op, .control op ∈ before ++ after → ∀ target ∈ op.targets,
    target ∉ Code.labels (flat level)

/-- What changing a level keeps. -/
structure Keeps (jumpCount : String → Nat) (level level' : List Region) : Prop where
  sub : (flat level').Sublist (flat level)
  calls : ∀ call, .invoke call ∈ flat level → .invoke call ∈ flat level'
  closed : ∀ {before after}, Fits jumpCount before level after → Closed level'
  live : ∀ {before after}, Fits jumpCount before level after →
    Live (before ++ (flat level ++ after)) → Live (before ++ (flat level' ++ after))

section

variable {jumpCount : String → Nat} {before after : TypedCode} {level level' : List Region}

theorem Fits.counted_level (fits : Fits jumpCount before level after) :
    Counted jumpCount (flat level) :=
  Counted.sublist fits.counted ((List.sublist_append_left _ _).trans (List.sublist_append_right _ _))

theorem Fits.shrink (fits : Fits jumpCount before level after) (closed : Closed level')
    (sub : (flat level').Sublist (flat level)) : Fits jumpCount before level' after := by
  have whole : (before ++ (flat level' ++ after)).Sublist (before ++ (flat level ++ after)) :=
    (List.Sublist.refl _).append (sub.append (List.Sublist.refl _))
  refine ⟨closed, (whole.filterMap _).nodup fits.distinct, fun name => ?_,
    fun op mem target jumps label => ?_⟩
  · exact ((whole.flatMap _).count_le name).trans (fits.counted name)
  · exact fits.apart op mem target jumps ((sub.filterMap _).subset label)

theorem Keeps.fits (keeps : Keeps jumpCount level level') (fits : Fits jumpCount before level after) :
    Fits jumpCount before level' after :=
  fits.shrink (keeps.closed fits) keeps.sub

end

/-! ## Jumps into parts of a level -/

section Parts

variable {jumpCount : String → Nat} {before after : TypedCode} {first part last : List Region}
  (fits : Fits jumpCount before (first ++ (part ++ last)) after)

include fits

/-- A label in the part of a level is not in what comes before or behind it. -/
theorem Fits.not_mem_labels {name : String} (mem : name ∈ Code.labels (flat part)) :
    name ∉ Code.labels (flat first) ∧ name ∉ Code.labels (flat last) := by
  have distinct := fits.distinct
  simp only [flat_append, Code.labels_append, List.nodup_append] at distinct
  grind

/-- A jump from elsewhere to a label in a part of a level leads from the level to a label that
stands in the part itself. -/
theorem Fits.exists_of_jump_into {op : Control}
    (mem : .control op ∈ (before ++ flat first) ++ (flat last ++ after)) {target : String}
    (jumps : target ∈ op.targets) (label : target ∈ Code.labels (flat part)) :
    .control (.label target) ∈ part ∧ .control op ∈ first ++ last := by
  have whole : .control (.label target) ∈ first ++ (part ++ last) ∧ .control op ∈ first ++ last ∨
      ∃ region ∈ first ++ last, target ∈ Code.labels (flatOne region) := by
    have inside : .control op ∈ flat first ++ flat last := by
      have outside := fits.apart op
      rw [flat_append, flat_append, Code.labels_append, Code.labels_append] at outside
      simp only [List.mem_append] at mem outside ⊢
      grind
    rw [← flat_append] at inside
    obtain ⟨region, here, mem⟩ := mem_flat.1 inside
    have here' : region ∈ first ++ (part ++ last) := by
      simp only [List.mem_append] at here ⊢
      tauto
    cases region with
    | block calls => simp [flatOne] at mem
    | box inner => exact Or.inr ⟨_, here, (fits.closed.inner here').label_mem_flat mem jumps⟩
    | control other =>
        simp only [flatOne, List.mem_singleton, Instruction.control.injEq] at mem
        subst mem
        exact Or.inl ⟨fits.closed.label_mem here' jumps, here⟩
  obtain ⟨notFirst, notLast⟩ := fits.not_mem_labels label
  have elsewhere : ∀ region ∈ first ++ last, target ∉ Code.labels (flatOne region) := by
    intro region here found
    rcases List.mem_append.1 here with here | here
    · exact notFirst (Code.mem_labels.2 (mem_flat.2 ⟨region, here, Code.mem_labels.1 found⟩))
    · exact notLast (Code.mem_labels.2 (mem_flat.2 ⟨region, here, Code.mem_labels.1 found⟩))
  rcases whole with ⟨defined, here⟩ | ⟨region, here, found⟩
  · refine ⟨?_, here⟩
    have own : target ∈ Code.labels (flatOne (.control (.label target))) :=
      List.mem_singleton.2 rfl
    rcases List.mem_append.1 defined with there | there
    · exact absurd own (elsewhere _ (List.mem_append_left _ there))
    · rcases List.mem_append.1 there with there | there
      · exact there
      · exact absurd own (elsewhere _ (List.mem_append_right _ there))
  · exact absurd found (elsewhere region here)

/-- Blocks and boxes of a level are sealed. -/
theorem Fits.sealed_bodies (bodies : ∀ region ∈ part, region.isBody = true) :
    Sealed (before ++ flat first) (flat part) (flat last ++ after) where
  inside op mem target jumps := by
    obtain ⟨region, here, mem⟩ := mem_flat.1 mem
    match region, bodies region here with
    | .block calls, _ => simp [flatOne] at mem
    | .box inner, _ =>
        have closed : Closed inner :=
          fits.closed.inner (List.mem_append_right _ (List.mem_append_left _ here))
        have found := closed.label_mem_flat mem jumps
        exact Code.mem_labels.2 (mem_flat.2 ⟨_, here, Code.mem_labels.1 found⟩)
  outside op mem target jumps label := by
    obtain ⟨here, -⟩ := fits.exists_of_jump_into mem jumps label
    cases bodies _ here

end Parts

/-! ## One loop -/

section Loop

variable {jumpCount : String → Nat} {before after : TypedCode}
  {first loop body rest pre post : List Region} {head exit : String} {line line' : Option Nat}

/-- The code of a loop. -/
theorem IsLoop.flat_eq (isLoop : IsLoop loop body rest pre post head exit line line') :
    flat loop = Code.framed (flat pre) (flat post) head exit line line' ++ flat rest := by
  rw [isLoop.shape]
  simp [flat, flatOne, flat_append, Code.framed]

theorem flat_loopRegions : flat (loopRegions pre post head exit line line') =
    Code.framed (flat pre) (flat post) head exit line line' := by
  simp [loopRegions, flat, flatOne, flat_append, Code.framed]

section Placed

variable (fits : Fits jumpCount before (first ++ (loopRegions pre post head exit line line' ++ rest))
    after)
  (bodies : ∀ region ∈ pre ++ post, region.isBody = true)

include fits bodies

theorem Fits.sealed_pre : Sealed (before ++ flat (first ++ [.control (.label head)])) (flat pre)
    (flat (.control (.condBranch exit line) ::
      (post ++ .control (.branch head line') :: .control (.label exit) :: rest)) ++ after) := by
  have placed : Fits jumpCount before ((first ++ [.control (.label head)]) ++
      (pre ++ .control (.condBranch exit line) ::
        (post ++ .control (.branch head line') :: .control (.label exit) :: rest))) after := by
    simpa [loopRegions] using fits
  exact placed.sealed_bodies fun region mem => bodies region (List.mem_append_left _ mem)

theorem Fits.sealed_post : Sealed
    (before ++ flat (first ++ .control (.label head) :: (pre ++ [.control (.condBranch exit line)])))
    (flat post) (flat (.control (.branch head line') :: .control (.label exit) :: rest) ++ after) := by
  have placed : Fits jumpCount before
      ((first ++ .control (.label head) :: (pre ++ [.control (.condBranch exit line)])) ++
        (post ++ .control (.branch head line') :: .control (.label exit) :: rest)) after := by
    simpa [loopRegions] using fits
  exact placed.sealed_bodies fun region mem => bodies region (List.mem_append_right _ mem)

/-- A loop whose labels have no other jumps is sealed. -/
theorem Fits.sealed_loop (once : jumpCount head = 1 ∧ jumpCount exit = 1) :
    Sealed (before ++ flat first) (Code.framed (flat pre) (flat post) head exit line line')
      (flat rest ++ after) where
  inside op mem target jumps := by
    simp only [Code.framed, List.mem_cons, List.mem_append, Instruction.control.injEq,
      List.not_mem_nil, or_false] at mem
    rw [Code.labels_framed]
    rcases mem with rfl | mem | rfl | mem | rfl | rfl
    · cases jumps
    · simp [(fits.sealed_pre bodies).inside op mem target jumps]
    · simp [List.mem_singleton.1 jumps]
    · simp [(fits.sealed_post bodies).inside op mem target jumps]
    · simp [List.mem_singleton.1 jumps]
    · cases jumps
  outside op mem target jumps label := by
    rw [← flat_loopRegions] at label
    obtain ⟨here, there⟩ := fits.exists_of_jump_into mem jumps label
    exact label_not_mem_loopRegions bodies once fits.counted_level there jumps here

end Placed

/-- Leaving the body of a loop keeps live code live. -/
theorem live_loop (isLoop : IsLoop loop body rest pre post head exit line line')
    (once : jumpCount head = 1 ∧ jumpCount exit = 1)
    (fits : Fits jumpCount before (first ++ loop) after)
    (live : Live (before ++ (flat (first ++ loop) ++ after))) :
    Live (before ++ (flat (first ++ (body ++ rest)) ++ after)) := by
  have whole : before ++ (flat (first ++ loop) ++ after) = (before ++ flat first) ++
      (Code.framed (flat pre) (flat post) head exit line line' ++ (flat rest ++ after)) := by
    rw [flat_append, isLoop.flat_eq]
    simp
  have bare : before ++ (flat (first ++ (body ++ rest)) ++ after) =
      (before ++ flat first) ++ ((flat pre ++ flat post) ++ (flat rest ++ after)) := by
    rw [flat_append, flat_append, isLoop.flat_body]
    simp
  have shaped := isLoop.eq_loopRegions ▸ fits
  rw [bare]
  refine Live.unframe (whole ▸ live) (whole ▸ fits.distinct)
    (shaped.sealed_loop isLoop.bodies once) ?_ ?_
  · simpa [flat, flatOne, flat_append] using shaped.sealed_pre isLoop.bodies
  · simpa [flat, flatOne, flat_append] using shaped.sealed_post isLoop.bodies

end Loop

/-! ## All changes -/

section Levels

variable {jumpCount : String → Nat} {before after : TypedCode}
  {level level' first rest inner : List Region}

theorem append_flat_around (before after : TypedCode) (first rest : List Region)
    (region : Region) : before ++ (flat (first ++ region :: rest) ++ after) =
      (before ++ flat first) ++ (flatOne region ++ (flat rest ++ after)) := by
  rw [flat_around]
  simp

/-- What is in a box fits into the code around the box. -/
theorem Fits.enter (fits : Fits jumpCount before (first ++ .box inner :: rest) after) :
    Fits jumpCount (before ++ flat first) inner (flat rest ++ after) := by
  have whole := append_flat_around before after first rest (.box inner)
  rw [flatOne] at whole
  refine ⟨fits.closed.inner (by simp), whole ▸ fits.distinct, whole ▸ fits.counted, ?_⟩
  intro op mem target jumps label
  have placed : Fits jumpCount before (first ++ ([.box inner] ++ rest)) after := fits
  have boxSealed := placed.sealed_bodies (by simp [isBody])
  refine boxSealed.outside op mem target jumps ?_
  simpa [flat, flatOne] using label

/-- One change keeps live code live. -/
theorem Changes.live (change : Changes jumpCount level level')
    (fits : Fits jumpCount before level after) (live : Live (before ++ (flat level ++ after))) :
    Live (before ++ (flat level' ++ after)) := by
  induction change generalizing before after with
  | merge level => rwa [flat_mergeBlocks]
  | loop first isLoop once => exact live_loop isLoop once fits live
  | inside change ih =>
      rw [append_flat_around, flatOne] at live ⊢
      exact ih fits.enter live
  | alone =>
      rw [append_flat_around] at live ⊢
      simpa [flatOne, flat] using live

theorem keeps_of_changes (changes : ReflTransGen (Changes jumpCount) level level') :
    Keeps jumpCount level level' where
  sub := sublist_of_changes changes
  calls call mem := by
    rw [← TypedCode.mem_calls] at mem ⊢
    exact (calls_of_changes changes).symm ▸ mem
  closed fits := closed_of_changes changes fits.counted_level fits.closed
  live fits live := by
    induction changes with
    | refl => exact live
    | tail changes change ih =>
        have closed := closed_of_changes changes fits.counted_level fits.closed
        exact change.live (fits.shrink closed (sublist_of_changes changes)) ih

/-- Flattening the loops of a level keeps live code live. -/
theorem keeps_flattenLoops (jumpCount : String → Nat) (level : List Region) :
    Keeps jumpCount level (flattenLoops jumpCount level) :=
  keeps_of_changes (changes_flattenLoops jumpCount level)

end Levels

section Whole

variable {jumpCount : String → Nat} {level : List Region} (fits : Fits jumpCount [] level [])

include fits

theorem traces_flattenLoops_eq_flat :
    traces (flattenLoops jumpCount level) = Code.traces (flat (flattenLoops jumpCount level)) := by
  have fits' := (keeps_flattenLoops jumpCount level).fits fits
  exact (traces_flat fits'.closed (by simpa using fits'.distinct)).symm

/-- Without jumps back, flattening keeps the traces. -/
theorem traces_flattenLoops (free : Code.LoopFree (flat level)) :
    traces (flattenLoops jumpCount level) = traces level := by
  rw [traces_flattenLoops_eq_flat fits, flat_flattenLoops free,
    traces_flat fits.closed (by simpa using fits.distinct)]

/-- Every call of live code is made by a run of the flattened regions. -/
theorem exists_runs_flattenLoops (live : Live (flat level)) {call : Invocation}
    (mem : .invoke call ∈ flat level) :
    ∃ trace ∈ traces (flattenLoops jumpCount level), call ∈ trace := by
  have keeps := keeps_flattenLoops jumpCount level
  have live' : Live (flat (flattenLoops jumpCount level)) := by
    simpa using keeps.live fits (by simpa using live)
  rw [traces_flattenLoops_eq_flat fits]
  exact live'.exists_trace (keeps.calls call mem)

end Whole

end CallSearch.Region
