/-
# CallSearch.Proofs.Region.Run — runs of nested regions

A run through a level falls off its end or leaves the method (`Ending`).  Behind a box
it goes on only after it fell through the box, and jumps lead to labels of their own
level.

Taking the boxes apart gives back code (`flat`).  Where jumps stay on their level
(`Closed`) and no label is defined twice, runs of the regions and of the code have
the same traces: `traces_flat`.  For this a place in the code is read as a stack of
places, one for each box around it.
-/
import CallSearch.Proofs.Code.Run
import CallSearch.Region

namespace CallSearch.Region

set_option autoImplicit false

/-- How a run through a level ends. -/
inductive Ending where
  /-- It falls off the end of the level. -/
  | through
  /-- It leaves the method by returning or throwing. -/
  | exit
deriving DecidableEq

/-- The runs through `level` that have `rest` still to come, by the calls they make and the way
they end. -/
inductive Runs : List Region → List Region → List Invocation → Ending → Prop
  | past {level : List Region} : Runs level [] [] .through
  | block {level rest : List Region} {calls trace : List Invocation} {ending : Ending} :
      Runs level rest trace ending → Runs level (.block calls :: rest) (calls ++ trace) ending
  | box {level rest inner : List Region} {first second : List Invocation} {ending : Ending} :
      Runs inner inner first .through → Runs level rest second ending →
      Runs level (.box inner :: rest) (first ++ second) ending
  | leave {level rest inner : List Region} {trace : List Invocation} :
      Runs inner inner trace .exit → Runs level (.box inner :: rest) trace .exit
  | ret {level rest : List Region} {line : Option Nat} :
      Runs level (.control (.ret line) :: rest) [] .exit
  | throw {level rest : List Region} {line : Option Nat} :
      Runs level (.control (.throw line) :: rest) [] .exit
  | label {level rest : List Region} {name : String} {trace : List Invocation} {ending : Ending} :
      Runs level rest trace ending → Runs level (.control (.label name) :: rest) trace ending
  | fall {level rest : List Region} {target : String} {line : Option Nat}
      {trace : List Invocation} {ending : Ending} :
      Runs level rest trace ending →
      Runs level (.control (.condBranch target line) :: rest) trace ending
  | jump {level rest after : List Region} {op : Control} {target : String}
      {trace : List Invocation} {ending : Ending} :
      target ∈ op.targets → .control (.label target) :: after <:+ level →
      Runs level (.control (.label target) :: after) trace ending →
      Runs level (.control op :: rest) trace ending

/-- The traces of the complete runs of some regions. -/
def traces (regions : List Region) : Language Invocation :=
  {trace | ∃ ending, Runs regions regions trace ending}

/-! ## Regions as code -/

mutual

/-- The code of a region. -/
def flatOne : Region → TypedCode
  | .block calls => calls.map .invoke
  | .box inner => flat inner
  | .control op => [.control op]

/-- The code of some regions. -/
def flat : List Region → TypedCode
  | [] => []
  | region :: rest => flatOne region ++ flat rest

end

theorem flat_append (first second : List Region) :
    flat (first ++ second) = flat first ++ flat second := by
  induction first with
  | nil => rfl
  | cons region first ih => simp only [List.cons_append, flat, ih, List.append_assoc]

theorem flat_suffix {rest level : List Region} (h : rest <:+ level) : flat rest <:+ flat level := by
  obtain ⟨before, rfl⟩ := h
  exact ⟨flat before, (flat_append before rest).symm⟩

theorem mem_flat {instruction : Instruction Invocation} {level : List Region} :
    instruction ∈ flat level ↔ ∃ region ∈ level, instruction ∈ flatOne region := by
  induction level with
  | nil => simp [flat]
  | cons region rest ih => simp [flat, ih]

theorem flat_inner_sublist {level inner : List Region} (mem : .box inner ∈ level) :
    (flat inner).Sublist (flat level) := by
  obtain ⟨before, after, rfl⟩ := List.append_of_mem mem
  rw [flat_append, flat]
  exact (List.sublist_append_left _ _).trans (List.sublist_append_right _ _)

/-- Every jump of a level leads to a label of that level, also inside boxes. -/
inductive Closed : List Region → Prop
  | intro {level : List Region} :
      (∀ op, .control op ∈ level → ∀ target ∈ op.targets, .control (.label target) ∈ level) →
      (∀ inner, .box inner ∈ level → Closed inner) → Closed level

theorem Closed.label_mem {level : List Region} (closed : Closed level) {op : Control}
    (mem : .control op ∈ level) {target : String} (jumps : target ∈ op.targets) :
    .control (.label target) ∈ level := by
  obtain ⟨own, -⟩ := closed
  exact own op mem target jumps

theorem Closed.inner {level inner : List Region} (closed : Closed level)
    (mem : .box inner ∈ level) : Closed inner := by
  obtain ⟨-, boxes⟩ := closed
  exact boxes inner mem

/-! ## From regions to code -/

/-- What may follow a run through a level in front of the code `behind`: nothing once it has
left the method. -/
def GoesOn (code behind : TypedCode) : Ending → List Invocation → Prop
  | .through, trace => Code.Runs code behind trace
  | .exit, trace => trace = []

theorem code_runs_of_runs {code : TypedCode} {level rest : List Region}
    {trace : List Invocation} {ending : Ending} (run : Runs level rest trace ending)
    {behind : TypedCode} (placed : flat level ++ behind <:+ code)
    (here : flat rest ++ behind <:+ code) {more : List Invocation}
    (goesOn : GoesOn code behind ending more) :
    Code.Runs code (flat rest ++ behind) (trace ++ more) := by
  induction run generalizing behind more with
  | past => exact goesOn
  | @block level rest calls trace ending _ ih =>
      have after : flat rest ++ behind <:+ code := by
        refine List.IsSuffix.trans ?_ here
        rw [flat, List.append_assoc]
        exact List.suffix_append _ _
      have tail := ih placed after goesOn
      rw [flat, flatOne, List.append_assoc, List.append_assoc]
      clear here
      induction calls with
      | nil => exact tail
      | cons call calls ih => exact .invoke ih
  | box _ _ ihInner ihRest =>
      -- What comes behind the box is what the run through the box goes on with.
      rw [flat, flatOne, List.append_assoc] at here
      have tail := ihRest placed ((List.suffix_append _ _).trans here) goesOn
      rw [flat, flatOne, List.append_assoc, List.append_assoc]
      exact ihInner here here tail
  | leave _ ih =>
      obtain rfl : more = [] := goesOn
      rw [flat, flatOne, List.append_assoc] at here ⊢
      exact ih here here rfl
  | ret =>
      obtain rfl : more = [] := goesOn
      exact .ret
  | throw =>
      obtain rfl : more = [] := goesOn
      exact .throw
  | label _ ih => exact .label (ih placed (suffix_of_cons here) goesOn)
  | fall _ ih => exact .fall (ih placed (suffix_of_cons here) goesOn)
  | jump mem found _ ih =>
      have there := (suffix_append_right behind (flat_suffix found)).trans placed
      exact .jump mem there (ih placed there goesOn)

/-! ## From code to regions -/

/-- A place on a level: the level and what is still to come of it. -/
abbrev Frame := List Region × List Region

/-- The code still to come at a stack of places, the innermost first. -/
def flatStack : List Frame → TypedCode
  | [] => []
  | frame :: more => flat frame.2 ++ flatStack more

/-- The runs from a stack of places on. -/
def StackRuns : List Frame → List Invocation → Prop
  | [], trace => trace = []
  | frame :: more, trace =>
      Runs frame.1 frame.2 trace .exit ∨
        ∃ first second, trace = first ++ second ∧ Runs frame.1 frame.2 first .through ∧
          StackRuns more second

/-- A place in some code on a level with closed jumps, in front of the code `behind`. -/
structure Frame.PlacedBefore (code behind : TypedCode) (frame : Frame) : Prop where
  closed : Closed frame.1
  own : ∀ op, .control op ∈ frame.2 → .control op ∈ frame.1
  boxes : ∀ inner, .box inner ∈ frame.2 → Closed inner
  whole : flat frame.1 ++ behind <:+ code
  here : flat frame.2 ++ behind <:+ code

/-- A stack of places in some code. -/
def Placed (code : TypedCode) : List Frame → Prop
  | [] => True
  | frame :: more => frame.PlacedBefore code (flatStack more) ∧ Placed code more

/-- Go on behind the first region of the innermost place. -/
theorem Placed.next {code : TypedCode} {level rest : List Region} {region : Region}
    {more : List Frame} (h : Placed code ((level, region :: rest) :: more)) :
    Placed code ((level, rest) :: more) := by
  obtain ⟨⟨closed, own, boxes, whole, here⟩, outer⟩ := h
  refine ⟨⟨closed, fun op mem => own op (List.mem_cons_of_mem _ mem),
    fun inner mem => boxes inner (List.mem_cons_of_mem _ mem), whole, ?_⟩, outer⟩
  rw [flat, List.append_assoc] at here
  exact (List.suffix_append _ _).trans here

/-- Enter a box. -/
theorem Placed.enter {code : TypedCode} {level rest inner : List Region} {more : List Frame}
    (h : Placed code ((level, .box inner :: rest) :: more)) :
    Placed code ((inner, inner) :: (level, rest) :: more) := by
  have closed := h.1.boxes inner List.mem_cons_self
  have here := h.1.here
  rw [flat, flatOne, List.append_assoc] at here
  exact ⟨⟨closed, fun _ mem => mem, fun _ mem => closed.inner mem, here, here⟩, h.next⟩

theorem StackRuns.cons_of_empty {level : List Region} {more : List Frame}
    {trace : List Invocation} (h : StackRuns more trace) : StackRuns ((level, []) :: more) trace :=
  Or.inr ⟨[], trace, rfl, .past, h⟩

theorem StackRuns.block {level rest : List Region} {more : List Frame}
    {calls trace : List Invocation} (h : StackRuns ((level, rest) :: more) trace) :
    StackRuns ((level, .block calls :: rest) :: more) (calls ++ trace) := by
  rcases h with exits | ⟨first, second, rfl, through, outer⟩
  · exact Or.inl (.block exits)
  · exact Or.inr ⟨calls ++ first, second, (List.append_assoc _ _ _).symm, .block through, outer⟩

theorem StackRuns.box {level rest inner : List Region} {more : List Frame}
    {trace : List Invocation} (h : StackRuns ((inner, inner) :: (level, rest) :: more) trace) :
    StackRuns ((level, .box inner :: rest) :: more) trace := by
  rcases h with exits | ⟨first, second, rfl, through, exits | ⟨third, fourth, rfl, tail, outer⟩⟩
  · exact Or.inl (.leave exits)
  · exact Or.inl (.box through exits)
  · exact Or.inr ⟨first ++ third, fourth, (List.append_assoc _ _ _).symm, .box through tail, outer⟩

/-- The regions still to come in a stack of places, boxes counted with what is in them. -/
noncomputable def stackSize : List Frame → Nat
  | [] => 0
  | frame :: more => sizeOf frame.2 + stackSize more

/-- Where no code is left, the run can end. -/
theorem stackRuns_nil (stack : List Frame) (empty : flatStack stack = []) : StackRuns stack [] := by
  match stack with
  | [] => rfl
  | (level, []) :: more => exact .cons_of_empty (stackRuns_nil more empty)
  | (level, .block [] :: rest) :: more =>
      exact StackRuns.block (stackRuns_nil ((level, rest) :: more) empty)
  | (level, .block (call :: calls) :: rest) :: more => cases empty
  | (level, .box inner :: rest) :: more =>
      refine .box (stackRuns_nil ((inner, inner) :: (level, rest) :: more) ?_)
      rwa [flatStack, flat, flatOne, List.append_assoc] at empty
  | (level, .control op :: rest) :: more => cases empty
termination_by stackSize stack
decreasing_by
  all_goals simp +arith [stackSize]

/-- Where code is left, its first instruction is the first of the innermost place once the
boxes in front of it are entered. -/
theorem exists_top {code rest : TypedCode} {instruction : Instruction Invocation}
    {stack : List Frame} (placed : Placed code stack)
    (same : flatStack stack = instruction :: rest) :
    ∃ level region after more, Placed code ((level, region :: after) :: more) ∧
      flatStack ((level, region :: after) :: more) = instruction :: rest ∧
      (∀ inner, region ≠ .box inner) ∧ flatOne region ≠ [] ∧
      ∀ trace, StackRuns ((level, region :: after) :: more) trace → StackRuns stack trace := by
  match stack with
  | [] => cases same
  | (level, []) :: more =>
      obtain ⟨level, region, after, outer, top, flat, leaf, some, runs⟩ :=
        exists_top placed.2 same
      exact ⟨level, region, after, outer, top, flat, leaf, some,
        fun trace h => .cons_of_empty (runs trace h)⟩
  | (level, .block [] :: rest') :: more =>
      obtain ⟨level, region, after, outer, top, flat, leaf, some, runs⟩ :=
        exists_top placed.next same
      exact ⟨level, region, after, outer, top, flat, leaf, some,
        fun trace h => StackRuns.block (runs trace h)⟩
  | (level, .block (call :: calls) :: rest') :: more =>
      exact ⟨level, _, rest', more, placed, same, fun _ => by simp, by simp [flatOne],
        fun _ h => h⟩
  | (level, .control op :: rest') :: more =>
      exact ⟨level, _, rest', more, placed, same, fun _ => by simp, by simp [flatOne],
        fun _ h => h⟩
  | (level, .box inner :: rest') :: more =>
      have same' : flatStack ((inner, inner) :: (level, rest') :: more) = instruction :: rest := by
        rwa [flatStack, flat, flatOne, List.append_assoc] at same
      obtain ⟨level, region, after, outer, top, flat, leaf, some, runs⟩ :=
        exists_top placed.enter same'
      exact ⟨level, region, after, outer, top, flat, leaf, some, fun trace h => .box (runs trace h)⟩
termination_by stackSize stack
decreasing_by
  all_goals simp +arith [stackSize]

/-- A call is made by the block at the innermost place. -/
theorem stackRuns_invoke {code rest : TypedCode} {call : Invocation} {stack : List Frame}
    (placed : Placed code stack) (same : flatStack stack = .invoke call :: rest)
    {trace : List Invocation}
    (ih : ∀ stack, Placed code stack → flatStack stack = rest → StackRuns stack trace) :
    StackRuns stack (call :: trace) := by
  obtain ⟨level, region, after, more, top, flat, leaf, some, runs⟩ := exists_top placed same
  apply runs
  match region with
  | .box inner => exact absurd rfl (leaf inner)
  | .control op => cases flat
  | .block [] => exact absurd rfl some
  | .block (first :: calls) =>
      cases flat
      obtain ⟨⟨closed, own, boxes, whole, here⟩, outer⟩ := top
      have placed' : Placed code ((level, .block calls :: after) :: more) :=
        ⟨⟨closed, fun op mem => own op (by simpa using mem),
          fun inner mem => boxes inner (by simpa using mem), whole, suffix_of_cons here⟩, outer⟩
      have tail := ih _ placed' rfl
      rcases tail with exits | ⟨part, second, rfl, through, outer⟩
      · cases exits with
        | block exits => exact Or.inl (.block exits)
      · cases through with
        | block through => exact Or.inr ⟨_, second, rfl, .block through, outer⟩

/-- A control instruction is the first region of the innermost place. -/
theorem exists_top_control {code rest : TypedCode} {op : Control} {stack : List Frame}
    (placed : Placed code stack) (same : flatStack stack = .control op :: rest) :
    ∃ level after more, Placed code ((level, .control op :: after) :: more) ∧
      flatStack ((level, after) :: more) = rest ∧
      ∀ trace, StackRuns ((level, .control op :: after) :: more) trace → StackRuns stack trace := by
  obtain ⟨level, region, after, more, top, flat, leaf, some, runs⟩ := exists_top placed same
  match region with
  | .box inner => exact absurd rfl (leaf inner)
  | .block [] => exact absurd rfl some
  | .block (first :: calls) => cases flat
  | .control other =>
      cases flat
      exact ⟨level, after, more, top, rfl, runs⟩

theorem stackRuns_of_code_runs {code rest : TypedCode} (distinct : (Code.labels code).Nodup)
    {trace : List Invocation} (run : Code.Runs code rest trace) {stack : List Frame}
    (placed : Placed code stack) (same : flatStack stack = rest) : StackRuns stack trace := by
  -- At each step the boxes in front of the next instruction are entered first.
  induction run generalizing stack with
  | past => exact stackRuns_nil _ same
  | ret =>
      obtain ⟨level, after, more, -, -, runs⟩ := exists_top_control placed same
      exact runs _ (Or.inl .ret)
  | throw =>
      obtain ⟨level, after, more, -, -, runs⟩ := exists_top_control placed same
      exact runs _ (Or.inl .throw)
  | invoke _ ih => exact stackRuns_invoke placed same fun _ => ih
  | label _ ih =>
      obtain ⟨level, after, more, top, flat, runs⟩ := exists_top_control placed same
      apply runs
      rcases ih top.next flat with exits | ⟨first, second, rfl, through, outer⟩
      · exact Or.inl (.label exits)
      · exact Or.inr ⟨first, second, rfl, .label through, outer⟩
  | fall _ ih =>
      obtain ⟨level, after, more, top, flat, runs⟩ := exists_top_control placed same
      apply runs
      rcases ih top.next flat with exits | ⟨first, second, rfl, through, outer⟩
      · exact Or.inl (.fall exits)
      · exact Or.inr ⟨first, second, rfl, .fall through, outer⟩
  | jump mem found _ ih =>
      obtain ⟨level, after, more, top, -, runs⟩ := exists_top_control placed same
      apply runs
      obtain ⟨⟨closed, own, boxes, whole, here⟩, outer⟩ := top
      -- The level has the label, and it stands at the place the code jumps to.
      obtain ⟨there, sub⟩ :=
        exists_suffix_of_mem (closed.label_mem (own _ List.mem_cons_self) mem)
      have found' := (suffix_append_right (flatStack more) (flat_suffix sub)).trans whole
      have equal := Code.label_unique distinct found' found
      have target : Placed code ((level, .control (.label _) :: there) :: more) :=
        ⟨⟨closed, fun _ mem => sub.subset mem, fun _ mem => closed.inner (sub.subset mem), whole,
          found'⟩, outer⟩
      rcases ih target (congrArg _ equal) with exits | ⟨first, second, rfl, through, outer⟩
      · exact Or.inl (.jump mem sub exits)
      · exact Or.inr ⟨first, second, rfl, .jump mem sub through, outer⟩

/-- Regions with closed jumps have the traces of their code. -/
theorem traces_flat {regions : List Region} (closed : Closed regions)
    (distinct : (Code.labels (flat regions)).Nodup) :
    Code.traces (flat regions) = traces regions := by
  ext trace
  have whole : flat regions ++ [] <:+ flat regions := by
    rw [List.append_nil]
  constructor
  · intro run
    have placed : Placed (flat regions) [(regions, regions)] :=
      ⟨⟨closed, fun _ mem => mem, fun _ mem => closed.inner mem, whole, whole⟩, trivial⟩
    rcases stackRuns_of_code_runs distinct run placed (List.append_nil _) with
      exits | ⟨first, second, rfl, through, ended⟩
    · exact ⟨.exit, exits⟩
    · obtain rfl : second = [] := ended
      rw [List.append_nil]
      exact ⟨.through, through⟩
  · rintro ⟨ending, run⟩
    have goesOn : GoesOn (flat regions) [] ending [] := by
      cases ending
      · exact .past
      · rfl
    have complete := code_runs_of_runs run whole whole goesOn
    rw [List.append_nil, List.append_nil] at complete
    exact complete

end CallSearch.Region
