/-
# CallSearch.Proofs.Region.Loops — one pass through a loop is part of a run

Flattening replaces a loop by its body.  One pass through the body, and what comes
behind the loop, is part of a run that goes round the loop once and leaves it at the
next test (`IsLoop.runs_through`).  So every run of a level with its loops passed
leaves out calls of a run of the level, and adds none: `below_settleLoops`.
-/
import CallSearch.Proofs.Region.Boxes

namespace CallSearch.Region

set_option autoImplicit false

/-- Every run of the first level leaves out calls of a run of the second, and ends the same
way. -/
def Below (less more : List Region) : Prop :=
  ∀ trace ending, Runs less less trace ending →
    ∃ longer, trace.Sublist longer ∧ Runs more more longer ending

theorem Below.refl (level : List Region) : Below level level :=
  fun trace _ run => ⟨trace, .refl _, run⟩

theorem Below.trans {first second third : List Region} (h : Below first second)
    (h' : Below second third) : Below first third := by
  intro trace ending run
  obtain ⟨longer, sub, run⟩ := h trace ending run
  obtain ⟨longest, sub', run⟩ := h' longer ending run
  exact ⟨longest, sub.trans sub', run⟩

/-! ## Bodies -/

/-- Blocks and boxes do not jump, so what they do does not depend on their level. -/
theorem runs_bodies_iff {bodies : List Region} (all : ∀ region ∈ bodies, region.isBody = true)
    {level rest : List Region} {trace : List Invocation} {ending : Ending} :
    Runs level (bodies ++ rest) trace ending ↔
      (ending = .exit ∧ Runs [] bodies trace .exit) ∨
        ∃ first second, trace = first ++ second ∧ Runs [] bodies first .through ∧
          Runs level rest second ending := by
  induction bodies generalizing trace with
  | nil =>
      constructor
      · intro run
        exact Or.inr ⟨[], trace, rfl, .past, run⟩
      · rintro (⟨-, run⟩ | ⟨first, second, rfl, run, tail⟩)
        · cases run
        · cases run
          exact tail
  | cons region bodies ih =>
      have tails := @ih fun other mem => all other (List.mem_cons_of_mem _ mem)
      match region, all region List.mem_cons_self with
      | .block calls, _ =>
          constructor
          · intro run
            cases run with
            | block run =>
                rcases tails.1 run with ⟨rfl, exits⟩ | ⟨first, second, rfl, passes, tail⟩
                · exact Or.inl ⟨rfl, .block exits⟩
                · exact Or.inr ⟨_, second, (List.append_assoc _ _ _).symm, .block passes, tail⟩
          · rintro (⟨rfl, run⟩ | ⟨first, second, rfl, run, tail⟩)
            · cases run with
              | block run => exact .block (tails.2 (Or.inl ⟨rfl, run⟩))
            · cases run with
              | block run =>
                  rw [List.append_assoc]
                  exact .block (tails.2 (Or.inr ⟨_, second, rfl, run, tail⟩))
      | .box inner, _ =>
          constructor
          · intro run
            cases run with
            | box inside run =>
                rcases tails.1 run with ⟨rfl, exits⟩ | ⟨first, second, rfl, passes, tail⟩
                · exact Or.inl ⟨rfl, .box inside exits⟩
                · exact Or.inr
                    ⟨_, second, (List.append_assoc _ _ _).symm, .box inside passes, tail⟩
            | leave inside => exact Or.inl ⟨rfl, .leave inside⟩
          · rintro (⟨rfl, run⟩ | ⟨first, second, rfl, run, tail⟩)
            · cases run with
              | box inside run => exact .box inside (tails.2 (Or.inl ⟨rfl, run⟩))
              | leave inside => exact .leave inside
            · cases run with
              | box inside run =>
                  rw [List.append_assoc]
                  exact .box inside (tails.2 (Or.inr ⟨_, second, rfl, run, tail⟩))

theorem runs_bodies_through {bodies : List Region} (all : ∀ region ∈ bodies, region.isBody = true)
    {level rest : List Region} {first second : List Invocation} {ending : Ending}
    (run : Runs [] bodies first .through) (tail : Runs level rest second ending) :
    Runs level (bodies ++ rest) (first ++ second) ending :=
  (runs_bodies_iff all).2 (Or.inr ⟨first, second, rfl, run, tail⟩)

theorem runs_bodies_exit {bodies : List Region} (all : ∀ region ∈ bodies, region.isBody = true)
    {level rest : List Region} {trace : List Invocation} (run : Runs [] bodies trace .exit) :
    Runs level (bodies ++ rest) trace .exit :=
  (runs_bodies_iff all).2 (Or.inl ⟨rfl, run⟩)

theorem runs_bodies_level {bodies : List Region} (all : ∀ region ∈ bodies, region.isBody = true)
    {level : List Region} {trace : List Invocation} {ending : Ending}
    (run : Runs level bodies trace ending) : Runs [] bodies trace ending := by
  rw [← List.append_nil bodies] at run
  rcases (runs_bodies_iff all).1 run with ⟨rfl, exits⟩ | ⟨first, second, rfl, passes, tail⟩
  · exact exits
  · cases tail
    rw [List.append_nil]
    exact passes

theorem runs_one_block {level : List Region} (calls : List Invocation) :
    Runs level [.block calls] calls .through := by
  have run : Runs level [.block calls] (calls ++ []) .through := .block .past
  rwa [List.append_nil] at run

theorem runs_one_box {level inner : List Region} {trace : List Invocation}
    (inside : Runs inner inner trace .through) : Runs level [.box inner] trace .through := by
  have run : Runs level [.box inner] (trace ++ []) .through := .box inside .past
  rwa [List.append_nil] at run

/-! ## One loop -/

/-- A loop at the head of a level: its label, what comes before the test, the test, what comes
after it, the jump back and the label behind it. -/
structure IsLoop (level body rest pre post : List Region) (head exit : String)
    (line line' : Option Nat) : Prop where
  shape : level = .control (.label head) :: (pre ++ .control (.condBranch exit line) ::
    (post ++ .control (.branch head line') :: .control (.label exit) :: rest))
  bodies : ∀ region ∈ pre ++ post, region.isBody = true
  short : (pre ++ post).length ≤ 2
  /-- The loop leaves the two parts of its body, as one region. -/
  left : body = [] ∧ pre ++ post = [] ∨ body = [collapse (mergeBlocks (pre ++ post))] ∧
    pre ++ post ≠ []

theorem isLoopFrame_eq_true {jumpCount : String → Nat} {a b c d : Region}
    (h : isLoopFrame jumpCount a b c d = true) :
    ∃ head exit line line', (a = .control (.label head) ∧ b = .control (.condBranch exit line) ∧
      c = .control (.branch head line') ∧ d = .control (.label exit)) ∧
      jumpCount head = 1 ∧ jumpCount exit = 1 := by
  unfold isLoopFrame at h
  split at h
  · next head exit line back line' tail =>
    simp only [Bool.and_eq_true, beq_iff_eq] at h
    obtain ⟨⟨⟨rfl, rfl⟩, once⟩, once'⟩ := h
    exact ⟨head, exit, line, line', ⟨rfl, rfl, rfl, rfl⟩, once, once'⟩
  · cases h

theorem collapse_mergeBlocks_singleton {region : Region} (body : region.isBody = true) :
    collapse (mergeBlocks [region]) = region := by
  match region, body with
  | .block calls, _ => rfl
  | .box inner, _ => rfl

/-- Regions in the frame of a loop, around the parts of its body. -/
theorem isLoop_of_frame (pre post : List Region) {jumpCount : String → Nat} {a b c d : Region}
    {body rest : List Region} (frame : isLoopFrame jumpCount a b c d = true)
    (bodies : ∀ region ∈ pre ++ post, region.isBody = true) (short : (pre ++ post).length ≤ 2)
    (left : body = [] ∧ pre ++ post = [] ∨ body = [collapse (mergeBlocks (pre ++ post))] ∧
      pre ++ post ≠ []) :
    ∃ head exit line line',
      IsLoop (a :: (pre ++ b :: (post ++ c :: d :: rest))) body rest pre post head exit line line' ∧
        jumpCount head = 1 ∧ jumpCount exit = 1 := by
  obtain ⟨head, exit, line, line', ⟨rfl, rfl, rfl, rfl⟩, once⟩ := isLoopFrame_eq_true frame
  exact ⟨head, exit, line, line', ⟨rfl, bodies, short, left⟩, once⟩

/-- A loop that is found, with no other jump to its labels. -/
theorem loop?_eq_some {jumpCount : String → Nat} {level body rest : List Region}
    (h : loop? jumpCount level = some (body, rest)) :
    ∃ pre post head exit line line', IsLoop level body rest pre post head exit line line' ∧
      jumpCount head = 1 ∧ jumpCount exit = 1 := by
  unfold loop? at h
  split at h
  · next a b c d tail =>
    split at h
    · next frame =>
      cases h
      exact ⟨[], [], isLoop_of_frame [] [] frame (by simp) (by simp) (Or.inl ⟨rfl, rfl⟩)⟩
    · split at h
      · cases h
      · next e tail =>
        split at h
        · next found =>
          cases h
          obtain ⟨isBody, frame⟩ := (Bool.and_eq_true _ _).mp found
          refine ⟨[], [c], isLoop_of_frame [] [c] frame (by simpa using isBody) (by simp)
            (Or.inr ⟨?_, by simp⟩)⟩
          rw [List.nil_append, collapse_mergeBlocks_singleton isBody]
        · split at h
          · next found =>
            cases h
            obtain ⟨isBody, frame⟩ := (Bool.and_eq_true _ _).mp found
            refine ⟨[b], [], isLoop_of_frame [b] [] frame (by simpa using isBody) (by simp)
              (Or.inr ⟨?_, by simp⟩)⟩
            rw [List.append_nil, collapse_mergeBlocks_singleton isBody]
          · split at h
            · cases h
            · next f tail =>
              split at h
              · next found =>
                cases h
                obtain ⟨areBodies, frame⟩ := (Bool.and_eq_true _ _).mp found
                exact ⟨[b], [d], isLoop_of_frame [b] [d] frame (by simpa using areBodies) (by simp)
                  (Or.inr ⟨rfl, by simp⟩)⟩
              · cases h
  · cases h

/-- What the region left of a loop does, the two parts of the body do one after the other. -/
theorem runs_body_parts {bodies : List Region} (all : ∀ region ∈ bodies, region.isBody = true)
    {trace : List Invocation} {ending : Ending} (short : bodies.length ≤ 2)
    (run : Runs [] [collapse (mergeBlocks bodies)] trace ending) : Runs [] bodies trace ending := by
  have boxed : ∀ {bodies : List Region}, (∀ region ∈ bodies, region.isBody = true) →
      Runs [] [.box bodies] trace ending → Runs [] bodies trace ending := by
    intro bodies all run
    cases run with
    | box inside tail =>
        cases tail
        rw [List.append_nil]
        exact runs_bodies_level all inside
    | leave inside => exact runs_bodies_level all inside
  match bodies, short with
  | [], _ => exact boxed all run
  | [region], _ =>
      rw [collapse_mergeBlocks_singleton (all region List.mem_cons_self)] at run
      exact run
  | [first, second], _ =>
      match first, second, all first (by simp), all second (by simp) with
      | .block calls, .block more, _, _ =>
          cases run with
          | block tail =>
              rw [List.append_assoc]
              exact .block (.block tail)
      | .block calls, .box inner, _, _ => exact boxed all run
      | .box inner, .block calls, _, _ => exact boxed all run
      | .box inner, .box other, _, _ => exact boxed all run

theorem isBody_collapse_mergeBlocks {bodies : List Region} (short : bodies.length ≤ 2)
    (all : ∀ region ∈ bodies, region.isBody = true) :
    (collapse (mergeBlocks bodies)).isBody = true := by
  match bodies, short with
  | [], _ => rfl
  | [region], _ =>
      rw [collapse_mergeBlocks_singleton (all region List.mem_cons_self)]
      exact all region List.mem_cons_self
  | [first, second], _ =>
      match first, second, all first (by simp), all second (by simp) with
      | .block calls, .block more, _, _ => rfl
      | .block calls, .box inner, _, _ => rfl
      | .box inner, .block calls, _, _ => rfl
      | .box inner, .box other, _, _ => rfl

namespace IsLoop

variable {level body rest pre post whole : List Region} {head exit : String}
  {line line' : Option Nat}

theorem pre_bodies (loop : IsLoop level body rest pre post head exit line line') :
    ∀ region ∈ pre, region.isBody = true :=
  fun region mem => loop.bodies region (List.mem_append_left _ mem)

theorem post_bodies (loop : IsLoop level body rest pre post head exit line line') :
    ∀ region ∈ post, region.isBody = true :=
  fun region mem => loop.bodies region (List.mem_append_right _ mem)

/-- The label behind a loop and what follows it. -/
theorem exit_suffix (loop : IsLoop level body rest pre post head exit line line') :
    .control (.label exit) :: rest <:+ level := by
  refine ⟨.control (.label head) :: (pre ++ .control (.condBranch exit line) ::
    (post ++ [.control (.branch head line')])), ?_⟩
  rw [loop.shape]
  simp

/-- A run that leaves a loop at its next test. -/
theorem runs_last (loop : IsLoop level body rest pre post head exit line line')
    (placed : level <:+ whole) {first second : List Invocation} {ending : Ending}
    (before : Runs [] pre first .through) (tail : Runs whole rest second ending) :
    Runs whole level (first ++ second) ending := by
  have behind := loop.exit_suffix.trans placed
  rw [loop.shape]
  exact .label (runs_bodies_through loop.pre_bodies before
    (.jump (List.mem_singleton.2 rfl) behind (.label tail)))

/-- A run that goes round a loop once and leaves it at the next test. -/
theorem runs_round (loop : IsLoop level body rest pre post head exit line line')
    (placed : level <:+ whole) {first second third : List Invocation} {ending : Ending}
    (before : Runs [] pre first .through) (after : Runs [] post second .through)
    (tail : Runs whole rest third ending) :
    Runs whole level (first ++ (second ++ (first ++ third))) ending := by
  have again := loop.runs_last placed before tail
  rw [loop.shape] at again placed ⊢
  exact .label (runs_bodies_through loop.pre_bodies before
    (.fall (runs_bodies_through loop.post_bodies after
      (.jump (List.mem_singleton.2 rfl) placed again))))

/-- A run through the body and what comes behind the loop is part of a run. -/
theorem runs_through (loop : IsLoop level body rest pre post head exit line line')
    (placed : level <:+ whole) {first second : List Invocation} {ending : Ending}
    (inside : Runs [] (pre ++ post) first .through) (tail : Runs whole rest second ending) :
    ∃ longer, (first ++ second).Sublist longer ∧ Runs whole level longer ending := by
  rcases (runs_bodies_iff loop.pre_bodies).1 inside with
    ⟨impossible, -⟩ | ⟨before, after, rfl, runBefore, runAfter⟩
  · cases impossible
  · refine ⟨_, ?_, loop.runs_round placed runBefore runAfter tail⟩
    rw [List.append_assoc]
    exact (List.Sublist.refl before).append
      ((List.Sublist.refl after).append (List.sublist_append_right before second))

/-- A run that leaves the method in the body of a loop. -/
theorem runs_exit (loop : IsLoop level body rest pre post head exit line line')
    {trace : List Invocation} (inside : Runs [] (pre ++ post) trace .exit) :
    Runs whole level trace .exit := by
  rw [loop.shape]
  rcases (runs_bodies_iff loop.pre_bodies).1 inside with
    ⟨-, early⟩ | ⟨before, after, rfl, runBefore, late⟩
  · exact .label (runs_bodies_exit loop.pre_bodies early)
  · exact .label (runs_bodies_through loop.pre_bodies runBefore
      (.fall (runs_bodies_exit loop.post_bodies late)))

end IsLoop

/-! ## All loops of a level -/

/-- What a region that is left when loops are passed stands for: with what is behind it the whole
level, or as what a loop leaves one round of that loop. -/
inductive Remains (level rest : List Region) (region : Region) : Prop
  | kept : (∀ {whole trace ending}, level <:+ whole → Runs whole (region :: rest) trace ending →
      Runs whole level trace ending) → Remains level rest region
  | body : region.isBody = true →
      (∀ {whole first second ending}, level <:+ whole → Runs [] [region] first .through →
        Runs whole rest second ending →
        ∃ longer, (first ++ second).Sublist longer ∧ Runs whole level longer ending) →
      (∀ {whole trace}, level <:+ whole → Runs [] [region] trace .exit →
        Runs whole level trace .exit) → Remains level rest region

section Remains

variable {level rest behind body pre post whole : List Region} {region : Region}
  {head exit : String} {line line' : Option Nat} {trace first second longer : List Invocation}
  {ending : Ending}

theorem remains_self (region : Region) (rest : List Region) :
    Remains (region :: rest) rest region :=
  .kept fun _ run => run

/-- What a loop leaves stands for it. -/
theorem IsLoop.remains (loop :
      IsLoop level [collapse (mergeBlocks (pre ++ post))] rest pre post head exit line line') :
    Remains level rest (collapse (mergeBlocks (pre ++ post))) :=
  .body (isBody_collapse_mergeBlocks loop.short loop.bodies)
    (fun placed inside tail =>
      loop.runs_through placed (runs_body_parts loop.bodies loop.short inside) tail)
    fun _ inside => loop.runs_exit (runs_body_parts loop.bodies loop.short inside)

/-- A loop that leaves nothing does not change what the regions behind it stand for. -/
theorem Remains.of_empty (loop : IsLoop level [] behind [] [] head exit line line')
    (remains : Remains behind rest region) : Remains level rest region := by
  have sub := suffix_of_cons loop.exit_suffix
  cases remains with
  | kept kept =>
      exact .kept fun placed run => loop.runs_last placed .past (kept (sub.trans placed) run)
  | body isBody through exits =>
      refine .body isBody (fun placed inside tail => ?_) fun placed inside => ?_
      · obtain ⟨longer, part, run⟩ := through (sub.trans placed) inside tail
        exact ⟨longer, part, loop.runs_last placed .past run⟩
      · exact loop.runs_last placed .past (exits (sub.trans placed) inside)

theorem Remains.control {op : Control} (remains : Remains level rest (.control op))
    (placed : level <:+ whole) (run : Runs whole (.control op :: rest) trace ending) :
    Runs whole level trace ending := by
  cases remains with
  | kept kept => exact kept placed run
  | body impossible => cases impossible

/-- A run on through a region that is left is part of a run of the level. -/
theorem Remains.pass (remains : Remains level rest region) (isBody : region.isBody = true)
    (placed : level <:+ whole) (inside : Runs [] [region] first .through)
    (part : second.Sublist longer) (tail : Runs whole rest longer ending) :
    ∃ longest, (first ++ second).Sublist longest ∧ Runs whole level longest ending := by
  cases remains with
  | kept kept =>
      have bodies : ∀ other ∈ [region], other.isBody = true := List.forall_mem_singleton.2 isBody
      exact ⟨_, (List.Sublist.refl _).append part,
        kept placed (runs_bodies_through bodies inside tail)⟩
  | body _ through _ =>
      obtain ⟨longest, part', run⟩ := through placed inside tail
      exact ⟨longest, ((List.Sublist.refl _).append part).trans part', run⟩

theorem Remains.leave (remains : Remains level rest region) (isBody : region.isBody = true)
    (placed : level <:+ whole) (inside : Runs [] [region] trace .exit) :
    Runs whole level trace .exit := by
  cases remains with
  | kept kept =>
      have bodies : ∀ other ∈ [region], other.isBody = true := List.forall_mem_singleton.2 isBody
      exact kept placed (runs_bodies_exit bodies inside)
  | body _ _ exits => exact exits placed inside

end Remains

/-- A region of a level with passed loops stands for a part of the level. -/
theorem passLoops_eq_cons {jumpCount : String → Nat} {steps : Nat} {level after : List Region}
    {region : Region} (h : passLoops jumpCount steps level = region :: after) :
    ∃ steps' rest, passLoops jumpCount steps' rest = after ∧ rest <:+ level ∧
      Remains level rest region := by
  induction steps generalizing level with
  | zero =>
      rw [passLoops] at h
      subst h
      exact ⟨0, after, rfl, List.suffix_cons _ _, remains_self region after⟩
  | succ steps ih =>
      match level with
      | [] => cases h
      | first :: rest =>
          rw [passLoops] at h
          split at h
          · next body behind found =>
            obtain ⟨pre, post, head, exit, line, line', loop, -⟩ := loop?_eq_some found
            have sub := suffix_of_cons loop.exit_suffix
            rcases loop.left with ⟨rfl, empty⟩ | ⟨rfl, -⟩
            · -- Nothing is left of the loop, so `region` is further on.
              obtain ⟨steps', rest', same, sub', remains⟩ := ih h
              obtain ⟨rfl, rfl⟩ := List.append_eq_nil_iff.1 empty
              exact ⟨steps', rest', same, sub'.trans sub, remains.of_empty loop⟩
            · cases h
              exact ⟨steps, behind, rfl, sub, loop.remains⟩
          · cases h
            exact ⟨steps, rest, rfl, List.suffix_cons _ _, remains_self region rest⟩

theorem runs_of_passLoops_eq_nil {jumpCount : String → Nat} {steps : Nat} {level : List Region}
    (h : passLoops jumpCount steps level = []) {whole : List Region} (placed : level <:+ whole) :
    Runs whole level [] .through := by
  induction steps generalizing level with
  | zero =>
      obtain rfl : level = [] := h
      exact .past
  | succ steps ih =>
      match level with
      | [] => exact .past
      | first :: rest =>
          rw [passLoops] at h
          split at h
          · next body behind found =>
            obtain ⟨pre, post, head, exit, line, line', loop, -⟩ := loop?_eq_some found
            obtain ⟨rfl, h⟩ := List.append_eq_nil_iff.1 h
            rcases loop.left with ⟨-, empty⟩ | ⟨impossible, -⟩
            · obtain ⟨rfl, rfl⟩ := List.append_eq_nil_iff.1 empty
              exact loop.runs_last placed .past
                (ih h ((suffix_of_cons loop.exit_suffix).trans placed))
            · cases impossible
          · cases h

/-- A control instruction left after passing loops stands on the level. -/
theorem exists_of_control_suffix {jumpCount : String → Nat} {steps : Nat}
    {level after : List Region} {op : Control}
    (h : .control op :: after <:+ passLoops jumpCount steps level) :
    ∃ steps' rest, .control op :: rest <:+ level ∧
      passLoops jumpCount steps' (.control op :: rest) = .control op :: after := by
  induction steps generalizing level with
  | zero => exact ⟨0, after, h, rfl⟩
  | succ steps ih =>
      match level with
      | [] => exact absurd (List.suffix_nil.1 h) (List.cons_ne_nil _ _)
      | first :: rest =>
          rw [passLoops] at h
          split at h
          · next body behind found =>
            obtain ⟨pre, post, head, exit, line, line', loop, -⟩ := loop?_eq_some found
            have sub := suffix_of_cons loop.exit_suffix
            have later : .control op :: after <:+ passLoops jumpCount steps behind := by
              rcases loop.left with ⟨rfl, -⟩ | ⟨rfl, -⟩
              · exact h
              · rcases List.suffix_cons_iff.1 h with same | h
                · have body := isBody_collapse_mergeBlocks loop.short loop.bodies
                  rw [← (List.cons.inj same).1] at body
                  cases body
                · exact h
            obtain ⟨steps', rest', sub', same⟩ := ih later
            exact ⟨steps', rest', sub'.trans sub, same⟩
          · next none =>
            rcases List.suffix_cons_iff.1 h with same | h
            · cases same
              refine ⟨steps + 1, rest, List.suffix_rfl, ?_⟩
              rw [passLoops, none]
            · obtain ⟨steps', rest', sub', same⟩ := ih h
              exact ⟨steps', rest', sub'.trans (List.suffix_cons _ _), same⟩

theorem runs_of_passLoops {jumpCount : String → Nat} {size : Nat} {level place : List Region}
    {trace : List Invocation} {ending : Ending}
    (run : Runs (passLoops jumpCount size level) place trace ending) {steps : Nat}
    {rest : List Region} (same : passLoops jumpCount steps rest = place) (placed : rest <:+ level) :
    ∃ longer, trace.Sublist longer ∧ Runs level rest longer ending := by
  generalize passed : passLoops jumpCount size level = whole at run
  -- Each region is one of the level or what a loop leaves, and only blocks and boxes are left.
  induction run generalizing steps rest with
  | past => exact ⟨[], .refl _, runs_of_passLoops_eq_nil same placed⟩
  | block tail ih =>
      obtain ⟨steps', rest', same', sub, remains⟩ := passLoops_eq_cons same
      obtain ⟨longer, part, run⟩ := ih same' (sub.trans placed) passed
      exact remains.pass rfl placed (runs_one_block _) part run
  | box inside tail _ ih =>
      obtain ⟨steps', rest', same', sub, remains⟩ := passLoops_eq_cons same
      obtain ⟨longer, part, run⟩ := ih same' (sub.trans placed) passed
      exact remains.pass rfl placed (runs_one_box inside) part run
  | leave inside =>
      obtain ⟨steps', rest', -, -, remains⟩ := passLoops_eq_cons same
      exact ⟨_, .refl _, remains.leave rfl placed (.leave inside)⟩
  | ret =>
      obtain ⟨steps', rest', -, -, remains⟩ := passLoops_eq_cons same
      exact ⟨[], .refl _, remains.control placed .ret⟩
  | throw =>
      obtain ⟨steps', rest', -, -, remains⟩ := passLoops_eq_cons same
      exact ⟨[], .refl _, remains.control placed .throw⟩
  | label tail ih =>
      obtain ⟨steps', rest', same', sub, remains⟩ := passLoops_eq_cons same
      obtain ⟨longer, part, run⟩ := ih same' (sub.trans placed) passed
      exact ⟨longer, part, remains.control placed (.label run)⟩
  | fall tail ih =>
      obtain ⟨steps', rest', same', sub, remains⟩ := passLoops_eq_cons same
      obtain ⟨longer, part, run⟩ := ih same' (sub.trans placed) passed
      exact ⟨longer, part, remains.control placed (.fall run)⟩
  | jump mem found tail ih =>
      obtain ⟨steps', rest', -, -, remains⟩ := passLoops_eq_cons same
      rw [← passed] at found
      obtain ⟨steps'', after, sub, same''⟩ := exists_of_control_suffix found
      obtain ⟨longer, part, run⟩ := ih same'' sub passed
      exact ⟨longer, part, remains.control placed (.jump mem sub run)⟩

theorem below_passLoops (jumpCount : String → Nat) (steps : Nat) (level : List Region) :
    Below (passLoops jumpCount steps level) level :=
  fun _ _ run => runs_of_passLoops run rfl List.suffix_rfl

theorem below_settleLoops (jumpCount : String → Nat) (rounds : Nat) (level : List Region) :
    Below (settleLoops jumpCount rounds level) level := by
  induction rounds generalizing level with
  | zero => exact .refl level
  | succ rounds ih => exact (ih _).trans (below_passLoops jumpCount level.length level)

end CallSearch.Region
