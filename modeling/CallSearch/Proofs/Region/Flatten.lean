/-
# CallSearch.Proofs.Region.Flatten — flattening loops on every level

Flattening goes from the inside out: the boxes of a level are flattened, then its
loops are passed and its blocks put together.  A box may shrink to one region, which
then stands on the level around it.  Labels are defined once only, so no jump of the
level leads there, and no jump of that region leads out.

* `below_flattenLoops`: runs of flattened regions leave out calls of runs;
* `flat_flattenLoops`: without jumps back there is nothing to flatten.
-/
import CallSearch.Proofs.Region.Changes
import Mathlib.Data.List.Pairwise

namespace CallSearch.Region

set_option autoImplicit false

/-! ## Blocks in a row -/

theorem mergeBlocks_eq_nil {level : List Region} (h : mergeBlocks level = []) : level = [] := by
  match level with
  | [] => rfl
  | .box inner :: rest => cases h
  | .control op :: rest => cases h
  | .block calls :: rest =>
      rw [mergeBlocks] at h
      split at h <;> cases h

/-- A region of merged blocks is a region of the level, or the blocks of a stretch of it. -/
theorem mergeBlocks_eq_cons {level after : List Region} {region : Region}
    (h : mergeBlocks level = region :: after) :
    ∃ rest, mergeBlocks rest = after ∧ (level = region :: rest ∨
      ∃ calls, region = .block calls ∧ ∀ whole trace ending, Runs whole rest trace ending →
        Runs whole level (calls ++ trace) ending) := by
  induction level generalizing region after with
  | nil => cases h
  | cons first rest ih =>
      match first with
      | .box inner =>
          cases h
          exact ⟨rest, rfl, Or.inl rfl⟩
      | .control op =>
          cases h
          exact ⟨rest, rfl, Or.inl rfl⟩
      | .block calls =>
          rw [mergeBlocks] at h
          split at h
          · next more regions same =>
            cases h
            obtain ⟨rest', same', cases⟩ := ih same
            refine ⟨rest', same', Or.inr ⟨calls ++ more, rfl, fun whole trace ending run => ?_⟩⟩
            rw [List.append_assoc]
            rcases cases with rfl | ⟨calls', same, longer⟩
            · exact .block (.block run)
            · cases same
              exact .block (longer whole trace ending run)
          · cases h
            exact ⟨rest, rfl, Or.inl rfl⟩

theorem control_suffix_mergeBlocks {level after : List Region} {op : Control}
    (h : .control op :: after <:+ mergeBlocks level) :
    ∃ rest, .control op :: rest <:+ level ∧
      mergeBlocks (.control op :: rest) = .control op :: after := by
  induction level generalizing after with
  | nil => exact absurd (List.suffix_nil.1 h) (List.cons_ne_nil _ _)
  | cons first level ih =>
      have inside : .control op :: after <:+ mergeBlocks level →
          ∃ rest, .control op :: rest <:+ first :: level ∧
            mergeBlocks (.control op :: rest) = .control op :: after := by
        intro h
        obtain ⟨rest, sub, same⟩ := ih h
        exact ⟨rest, sub.trans (List.suffix_cons _ _), same⟩
      cases first with
      | box inner =>
          rcases List.suffix_cons_iff.1 h with same | h
          · cases same
          · exact inside h
      | control other =>
          rcases List.suffix_cons_iff.1 h with same | h
          · cases same
            exact ⟨level, List.suffix_rfl, rfl⟩
          · exact inside h
      | block calls =>
          rw [mergeBlocks] at h
          split at h
          · next more regions same =>
            rcases List.suffix_cons_iff.1 h with same | h
            · cases same
            · exact inside (same ▸ h.trans (List.suffix_cons _ _))
          · rcases List.suffix_cons_iff.1 h with same | h
            · cases same
            · exact inside h

theorem runs_of_mergeBlocks {level place : List Region} {trace : List Invocation}
    {ending : Ending} (run : Runs (mergeBlocks level) place trace ending) {rest : List Region}
    (same : mergeBlocks rest = place) : Runs level rest trace ending := by
  generalize passed : mergeBlocks level = whole at run
  induction run generalizing rest with
  | past =>
      rw [mergeBlocks_eq_nil same]
      exact .past
  | block _ ih =>
      obtain ⟨rest', same', rfl | ⟨calls, same, longer⟩⟩ := mergeBlocks_eq_cons same
      · exact .block (ih same' passed)
      · cases same
        exact longer _ _ _ (ih same' passed)
  | box inside _ _ ih =>
      obtain ⟨rest', same', rfl | ⟨calls, same, -⟩⟩ := mergeBlocks_eq_cons same
      · exact .box inside (ih same' passed)
      · cases same
  | leave inside =>
      obtain ⟨rest', -, rfl | ⟨calls, same, -⟩⟩ := mergeBlocks_eq_cons same
      · exact .leave inside
      · cases same
  | ret =>
      obtain ⟨rest', -, rfl | ⟨calls, same, -⟩⟩ := mergeBlocks_eq_cons same
      · exact .ret
      · cases same
  | throw =>
      obtain ⟨rest', -, rfl | ⟨calls, same, -⟩⟩ := mergeBlocks_eq_cons same
      · exact .throw
      · cases same
  | label _ ih =>
      obtain ⟨rest', same', rfl | ⟨calls, same, -⟩⟩ := mergeBlocks_eq_cons same
      · exact .label (ih same' passed)
      · cases same
  | fall _ ih =>
      obtain ⟨rest', same', rfl | ⟨calls, same, -⟩⟩ := mergeBlocks_eq_cons same
      · exact .fall (ih same' passed)
      · cases same
  | jump mem found _ ih =>
      obtain ⟨rest', -, rfl | ⟨calls, same, -⟩⟩ := mergeBlocks_eq_cons same
      · rw [← passed] at found
        obtain ⟨after, sub, same'⟩ := control_suffix_mergeBlocks found
        exact .jump mem sub (ih same' passed)
      · cases same

theorem below_mergeBlocks (level : List Region) : Below (mergeBlocks level) level :=
  fun trace _ run => ⟨trace, .refl _, runs_of_mergeBlocks run rfl⟩

/-! ## Names across levels -/

theorem labels_flat (level : List Region) :
    Code.labels (flat level) = level.flatMap fun region => Code.labels (flatOne region) := by
  induction level with
  | nil => rfl
  | cons region rest ih => rw [flat, Code.labels_append, ih, List.flatMap_cons]

/-- Where no label is defined twice, only one region of a level has a label in it. -/
theorem region_unique {level : List Region} (distinct : (Code.labels (flat level)).Nodup)
    {first second : Region} (mem : first ∈ level) (mem' : second ∈ level) {name : String}
    (h : name ∈ Code.labels (flatOne first)) (h' : name ∈ Code.labels (flatOne second)) :
    first = second := by
  rw [labels_flat, List.nodup_flatMap] at distinct
  by_contra apart
  have symmetric : Std.Symm (Function.onFun List.Disjoint
      fun region => Code.labels (flatOne region)) := ⟨fun _ _ h => h.symm⟩
  exact distinct.2.forall mem mem' apart h h'

/-- Inside closed regions every jump has its label. -/
theorem Closed.label_mem_flat {level : List Region} (closed : Closed level) {op : Control}
    (mem : .control op ∈ flat level) {target : String} (jumps : target ∈ op.targets) :
    target ∈ Code.labels (flat level) := by
  induction closed with
  | @intro level own _ ih =>
      obtain ⟨region, here, mem⟩ := mem_flat.1 mem
      cases region with
      | block calls => simp [flatOne] at mem
      | box inner =>
          have found := ih inner here mem
          exact Code.mem_labels.2 (mem_flat.2 ⟨_, here, Code.mem_labels.1 found⟩)
      | control other =>
          simp only [flatOne, List.mem_singleton, Instruction.control.injEq] at mem
          subst mem
          exact Code.mem_labels.2
            (mem_flat.2 ⟨_, own op here target jumps, List.mem_singleton.2 rfl⟩)

/-! ## Boxes that shrink -/

/-- What a level around a shrunken box does in it is a run of the box. -/
theorem runs_box_of_below {small inner : List Region} (below : Below small inner)
    {level rest : List Region} {first second : List Invocation} {ending : Ending}
    (inside : Runs small small first .through)
    (tail : ∃ longer, second.Sublist longer ∧ Runs level rest longer ending) :
    ∃ longer, (first ++ second).Sublist longer ∧ Runs level (.box inner :: rest) longer ending := by
  obtain ⟨longer, part, run⟩ := below _ _ inside
  obtain ⟨longer', part', run'⟩ := tail
  exact ⟨longer ++ longer', part.append part', .box run run'⟩

theorem runs_leave_of_below {small inner : List Region} (below : Below small inner)
    {level rest : List Region} {trace : List Invocation} (inside : Runs small small trace .exit) :
    ∃ longer, trace.Sublist longer ∧ Runs level (.box inner :: rest) longer .exit := by
  obtain ⟨longer, part, run⟩ := below _ _ inside
  exact ⟨longer, part, .leave run⟩

theorem flattenAll_eq_map (jumpCount : String → Nat) (level : List Region) :
    flattenAll jumpCount level = level.map (flattenInside jumpCount) := by
  induction level with
  | nil => rfl
  | cons region rest ih => rw [flattenAll, ih, List.map_cons]

/-- What a region becomes when the boxes of its level are flattened: a box may be left with one
region, which then stands for it. -/
inductive Shrinks (jumpCount : String → Nat) : Region → Region → Prop
  | same {region : Region} : (∀ inner, region ≠ .box inner) → Shrinks jumpCount region region
  | box {inner : List Region} :
      Shrinks jumpCount (.box inner) (.box (flattenLoops jumpCount inner))
  | alone {inner : List Region} {region : Region} :
      flattenLoops jumpCount inner = [region] → Shrinks jumpCount (.box inner) region

theorem shrinks_flattenInside (jumpCount : String → Nat) (region : Region) :
    Shrinks jumpCount region (flattenInside jumpCount region) := by
  cases region with
  | block calls => exact .same fun _ h => nomatch h
  | control op => exact .same fun _ h => nomatch h
  | box inner =>
      rw [flattenInside]
      rcases collapse_cases (flattenLoops jumpCount inner) with boxed | alone
      · exact boxed ▸ .box
      · exact .alone alone

theorem exists_shrinks {jumpCount : String → Nat} {rest after : List Region} {region : Region}
    (h : rest.map (flattenInside jumpCount) = region :: after) :
    ∃ first behind, rest = first :: behind ∧ Shrinks jumpCount first region ∧
      behind.map (flattenInside jumpCount) = after := by
  obtain ⟨first, behind, rfl, rfl, same⟩ := List.map_eq_cons_iff.1 h
  exact ⟨first, behind, rfl, shrinks_flattenInside jumpCount first, same⟩

/-- What is left of a region has no code but that of the region. -/
theorem Shrinks.mem_flatOne {jumpCount : String → Nat} {region : Region} {op : Control}
    (h : Shrinks jumpCount region (.control op)) : .control op ∈ flatOne region := by
  cases h with
  | same => exact List.mem_singleton.2 rfl
  | @alone inner _ alone =>
      refine (flat_flattenLoops_sublist jumpCount inner).subset ?_
      rw [alone]
      exact List.mem_singleton.2 rfl

section Shrinks

variable {jumpCount : String → Nat} {first region : Region} {level rest : List Region}
  {calls trace : List Invocation} {ending : Ending}

/-- A run that passes what is left of a region and goes on is part of a run that passes the region.
What is left of a box alone is passed as by a run through the box. -/
theorem Shrinks.exists_pass (shrinks : Shrinks jumpCount first region)
    (below : ∀ inner, .box inner ∈ level → Below (flattenLoops jumpCount inner) inner)
    (placed : first :: rest <:+ level) (alone : Runs [region] [region] calls .through)
    (pass : ∀ {longer}, Runs level rest longer ending →
      Runs level (region :: rest) (calls ++ longer) ending)
    (behind : ∃ longer, trace.Sublist longer ∧ Runs level rest longer ending) :
    ∃ longer, (calls ++ trace).Sublist longer ∧ Runs level (first :: rest) longer ending := by
  cases shrinks with
  | same =>
      obtain ⟨longer, part, run⟩ := behind
      exact ⟨_, (List.Sublist.refl calls).append part, pass run⟩
  | box =>
      cases alone with
      | box inside past =>
          cases past
          rw [List.append_nil]
          exact runs_box_of_below (below _ (mem_of_suffix placed)) inside behind
  | alone left =>
      exact runs_box_of_below (below _ (mem_of_suffix placed)) (left ▸ alone) behind

/-- A run that leaves the method in what is left of a region is part of one that leaves it in the
region. -/
theorem Shrinks.exists_leave (shrinks : Shrinks jumpCount first region)
    (below : ∀ inner, .box inner ∈ level → Below (flattenLoops jumpCount inner) inner)
    (placed : first :: rest <:+ level) (alone : Runs [region] [region] trace .exit)
    (leave : Runs level (region :: rest) trace .exit) :
    ∃ longer, trace.Sublist longer ∧ Runs level (first :: rest) longer .exit := by
  cases shrinks with
  | same => exact ⟨trace, .refl _, leave⟩
  | box =>
      cases alone with
      | box _ past => cases past
      | leave inside => exact runs_leave_of_below (below _ (mem_of_suffix placed)) inside
  | alone left => exact runs_leave_of_below (below _ (mem_of_suffix placed)) (left ▸ alone)

end Shrinks

/-- A run on a level with its boxes flattened is part of a run on the level. -/
theorem runs_of_flattenAll {jumpCount : String → Nat} {level place : List Region}
    (closed : Closed level) (distinct : (Code.labels (flat level)).Nodup)
    (below : ∀ inner, .box inner ∈ level → Below (flattenLoops jumpCount inner) inner)
    {trace : List Invocation} {ending : Ending}
    (run : Runs (level.map (flattenInside jumpCount)) place trace ending) {rest : List Region}
    (same : rest.map (flattenInside jumpCount) = place) (placed : rest <:+ level) :
    ∃ longer, trace.Sublist longer ∧ Runs level rest longer ending := by
  generalize passed : level.map (flattenInside jumpCount) = whole at run
  induction run generalizing rest with
  | past =>
      rw [List.map_eq_nil_iff.1 same]
      exact ⟨[], .refl _, .past⟩
  | block _ ih =>
      obtain ⟨first, rest, rfl, shrinks, same⟩ := exists_shrinks same
      exact shrinks.exists_pass below placed (runs_one_block _) .block
        (ih same (suffix_of_cons placed) passed)
  | box inside _ _ ih =>
      obtain ⟨first, rest, rfl, shrinks, same⟩ := exists_shrinks same
      exact shrinks.exists_pass below placed (runs_one_box inside) (.box inside)
        (ih same (suffix_of_cons placed) passed)
  | leave inside =>
      obtain ⟨first, rest, rfl, shrinks, -⟩ := exists_shrinks same
      exact shrinks.exists_leave below placed (.leave inside) (.leave inside)
  | ret =>
      obtain ⟨first, rest, rfl, shrinks, -⟩ := exists_shrinks same
      exact shrinks.exists_leave below placed .ret .ret
  | throw =>
      obtain ⟨first, rest, rfl, shrinks, -⟩ := exists_shrinks same
      exact shrinks.exists_leave below placed .throw .throw
  | label _ ih =>
      obtain ⟨first, rest, rfl, shrinks, same⟩ := exists_shrinks same
      exact shrinks.exists_pass below placed (.label .past) .label
        (ih same (suffix_of_cons placed) passed)
  | fall _ ih =>
      obtain ⟨first, rest, rfl, shrinks, same⟩ := exists_shrinks same
      exact shrinks.exists_pass below placed (.fall .past) .fall
        (ih same (suffix_of_cons placed) passed)
  | jump mem found _ ih =>
      obtain ⟨first, rest, rfl, shrinks, -⟩ := exists_shrinks same
      rw [← passed] at found
      obtain ⟨there, sub, same'⟩ := List.suffix_map_iff.1 found
      obtain ⟨labelled, behind, rfl, shrinks', -⟩ := exists_shrinks same'.symm
      have named := Code.mem_labels.2 shrinks'.mem_flatOne
      cases shrinks with
      | same =>
          have here := closed.label_mem (mem_of_suffix placed) mem
          obtain rfl := region_unique distinct (mem_of_suffix sub) here named
            (List.mem_singleton.2 rfl)
          obtain ⟨longer, part, run⟩ := ih same'.symm sub passed
          exact ⟨longer, part, .jump mem sub run⟩
      | @alone inner _ alone =>
          -- The label of the jump is in the box, and the jump is all that is left of the box.
          have inside := (closed.inner (mem_of_suffix placed)).label_mem_flat
            (Shrinks.alone alone).mem_flatOne mem
          obtain rfl := region_unique distinct (mem_of_suffix sub) (mem_of_suffix placed) named
            inside
          cases shrinks' with
          | alone alone' =>
              cases alone.symm.trans alone'
              cases mem

theorem below_flattenLoops (jumpCount : String → Nat) {level : List Region} (closed : Closed level)
    (distinct : (Code.labels (flat level)).Nodup) : Below (flattenLoops jumpCount level) level := by
  induction closed with
  | @intro level own boxes ih =>
      have inside : Below (flattenAll jumpCount level) level := by
        intro trace ending run
        rw [flattenAll_eq_map] at run
        refine runs_of_flattenAll (.intro own boxes) distinct (fun inner mem => ?_) run rfl
          List.suffix_rfl
        exact ih inner mem (((flat_inner_sublist mem).filterMap _).nodup distinct)
      exact ((below_mergeBlocks _).trans (below_settleLoops jumpCount _ _)).trans inside

/-! ## Without loops -/

theorem loop?_eq_none {jumpCount : String → Nat} {level : List Region}
    (free : Code.LoopFree (flat level)) : loop? jumpCount level = none := by
  match found : loop? jumpCount level with
  | none => rfl
  | some (body, rest) =>
      obtain ⟨pre, post, head, exit, line, line', loop, -⟩ := loop?_eq_some found
      rw [loop.shape] at free
      refine absurd (List.mem_singleton.2 rfl) (free head _ List.suffix_rfl
        (.control (.branch head line')) ?_)
      simp [flat, flatOne, flat_append]

theorem passLoops_eq_self {jumpCount : String → Nat} {level : List Region}
    (free : Code.LoopFree (flat level)) (steps : Nat) :
    passLoops jumpCount steps level = level := by
  induction steps generalizing level with
  | zero => rfl
  | succ steps ih =>
      match level with
      | [] => rfl
      | region :: rest =>
          rw [passLoops, loop?_eq_none free]
          exact congrArg _ (ih (free.sublist (List.sublist_append_right _ _)))

theorem settleLoops_eq_self {jumpCount : String → Nat} {level : List Region}
    (free : Code.LoopFree (flat level)) (rounds : Nat) :
    settleLoops jumpCount rounds level = level := by
  induction rounds with
  | zero => rfl
  | succ rounds ih => rw [settleLoops, passLoops_eq_self free, ih]

mutual

theorem flatOne_flattenInside (jumpCount : String → Nat) : ∀ region : Region,
    Code.LoopFree (flatOne region) → flatOne (flattenInside jumpCount region) = flatOne region
  | .block _, _ => rfl
  | .control _, _ => rfl
  | .box inner, free => by
      have same := flat_flattenAll jumpCount inner free
      rw [flattenInside, flatOne_collapse, flattenLevel, flat_mergeBlocks,
        settleLoops_eq_self (same ▸ free)]
      exact same

theorem flat_flattenAll (jumpCount : String → Nat) : ∀ level : List Region,
    Code.LoopFree (flat level) → flat (flattenAll jumpCount level) = flat level
  | [], _ => rfl
  | region :: rest, free => by
      rw [flattenAll, flat, flat,
        flatOne_flattenInside jumpCount region (free.sublist (List.sublist_append_left _ _)),
        flat_flattenAll jumpCount rest (free.sublist (List.sublist_append_right _ _))]

end

theorem flat_flattenLoops {jumpCount : String → Nat} {level : List Region}
    (free : Code.LoopFree (flat level)) : flat (flattenLoops jumpCount level) = flat level := by
  have same := flat_flattenAll jumpCount level free
  rw [flattenLoops, flattenLevel, flat_mergeBlocks, settleLoops_eq_self (same.symm ▸ free), same]

end CallSearch.Region
