/-
# CallSearch.Proofs.Tree.Factor — compressing paths loses, repeats and adds nothing

`Factors` says what compressing some paths comes to when nothing bounds how far sharing
goes; a derivation of it is a run that ends.  Each group with several members has an end
to share, so what is left of it has fewer steps, and the bound that `Tree.ofPaths` starts
with is never reached (`factors_factor`).

A grouping files every path once, and what is left of a group with its ends put back on is
the group.  So by induction on the run the tree has every path exactly once, and it has no
more leaves than the paths have steps (`Factors.faithful`).
-/
import CallSearch.Proofs.Tree.Compress
import CallSearch.Proofs.Tree.Normal
import CallSearch.Proofs.Tree.Sequences
import Mathlib.Algebra.Order.BigOperators.Group.List
import Mathlib.Algebra.Order.Ring.Nat

namespace CallSearch

set_option autoImplicit false
set_option linter.unusedSectionVars false

/-- What is sorted has no repetitions. -/
theorem nodup_sortUnique {α : Type} [Ord α] [Std.TransOrd α] (items : List α) :
    (sortUnique items).Nodup :=
  (sortUnique_pairwise items).imp fun {a b} less same => by
    have equal : compare a b = .eq := same ▸ Std.ReflCmp.compare_self
    rw [equal] at less
    cases less

/-- Sorting a list without repetitions rearranges it. -/
theorem sortUnique_perm {α : Type} [Ord α] [Std.TransOrd α] [Std.LawfulEqOrd α] {items : List α}
    (distinct : items.Nodup) : (sortUnique items).Perm items :=
  (List.perm_ext_iff_of_nodup (nodup_sortUnique items) distinct).2 fun _ => mem_sortUnique

namespace Tree

variable {σ : Type}

/-! ## Steps -/

theorem stepCount_eq (paths : List (List σ)) : stepCount paths = (paths.map List.length).sum := rfl

theorem stepCount_le_of_subperm {first second : List (List σ)} (sub : first.Subperm second) :
    stepCount first ≤ stepCount second := by
  obtain ⟨middle, perm, sub⟩ := sub
  rw [stepCount_eq, stepCount_eq, ← (perm.map List.length).sum_eq]
  exact (sub.map List.length).sum_le_sum fun _ _ => Nat.zero_le _

theorem stepCount_flatMap {κ : Type} (groups : List κ) (members : κ → List (List σ)) :
    stepCount (groups.flatMap members) = (groups.map fun group => stepCount (members group)).sum := by
  induction groups with
  | nil => rfl
  | cons group rest ih =>
      rw [List.flatMap_cons, List.map_cons, List.sum_cons, ← ih, stepCount_eq, stepCount_eq,
        stepCount_eq, List.map_append, List.sum_append]

variable [Ord σ]

/-- The steps shared by the members of a group: those of its ends that are taken off. -/
def sharedSteps (ends : Ends σ) (members : List (List σ)) : Nat :=
  ends.first.toList.length + (remainders ends members).2.toList.length

/-- Putting the shared ends back on what is left gives the members of a group. -/
theorem map_remainders {ends : Ends σ} {members : List (List σ)}
    (fits : ∀ path ∈ members, ends.Fits path) :
    (remainders ends members).1.map (fun rest =>
      ends.first.toList ++ (rest ++ (remainders ends members).2.toList)) = members := by
  -- First the first step, then the last one where it can be taken off.
  have first : (if ends.first.isSome then members.map List.tail else members).map
      (ends.first.toList ++ ·) = members := by
    cases hfirst : ends.first with
    | none => simp
    | some step =>
        simp only [Option.isSome_some, if_true, List.map_map]
        refine (List.map_congr_left fun path mem => ?_).trans (List.map_id members)
        exact (eq_cons_of_head? ((fits path mem).1 step hfirst)).symm
  unfold remainders
  generalize (if ends.first.isSome then members.map List.tail else members) = stripped at first ⊢
  cases hlast : ends.last with
  | none => simpa using first
  | some last =>
      by_cases full : stripped.all fun rest => !rest.isEmpty
      · simp only [full, if_true, Option.toList_some, List.map_map]
        refine (List.map_congr_left fun rest mem => ?_).trans first
        simp only [List.all_eq_true, Bool.not_eq_true', List.isEmpty_eq_false_iff] at full
        have whole : ends.first.toList ++ rest ∈ members := first ▸ List.mem_map_of_mem mem
        have tailed := (fits _ whole).2 last hlast
        rw [List.getLast?_append_of_ne_nil _ (full rest mem)] at tailed
        simp only [Function.comp_apply, ← eq_append_of_getLast? tailed]
      · simpa [full] using first

theorem length_remainders {ends : Ends σ} {members : List (List σ)}
    (fits : ∀ path ∈ members, ends.Fits path) :
    (remainders ends members).1.length = members.length := by
  have back := congrArg List.length (map_remainders fits)
  rwa [List.length_map] at back

/-- Every member of a group has the shared steps besides what is left of it. -/
theorem stepCount_members {ends : Ends σ} {members : List (List σ)}
    (fits : ∀ path ∈ members, ends.Fits path) :
    stepCount members =
      stepCount (remainders ends members).1 + members.length * sharedSteps ends members := by
  have count : ∀ rests : List (List σ), stepCount (rests.map fun rest =>
      ends.first.toList ++ (rest ++ (remainders ends members).2.toList)) =
      stepCount rests + rests.length * sharedSteps ends members := by
    intro rests
    induction rests with
    | nil => simp [stepCount]
    | cons rest rests ih =>
        rw [stepCount_eq] at ih ⊢
        rw [List.map_cons, List.map_cons, List.sum_cons, ih, stepCount_eq, stepCount_eq,
          List.map_cons, List.sum_cons, List.length_cons, Nat.succ_mul, sharedSteps]
        simp only [List.length_append]
        omega
  conv_lhs => rw [← map_remainders fits]
  rw [count, length_remainders fits]

section Groups

variable [Std.TransOrd σ] [Std.LawfulEqOrd σ]

instance : Std.TransOrd (Ends σ) :=
  inferInstanceAs (Std.TransCmp (compareLex (compareOn Ends.first) (compareOn Ends.last)))

/-! ## Groups -/

theorem mem_group_iff {grouping : Grouping} {paths : List (List σ)} {ends : Ends σ}
    {path : List σ} :
    path ∈ paths.filter (fun path => compare (grouping.ends path) ends == .eq) ↔
      path ∈ paths ∧ grouping.ends path = ends := by
  simp only [List.mem_filter, beq_iff_eq, Std.LawfulEqCmp.compare_eq_iff_eq]

/-- A grouping files every path in one group. -/
theorem groups_perm (grouping : Grouping) {paths : List (List σ)} (distinct : paths.Nodup) :
    ((grouping.groups paths).flatMap Prod.snd).Perm paths := by
  rw [Grouping.groups, List.flatMap_map]
  refine (List.perm_ext_iff_of_nodup ?_ distinct).2 fun path => ?_
  · refine List.nodup_flatMap.2 ⟨fun _ _ => distinct.filter _, ?_⟩
    refine (nodup_sortUnique _).imp fun {ends other} apart path here there => apart ?_
    exact (mem_group_iff.1 here).2.symm.trans (mem_group_iff.1 there).2
  · simp only [List.mem_flatMap, mem_group_iff, mem_sortUnique, List.mem_map]
    constructor
    · rintro ⟨_, _, mem, _⟩
      exact mem
    · intro mem
      exact ⟨_, ⟨path, mem, rfl⟩, mem, rfl⟩

/-- Two different paths of one group share a step. -/
theorem exists_end {grouping : Grouping} {first second : List σ} (apart : first ≠ second)
    (same : grouping.ends first = grouping.ends second) :
    (grouping.ends first).first.isSome ∨ (grouping.ends first).last.isSome := by
  cases grouping with
  | bothEnds | firstStep =>
      refine Or.inl ?_
      cases first with
      | cons => rfl
      | nil =>
          cases second with
          | nil => exact absurd rfl apart
          | cons => cases congrArg Ends.first same
  | lastStep =>
      refine Or.inr ?_
      have last : first.getLast? = second.getLast? := congrArg Ends.last same
      cases h : first.getLast? with
      | some step => simp [Grouping.ends, h]
      | none =>
          rw [h] at last
          exact absurd ((List.getLast?_eq_none_iff.1 h).trans
            (List.getLast?_eq_none_iff.1 last.symm).symm) apart

/-- A last step is filed apart from the first only where the first can be taken off before it. -/
theorem ne_nil_of_last {grouping : Grouping} {path : List σ} {last : σ}
    (some : (grouping.ends path).last = some last) :
    (if (grouping.ends path).first.isSome then path.tail else path) ≠ [] := by
  cases grouping with
  | firstStep => cases some
  | lastStep =>
      rintro rfl
      cases some
  | bothEnds =>
      match path with
      | [] | [_] => simp [Grouping.ends] at some
      | _ :: _ :: _ => simp [Grouping.ends]

/-- The ends a group is filed under are taken off its members. -/
theorem remainders_last {grouping : Grouping} {members : List (List σ)} {ends : Ends σ}
    (filed : ∀ path ∈ members, grouping.ends path = ends) :
    (remainders ends members).2 = ends.last := by
  have stripped : (if ends.first.isSome then members.map List.tail else members) =
      members.map fun path => if ends.first.isSome then path.tail else path := by
    split <;> simp
  unfold remainders
  rw [stripped]
  cases hlast : ends.last with
  | none => rfl
  | some last =>
      have full : (members.map fun path => if ends.first.isSome then path.tail else path).all
          fun rest => !rest.isEmpty := by
        simp only [List.all_map, List.all_eq_true, Function.comp_apply, Bool.not_eq_true',
          List.isEmpty_eq_false_iff]
        intro path mem
        have here := filed path mem
        rw [← here] at hlast ⊢
        exact ne_nil_of_last hlast
      simp only [full, if_true]

/-- What makes groups of distinct paths safe to compress: every path is in one group, with the
ends of the group, and paths of one group share a step. -/
structure Files (groups : List (Ends σ × List (List σ))) (paths : List (List σ)) : Prop where
  perm : (groups.flatMap Prod.snd).Perm paths
  fits : ∀ group ∈ groups, ∀ path ∈ group.2, group.1.Fits path
  shares : ∀ group ∈ groups, 2 ≤ group.2.length → 1 ≤ sharedSteps group.1 group.2

theorem files_groups (grouping : Grouping) {paths : List (List σ)} (distinct : paths.Nodup) :
    Files (grouping.groups paths) paths where
  perm := groups_perm grouping distinct
  fits := (covers_groups grouping paths).fits
  shares := by
    intro group mem several
    obtain ⟨ends, -, rfl⟩ := List.mem_map.1 mem
    have filed : ∀ path ∈ paths.filter (fun path => compare (grouping.ends path) ends == .eq),
        grouping.ends path = ends := fun path mem => (mem_group_iff.1 mem).2
    have once := distinct.filter (fun path => compare (grouping.ends path) ends == .eq)
    rw [sharedSteps, remainders_last filed]
    generalize paths.filter (fun path => compare (grouping.ends path) ends == .eq) = members
      at several filed once
    match members with
    | [] | [_] => simp at several
    | first :: second :: rest =>
        have apart : first ≠ second := fun same => (List.nodup_cons.1 once).1 (by simp [same])
        have here := filed first List.mem_cons_self
        have there := filed second (List.mem_cons_of_mem _ List.mem_cons_self)
        have some := exists_end apart (here.trans there.symm)
        rw [here] at some
        rcases some with some | some <;> rw [Option.isSome_iff_exists] at some <;>
          obtain ⟨step, same⟩ := some <;> simp [same]

theorem files_bestGroups {paths : List (List σ)} (distinct : paths.Nodup) :
    Files (bestGroups paths) paths := by
  simp only [bestGroups]
  repeat' split
  all_goals exact files_groups _ distinct

theorem Files.nodup {groups : List (Ends σ × List (List σ))} {paths : List (List σ)}
    (files : Files groups paths) (distinct : paths.Nodup) : ∀ group ∈ groups, group.2.Nodup :=
  (List.nodup_flatMap.1 (files.perm.nodup_iff.2 distinct)).1

theorem Files.stepCount_le {groups : List (Ends σ × List (List σ))} {paths : List (List σ)}
    (files : Files groups paths) : ∀ group ∈ groups, stepCount group.2 ≤ stepCount paths := by
  intro group mem
  refine stepCount_le_of_subperm (List.Subperm.trans (List.Sublist.subperm ?_) files.perm.subperm)
  exact List.sublist_flatten_of_mem (List.mem_map_of_mem mem)

/-- What is left of a group with several members has fewer steps than all paths. -/
theorem Files.stepCount_remainders_lt {groups : List (Ends σ × List (List σ))}
    {paths : List (List σ)} (files : Files groups paths) {group : Ends σ × List (List σ)}
    (mem : group ∈ groups) (several : 2 ≤ group.2.length) :
    stepCount (sortUnique (remainders group.1 group.2).1) < stepCount paths := by
  have all := files.stepCount_le group mem
  have split := stepCount_members (files.fits group mem)
  have shared := Nat.mul_le_mul several (files.shares group mem several)
  have fewer := stepCount_le_of_subperm (sortUnique_subperm (remainders group.1 group.2).1)
  omega

/-! ## Compression without a bound -/

/-- The tree of a group, given the tree of what is left of its members. -/
def groupTree (group : Ends σ × List (List σ)) (inner : Tree σ) : Tree σ :=
  match group.2 with
  | [] => .empty
  | [path] => .ofPath path
  | members => .seq (group.1.first.toList.map .leaf ++ [inner]
      ++ (remainders group.1 members).2.toList.map .leaf)

/-- What compressing some paths comes to, with no bound on how far sharing goes. -/
inductive Factors : List (List σ) → Tree σ → Prop
  | none : Factors [] .empty
  | one (path : List σ) : Factors [path] (.ofPath path)
  | apart {paths : List (List σ)} : 2 ≤ paths.length →
      ¬ (bestGroups paths).length < paths.length → Factors paths (.alt (paths.map .ofPath))
  | share {paths : List (List σ)} {inner : Ends σ × List (List σ) → Tree σ} :
      2 ≤ paths.length → (bestGroups paths).length < paths.length →
      (∀ group ∈ bestGroups paths, 2 ≤ group.2.length →
        Factors (sortUnique (remainders group.1 group.2).1) (inner group)) →
      Factors paths (.alt ((bestGroups paths).map fun group => groupTree group (inner group)))

theorem groupTree_eq_of_short {group : Ends σ × List (List σ)} (short : ¬ 2 ≤ group.2.length)
    (inner other : Tree σ) : groupTree group inner = groupTree group other := by
  obtain ⟨ends, members⟩ := group
  match members with
  | [] => rfl
  | [path] => rfl
  | _ :: _ :: _ => simp at short

theorem Factors.unique {paths : List (List σ)} {tree other : Tree σ} (factors : Factors paths tree)
    (factors' : Factors paths other) : tree = other := by
  induction factors generalizing other with
  | none =>
      cases factors' with
      | none => rfl
      | apart several | share several => simp at several
  | one path =>
      cases factors' with
      | one => rfl
      | apart several | share several => simp at several
  | apart several all =>
      cases factors' with
      | none | one => simp at several
      | apart => rfl
      | share _ fewer => exact absurd fewer all
  | share several fewer each ih =>
      cases factors' with
      | none | one => simp at several
      | apart _ all => exact absurd fewer all
      | share _ _ each' =>
          refine congrArg alt (List.map_congr_left fun group mem => ?_)
          by_cases long : 2 ≤ group.2.length
          · rw [ih group mem long (each' group mem long)]
          · exact groupTree_eq_of_short long _ _

theorem factor_succ {depth : Nat} {paths : List (List σ)} (several : 2 ≤ paths.length) :
    factor (depth + 1) paths =
      if (bestGroups paths).length < paths.length then
        .alt ((bestGroups paths).map fun group =>
          groupTree group (factor depth (sortUnique (remainders group.1 group.2).1)))
      else .alt (paths.map .ofPath) := by
  rw [factor.eq_4 _ _ (by rintro rfl; simp at several) (by rintro path rfl; simp at several)]
  split
  · refine congrArg alt (List.map_congr_left fun group _ => ?_)
    obtain ⟨ends, members⟩ := group
    rcases members with _ | ⟨path, _ | ⟨second, rest⟩⟩
    · rfl
    · rfl
    · rfl
  · rfl

/-- Paths with no step between them are at most one. -/
theorem length_le_one_of_stepCount {paths : List (List σ)} (distinct : paths.Nodup)
    (none : stepCount paths = 0) : paths.length ≤ 1 := by
  match paths with
  | [] | [_] => simp
  | first :: second :: rest =>
      simp only [stepCount_eq, List.map_cons, List.sum_cons] at none
      have empty : first = [] := List.length_eq_zero_iff.1 (by omega)
      have empty' : second = [] := List.length_eq_zero_iff.1 (by omega)
      rw [empty, empty'] at distinct
      simp at distinct

/-- A bound of the number of steps is never reached. -/
theorem factors_factor (depth : Nat) {paths : List (List σ)} (distinct : paths.Nodup)
    (enough : stepCount paths ≤ depth) : Factors paths (factor depth paths) := by
  induction depth generalizing paths with
  | zero =>
      have short := length_le_one_of_stepCount distinct (Nat.le_zero.1 enough)
      match paths with
      | [] => exact .none
      | [path] => exact .one path
      | _ :: _ :: _ => simp at short
  | succ depth ih =>
      match paths with
      | [] => exact .none
      | [path] => exact .one path
      | first :: second :: rest =>
          rw [factor_succ (by simp)]
          split
          · next fewer =>
            refine .share (by simp) fewer fun group mem several => ih (nodup_sortUnique _) ?_
            have less := (files_bestGroups distinct).stepCount_remainders_lt mem several
            omega
          · next all => exact .apart (by simp) all

/-! ## Faithful trees -/

/-- A tree has every path exactly once, and no more leaves than the paths have steps. -/
structure Faithful (tree : Tree σ) (paths : List (List σ)) : Prop where
  sequences : tree.sequences.Perm paths
  small : tree.leaves.length ≤ stepCount paths

theorem leaves_ofPath (path : List σ) : (ofPath path).leaves = path := by
  rw [ofPath, leaves, leavesOfAll_map_leaf]

theorem faithful_ofPath (path : List σ) : Faithful (ofPath path) [path] where
  sequences := by rw [sequences_ofPath]
  small := by simp [leaves_ofPath, stepCount]

theorem faithful_apart (paths : List (List σ)) : Faithful (alt (paths.map ofPath)) paths where
  sequences := by
    rw [sequences, sequencesAlt_eq, List.flatMap_map]
    simp
  small := by
    rw [leaves, leavesOfAll_eq, List.flatMap_map]
    simp only [leaves_ofPath, List.flatMap_id', List.length_flatten]
    exact Nat.le_refl _

/-- Putting the shared ends around a faithful tree of what is left of a group. -/
theorem Faithful.group {ends : Ends σ} {members : List (List σ)} {inner : Tree σ}
    (distinct : members.Nodup) (inhabited : 1 ≤ members.length)
    (fits : ∀ path ∈ members, ends.Fits path)
    (faithful : Faithful inner (sortUnique (remainders ends members).1)) :
    Faithful (.seq (ends.first.toList.map .leaf ++ [inner]
      ++ (remainders ends members).2.toList.map .leaf)) members where
  sequences := by
    have back := map_remainders fits
    have rests : (remainders ends members).1.Nodup := by
      rw [← back] at distinct
      exact distinct.of_map
    rw [Tree.sequences, sequencesSeq_append, sequencesSeq_append, sequencesSeq_map_leaf,
      sequencesSeq_map_leaf, joins_singleton, joins_to_singleton, sequencesSeq, sequencesSeq,
      joins_empty, List.map_map]
    have perm := (faithful.sequences.trans (sortUnique_perm rests)).map fun rest =>
      ends.first.toList ++ (rest ++ (remainders ends members).2.toList)
    rw [back] at perm
    simpa only [Function.comp_def, List.append_assoc] using perm
  small := by
    have split := stepCount_members fits
    have shared := Nat.mul_le_mul_right (sharedSteps ends members) inhabited
    have fewer := stepCount_le_of_subperm (sortUnique_subperm (remainders ends members).1)
    have inside := faithful.small
    rw [leaves, leavesOfAll_eq, List.flatMap_append, List.flatMap_append, ← leavesOfAll_eq,
      ← leavesOfAll_eq, ← leavesOfAll_eq, leavesOfAll_map_leaf, leavesOfAll_map_leaf, leavesOfAll,
      leavesOfAll, List.append_nil, List.length_append, List.length_append]
    rw [sharedSteps] at split shared
    omega

/-- Faithful trees of the groups side by side are faithful to all paths. -/
theorem Files.faithful {groups : List (Ends σ × List (List σ))} {paths : List (List σ)}
    (files : Files groups paths) {trees : Ends σ × List (List σ) → Tree σ}
    (each : ∀ group ∈ groups, Faithful (trees group) group.2) :
    Faithful (alt (groups.map trees)) paths where
  sequences := by
    rw [sequences, sequencesAlt_eq, List.flatMap_map]
    exact (List.Perm.flatMap_left _ fun group mem => (each group mem).sequences).trans files.perm
  small := by
    have total : stepCount paths = (groups.map fun group => stepCount group.2).sum := by
      rw [← stepCount_flatMap, stepCount_eq, stepCount_eq]
      exact ((files.perm.map List.length).sum_eq).symm
    rw [leaves, leavesOfAll_eq, List.flatMap_map, List.length_flatMap, total]
    exact List.sum_le_sum fun group mem => (each group mem).small

/-- Compressing distinct paths, at least one, is faithful to them. -/
theorem Factors.faithful {paths : List (List σ)} {tree : Tree σ} (factors : Factors paths tree)
    (distinct : paths.Nodup) (inhabited : paths ≠ []) : Faithful tree paths := by
  induction factors with
  | none => exact absurd rfl inhabited
  | one path => exact faithful_ofPath path
  | apart => exact faithful_apart _
  | @share paths inner several fewer _ ih =>
      have files := files_bestGroups distinct
      refine files.faithful fun group mem => ?_
      have once := files.nodup distinct group mem
      have fits := files.fits group mem
      have some := (covers_bestGroups paths).inhabited group mem
      have below := ih group mem
      obtain ⟨ends, members⟩ := group
      match members with
      | [] => exact absurd rfl some
      | [path] => exact faithful_ofPath path
      | first :: second :: rest =>
          refine Faithful.group once (by simp) fits (below (by simp) (nodup_sortUnique _) ?_)
          refine sortUnique_ne_nil fun none => ?_
          have length := length_remainders fits
          rw [none] at length
          cases length

/-! ## The tree of a path set -/

/-- Compressing some paths ends, with one result, whose canonical form is the tree of the paths.
Counted, the tree stands for the distinct paths, each once, or for the empty sequence where there
is no path; and it has no more leaves than the distinct paths have steps. -/
theorem ofPaths_faithful [DecidableEq σ] (paths : List (List σ)) :
    (∃ tree, (∀ other, Factors (sortUnique paths) other ↔ other = tree) ∧
        ofPaths paths = tree.normalize) ∧
      (ofPaths paths).sequences.Perm (if paths.isEmpty then [[]] else paths.dedup) ∧
      (ofPaths paths).leaves.length ≤ (paths.dedup.map List.length).sum := by
  have distinct := nodup_sortUnique paths
  have factors := factors_factor (stepCount (sortUnique paths)) distinct (Nat.le_refl _)
  refine ⟨⟨_, fun other => ⟨fun found => found.unique factors, ?_⟩, rfl⟩, ?_⟩
  · rintro rfl
    exact factors
  by_cases inhabited : paths = []
  · subst inhabited
    rw [ofPaths_nil]
    exact ⟨by simp [sequences, sequencesSeq], by simp [leaves, leavesOfAll]⟩
  have faithful := factors.faithful distinct (sortUnique_ne_nil inhabited)
  have same : (sortUnique paths).Perm paths.dedup :=
    (List.perm_ext_iff_of_nodup distinct (List.nodup_dedup paths)).2 fun path => by
      rw [mem_sortUnique, List.mem_dedup]
  constructor
  · -- Normalizing repeats nothing, and as a set the sequences are the paths.
    have once : (ofPaths paths).sequences.Nodup := by
      obtain ⟨middle, perm, sub⟩ := sequences_normalize_subperm (factor (stepCount (sortUnique paths))
        (sortUnique paths))
      exact perm.nodup_iff.1 (sub.nodup (faithful.sequences.nodup_iff.2 distinct))
    rw [if_neg (by simpa using inhabited)]
    refine (List.perm_ext_iff_of_nodup once (List.nodup_dedup paths)).2 fun path => ?_
    rw [mem_sequences, language_ofPaths inhabited, mem_pathSet, List.mem_dedup]
  · calc (ofPaths paths).leaves.length
        ≤ (factor (stepCount (sortUnique paths)) (sortUnique paths)).leaves.length :=
          (leaves_normalize_subperm _).length_le
      _ ≤ stepCount (sortUnique paths) := faithful.small
      _ = (paths.dedup.map List.length).sum := (same.map List.length).sum_eq

end Groups

/-- Three paths that share their ends, one of them given twice. -/
def sampleTwins : List (List Nat) := [[1, 2, 3, 4, 5], [1, 3, 5], [1, 2, 3, 9, 5], [1, 3, 5]]

/-- The tree of the sample has its three distinct paths, once each, and at most 13 leaves. -/
theorem ofPaths_faithful_sampleTwins :
    (ofPaths sampleTwins).sequences.Perm [[1, 2, 3, 4, 5], [1, 2, 3, 9, 5], [1, 3, 5]] ∧
      (ofPaths sampleTwins).leaves.length ≤ 13 := by
  obtain ⟨-, perm, small⟩ := ofPaths_faithful sampleTwins
  exact ⟨perm.trans (by decide), small⟩

end Tree

end CallSearch
