/-
# CallSearch.Proofs.Tree.Compress — a compressed path set is the path set

Whatever grouping `Tree.factor` chooses, taking shared ends off the members of a
group and putting them back around the compressed remainders gives the members
again.  The depth bound only decides how far sharing goes: at its end the paths
stand side by side, which is exact too.

* `language_ofPaths`: the tree of some paths stands for exactly these paths;
* `feasible_ofPaths`: it has no impossible parts.
-/
import CallSearch.Proofs.Tree.Feasible
import CallSearch.Tree.Compress

namespace CallSearch.Tree

set_option autoImplicit false
set_option linter.unusedSectionVars false

variable {σ : Type}

/-- The members of a list of paths, as a set of sequences. -/
def pathSet (paths : List (List σ)) : Language σ := {path | path ∈ paths}

@[simp]
theorem mem_pathSet {path : List σ} {paths : List (List σ)} :
    path ∈ pathSet paths ↔ path ∈ paths := Iff.rfl

theorem languageAlt_map_ofPath (paths : List (List σ)) :
    languageAlt (paths.map ofPath) = pathSet paths := by
  ext s
  rw [mem_languageAlt, mem_pathSet]
  constructor
  · rintro ⟨part, mem, hs⟩
    obtain ⟨path, hpath, rfl⟩ := List.mem_map.1 mem
    rw [language_ofPath] at hs
    cases hs
    exact hpath
  · intro hs
    refine ⟨ofPath s, List.mem_map_of_mem hs, ?_⟩
    rw [language_ofPath]
    rfl

/-! ## Shared ends -/

/-- A path has the ends it is filed under. -/
def Ends.Fits (ends : Ends σ) (path : List σ) : Prop :=
  (∀ step, ends.first = some step → path.head? = some step) ∧
    ∀ step, ends.last = some step → path.getLast? = some step

theorem fits_ends (grouping : Grouping) (path : List σ) : (grouping.ends path).Fits path := by
  cases grouping with
  | bothEnds =>
      refine ⟨fun _ h => h, fun step h => ?_⟩
      simp only [Grouping.ends] at h
      split at h
      · exact h
      · cases h
  | firstStep => exact ⟨fun _ h => h, fun _ h => nomatch h⟩
  | lastStep => exact ⟨fun _ h => (nomatch h), fun _ h => h⟩

theorem eq_cons_of_head? {path : List σ} {step : σ} (h : path.head? = some step) :
    path = step :: path.tail := by
  cases path with
  | nil => cases h
  | cons first rest =>
      cases h
      rfl

theorem eq_append_of_getLast? {path : List σ} {step : σ} (h : path.getLast? = some step) :
    path = path.dropLast ++ [step] := by
  have some : path ≠ [] := by
    rintro rfl
    cases h
  rw [List.getLast?_eq_some_getLast some, Option.some.injEq] at h
  rw [← h, List.dropLast_append_getLast some]

/-- Taking the shared first step off the members of a group loses nothing. -/
theorem mem_iff_first {ends : Ends σ} {members : List (List σ)}
    (fits : ∀ path ∈ members, ends.Fits path) (path : List σ) :
    path ∈ members ↔
      ∃ rest ∈ (if ends.first.isSome then members.map List.tail else members),
        path = ends.first.toList ++ rest := by
  cases hfirst : ends.first with
  | none => simp
  | some step =>
      simp only [Option.isSome_some, if_true, Option.toList_some, List.singleton_append]
      constructor
      · intro mem
        exact ⟨path.tail, List.mem_map_of_mem mem,
          eq_cons_of_head? ((fits path mem).1 step hfirst)⟩
      · rintro ⟨rest, mem, rfl⟩
        obtain ⟨member, hmember, rfl⟩ := List.mem_map.1 mem
        rwa [← eq_cons_of_head? ((fits member hmember).1 step hfirst)]

/-- Taking the shared ends off the members of a group loses nothing. -/
theorem mem_iff_remainders [Ord σ] {ends : Ends σ} {members : List (List σ)}
    (fits : ∀ path ∈ members, ends.Fits path) (path : List σ) :
    path ∈ members ↔
      ∃ rest ∈ (remainders ends members).1,
        path = ends.first.toList ++ (rest ++ (remainders ends members).2.toList) := by
  have first := mem_iff_first fits
  unfold remainders
  generalize (if ends.first.isSome then members.map List.tail else members) = stripped at first ⊢
  rw [first path]
  cases hlast : ends.last with
  | none => simp
  | some last =>
      by_cases full : stripped.all fun rest => !rest.isEmpty
      · simp only [full, if_true, Option.toList_some]
        simp only [List.all_eq_true, Bool.not_eq_true', List.isEmpty_eq_false_iff] at full
        -- What is left after the first step still ends in the shared last step.
        have ending : ∀ rest ∈ stripped, rest = rest.dropLast ++ [last] := by
          intro rest mem
          have whole := (first (ends.first.toList ++ rest)).2 ⟨rest, mem, rfl⟩
          have tailed := (fits _ whole).2 last hlast
          rw [List.getLast?_append_of_ne_nil _ (full rest mem)] at tailed
          exact eq_append_of_getLast? tailed
        constructor
        · rintro ⟨rest, mem, rfl⟩
          exact ⟨rest.dropLast, List.mem_map_of_mem mem, by rw [← ending rest mem]⟩
        · rintro ⟨_, mem, rfl⟩
          obtain ⟨rest, hrest, rfl⟩ := List.mem_map.1 mem
          exact ⟨rest, hrest, by rw [← ending rest hrest]⟩
      · simp [full]

/-! ## Groups -/

section Groups

variable [Ord σ] [Std.LawfulEqOrd σ]

instance : Std.LawfulEqOrd (Ends σ) where
  compare_self {ends} := by
    show (compare ends.first ends.first).then (compare ends.last ends.last) = .eq
    simp only [Ordering.then_eq_eq, Std.LawfulEqCmp.compare_eq_iff_eq, and_self]
  eq_of_compare {a b} h := by
    have parts : (compare a.first b.first).then (compare a.last b.last) = .eq := h
    simp only [Ordering.then_eq_eq, Std.LawfulEqCmp.compare_eq_iff_eq] at parts
    cases a
    cases b
    simpa using parts

/-- Groups that cover some paths: each group holds paths with its ends, at least one, and
every path is in a group. -/
structure Covers (groups : List (Ends σ × List (List σ))) (paths : List (List σ)) : Prop where
  inhabited : ∀ group ∈ groups, group.2 ≠ []
  inside : ∀ group ∈ groups, ∀ path ∈ group.2, path ∈ paths
  fits : ∀ group ∈ groups, ∀ path ∈ group.2, group.1.Fits path
  filed : ∀ path ∈ paths, ∃ group ∈ groups, path ∈ group.2

theorem covers_groups (grouping : Grouping) (paths : List (List σ)) :
    Covers (grouping.groups paths) paths := by
  have member : ∀ group ∈ grouping.groups paths, ∀ path,
      path ∈ group.2 ↔ path ∈ paths ∧ grouping.ends path = group.1 := by
    intro group hgroup path
    obtain ⟨ends, -, rfl⟩ := List.mem_map.1 hgroup
    simp only [List.mem_filter, beq_iff_eq, Std.LawfulEqCmp.compare_eq_iff_eq]
  refine ⟨?_, ?_, ?_, ?_⟩
  · intro group hgroup
    have hgroup' := hgroup
    obtain ⟨ends, hends, rfl⟩ := List.mem_map.1 hgroup
    obtain ⟨path, hpath, rfl⟩ := List.mem_map.1 (mem_sortUnique.1 hends)
    exact List.ne_nil_of_mem ((member _ hgroup' path).2 ⟨hpath, rfl⟩)
  · intro group hgroup path hpath
    exact ((member group hgroup path).1 hpath).1
  · intro group hgroup path hpath
    rw [← ((member group hgroup path).1 hpath).2]
    exact fits_ends grouping path
  · intro path hpath
    have hends := mem_sortUnique.2 (List.mem_map_of_mem (f := grouping.ends) hpath)
    have hgroup := List.mem_map_of_mem
      (f := fun ends => (ends, paths.filter fun path => compare (grouping.ends path) ends == .eq))
      hends
    exact ⟨_, hgroup, (member _ hgroup path).2 ⟨hpath, rfl⟩⟩

theorem covers_bestGroups (paths : List (List σ)) : Covers (bestGroups paths) paths := by
  simp only [bestGroups]
  repeat' split
  all_goals exact covers_groups _ paths

/-! ## The tree of a path set -/

theorem exact_group {build : List (List σ) → Tree σ}
    (exact : ∀ paths, paths ≠ [] →
      (build paths).language = pathSet paths ∧ (build paths).Feasible) {ends : Ends σ}
    {members : List (List σ)} (inhabited : members ≠ [])
    (fits : ∀ path ∈ members, ends.Fits path) :
    let tree : Tree σ :=
      .seq (ends.first.toList.map .leaf ++ [build (sortUnique (remainders ends members).1)]
        ++ (remainders ends members).2.toList.map .leaf)
    tree.language = pathSet members ∧ tree.Feasible := by
  intro tree
  have some : sortUnique (remainders ends members).1 ≠ [] := by
    obtain ⟨path, mem⟩ := List.exists_mem_of_ne_nil _ inhabited
    obtain ⟨rest, hrest, -⟩ := (mem_iff_remainders fits path).1 mem
    exact List.ne_nil_of_mem (mem_sortUnique.2 hrest)
  obtain ⟨inner, feasible⟩ := exact _ some
  constructor
  · ext path
    have split := mem_iff_remainders fits path
    rw [mem_pathSet, split]
    simp only [tree, language_seq, languageSeq_append, languageSeq_cons, languageSeq_nil, mul_one,
      languageSeq_map_leaf, inner, mul_assoc, Language.mem_mul]
    constructor
    · rintro ⟨_, rfl, _, ⟨rest, hrest, _, rfl, rfl⟩, rfl⟩
      exact ⟨rest, mem_sortUnique.1 hrest, rfl⟩
    · rintro ⟨rest, hrest, rfl⟩
      exact ⟨_, rfl, _, ⟨rest, mem_sortUnique.2 hrest, _, rfl, rfl⟩, rfl⟩
  · rw [feasible_seq]
    intro part h
    simp only [List.append_assoc, List.mem_append, List.mem_map, List.mem_singleton] at h
    rcases h with ⟨step, -, rfl⟩ | rfl | ⟨step, -, rfl⟩
    · rw [Feasible]; trivial
    · exact feasible
    · rw [Feasible]; trivial

theorem exact_single (path : List σ) :
    (ofPath path).language = pathSet [path] ∧ (ofPath path).Feasible := by
  refine ⟨?_, feasible_ofPath path⟩
  rw [language_ofPath]
  ext s
  exact List.mem_singleton.symm

theorem exact_side {paths : List (List σ)} (inhabited : paths ≠ []) :
    (alt (paths.map ofPath)).language = pathSet paths ∧
      (alt (paths.map ofPath)).Feasible := by
  refine ⟨by rw [language_alt, languageAlt_map_ofPath], ?_⟩
  refine feasible_alt.2 ⟨by simpa using inhabited, fun part h => ?_⟩
  obtain ⟨path, -, rfl⟩ := List.mem_map.1 h
  exact feasible_ofPath path

theorem exact_groups {groups : List (Ends σ × List (List σ))} {paths : List (List σ)}
    (covers : Covers groups paths) (inhabited : paths ≠ [])
    {groupTree : Ends σ × List (List σ) → Tree σ}
    (exact : ∀ group ∈ groups,
      (groupTree group).language = pathSet group.2 ∧ (groupTree group).Feasible) :
    (alt (groups.map groupTree)).language = pathSet paths ∧
      (alt (groups.map groupTree)).Feasible := by
  constructor
  · ext path
    rw [language_alt, mem_languageAlt, mem_pathSet]
    constructor
    · rintro ⟨part, mem, hpath⟩
      obtain ⟨group, hgroup, rfl⟩ := List.mem_map.1 mem
      rw [(exact group hgroup).1] at hpath
      exact covers.inside group hgroup path hpath
    · intro hpath
      obtain ⟨group, hgroup, filed⟩ := covers.filed path hpath
      refine ⟨groupTree group, List.mem_map_of_mem hgroup, ?_⟩
      rw [(exact group hgroup).1]
      exact filed
  · obtain ⟨path, hpath⟩ := List.exists_mem_of_ne_nil _ inhabited
    obtain ⟨group, hgroup, -⟩ := covers.filed path hpath
    refine feasible_alt.2 ⟨List.ne_nil_of_mem (List.mem_map_of_mem hgroup), fun part h => ?_⟩
    obtain ⟨group, hgroup, rfl⟩ := List.mem_map.1 h
    exact (exact group hgroup).2

/-- Compression is exact on every path set that is not empty, at any depth. -/
theorem exact_factor (depth : Nat) (paths : List (List σ)) (inhabited : paths ≠ []) :
    (factor depth paths).language = pathSet paths ∧ (factor depth paths).Feasible := by
  induction depth generalizing paths with
  | zero =>
      match paths with
      | [] => exact absurd rfl inhabited
      | [path] => exact exact_single path
      | first :: second :: rest => exact exact_side inhabited
  | succ depth ih =>
      match paths with
      | [] => exact absurd rfl inhabited
      | [path] => exact exact_single path
      | first :: second :: rest =>
          rw [factor.eq_4 _ _ (by simp) (by simp)]
          split
          · have covers := covers_bestGroups (first :: second :: rest)
            refine exact_groups covers inhabited fun group hgroup => ?_
            obtain ⟨ends, members⟩ := group
            match members with
            | [] => exact absurd rfl (covers.inhabited _ hgroup)
            | [path] => exact exact_single path
            | one :: two :: more =>
                exact exact_group ih (covers.inhabited _ hgroup) (covers.fits _ hgroup)
          · exact exact_side inhabited

/-- The tree of some paths stands for exactly these paths. -/
theorem language_ofPaths {paths : List (List σ)} (inhabited : paths ≠ []) :
    (ofPaths paths).language = pathSet paths := by
  rw [ofPaths, language_normalize, (exact_factor _ _ (sortUnique_ne_nil inhabited)).1]
  ext path
  exact mem_sortUnique

/-- The tree of no path is the empty sequence. -/
theorem ofPaths_nil : ofPaths ([] : List (List σ)) = .seq [] := by
  simp [ofPaths, sortUnique, sortAscending, dropRepeats, factor, empty, normalize, normalizeAll,
    chain, spliceSeq, single]

/-- The tree of some paths has no impossible parts. -/
theorem feasible_ofPaths (paths : List (List σ)) : (ofPaths paths).Feasible := by
  by_cases inhabited : paths = []
  · subst inhabited
    rw [ofPaths_nil, feasible_seq]
    simp
  · exact (exact_factor _ _ (sortUnique_ne_nil inhabited)).2.normalize

end Groups

end CallSearch.Tree
