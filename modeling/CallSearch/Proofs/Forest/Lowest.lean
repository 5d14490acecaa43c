/-
# CallSearch.Proofs.Forest.Lowest — the lowest nodes that pass a test

`Descends` is the search of `descend` without its bound, over several nodes one after
another.  A key is searched once and keys do not outnumber nodes, so the bound is never
reached (`descends_lowest`).

The search goes down through nodes that pass only, tells nodes apart by key and looks no
further than the children of a node.  `Searched` is what that amounts to: below every key
searched the children that pass are searched too, and where there are none the key is
found.  If the test holds of every node above one that passes, no node is missed and
none found has another below it: `lowest_exact`.
-/
import CallSearch.Proofs.Forest.Reachable
import CallSearch.Search

namespace CallSearch.Forest

set_option autoImplicit false

open Relation

/-- The expanded calls in the body of a node that pass a test. -/
def passing (forest : Forest) (passes : CallNode → Bool) (node : CallNode) : List CallNode :=
  (forest.children node).filter passes

/-- Searching below some nodes one after another leads from one state to another. -/
inductive Descends (forest : Forest) (passes : CallNode → Bool) :
    List CallNode → Descent → Descent → Prop
  | nil (descent : Descent) : Descends forest passes [] descent descent
  | known {node : CallNode} {rest : List CallNode} {start last : Descent} :
      node.key ∈ start.searched → Descends forest passes rest start last →
      Descends forest passes (node :: rest) start last
  | lowest {node : CallNode} {rest : List CallNode} {start last : Descent} :
      node.key ∉ start.searched → forest.passing passes node = [] →
      Descends forest passes rest ⟨node.key :: start.searched, start.found ++ [node]⟩ last →
      Descends forest passes (node :: rest) start last
  | deeper {node : CallNode} {rest : List CallNode} {start between last : Descent} :
      node.key ∉ start.searched → forest.passing passes node ≠ [] →
      Descends forest passes (forest.passing passes node)
        { start with searched := node.key :: start.searched } between →
      Descends forest passes rest between last →
      Descends forest passes (node :: rest) start last

variable {forest : Forest} {passes : CallNode → Bool}

theorem mem_passing {node child : CallNode} :
    child ∈ forest.passing passes node ↔ child ∈ forest.children node ∧ passes child = true :=
  List.mem_filter

/-! ## The bound is not reached -/

theorem descend_of_known {depth : Nat} {node : CallNode} {descent : Descent}
    (known : node.key ∈ descent.searched) :
    forest.descend passes (depth + 1) node descent = ((), descent) := by
  rw [descend]
  simp only [bind, StateT.bind, get, getThe, MonadStateOf.get, StateT.get, pure]
  rw [if_pos (by simpa using known)]
  rfl

theorem descend_of_lowest {depth : Nat} {node : CallNode} {descent : Descent}
    (new : node.key ∉ descent.searched) (none : forest.passing passes node = []) :
    forest.descend passes (depth + 1) node descent =
      ((), ⟨node.key :: descent.searched, descent.found ++ [node]⟩) := by
  rw [passing] at none
  rw [descend]
  simp only [bind, StateT.bind, get, getThe, MonadStateOf.get, StateT.get, pure]
  rw [if_neg (by simpa using new)]
  simp only [none, List.isEmpty_nil, if_true]
  rfl

theorem descend_of_deeper {depth : Nat} {node : CallNode} {descent : Descent}
    (new : node.key ∉ descent.searched) (some : forest.passing passes node ≠ []) :
    forest.descend passes (depth + 1) node descent =
      (forest.passing passes node).forM (forest.descend passes depth)
        { descent with searched := node.key :: descent.searched } := by
  have some' : ((forest.children node).filter passes).isEmpty = false :=
    Bool.eq_false_iff.2 fun empty => some (List.isEmpty_iff.1 empty)
  rw [descend]
  simp only [bind, StateT.bind, get, getThe, MonadStateOf.get, StateT.get, pure]
  rw [if_neg (by simpa using new)]
  simp only [some', if_false, Bool.false_eq_true]
  rfl

/-- The keys searched are different keys of reachable nodes. -/
structure Descent.Met (forest : Forest) (descent : Descent) : Prop where
  distinct : descent.searched.Nodup
  reachable : ∀ key ∈ descent.searched, ∃ node, forest.Reachable node ∧ node.key = key

theorem Descent.Met.enter {descent : Descent} (met : descent.Met forest) {node : CallNode}
    (reachable : forest.Reachable node) (new : node.key ∉ descent.searched)
    (found : List CallNode) : Descent.Met forest ⟨node.key :: descent.searched, found⟩ where
  distinct := List.nodup_cons.2 ⟨new, met.distinct⟩
  reachable := List.forall_mem_cons.2 ⟨⟨node, reachable, rfl⟩, met.reachable⟩

/-- With a depth for the keys that were not searched yet, nothing is cut off. -/
theorem descends_forM {depth : Nat} {nodes : List CallNode} {start : Descent}
    (reachable : ∀ node ∈ nodes, forest.Reachable node) (met : start.Met forest)
    (enough : forest.nodeCount < depth + start.searched.length) :
    let last := (nodes.forM (forest.descend passes depth) start).2
    forest.Descends passes nodes start last ∧ last.Met forest ∧
      start.searched.length ≤ last.searched.length := by
  induction depth generalizing nodes start with
  | zero =>
      have := length_keys_le met.distinct met.reachable
      omega
  | succ depth below =>
      induction nodes generalizing start with
      | nil => exact ⟨.nil start, met, Nat.le_refl _⟩
      | cons node rest ih =>
          obtain ⟨here, behind⟩ := List.forall_mem_cons.1 reachable
          change let last := (rest.forM (forest.descend passes (depth + 1))
              (forest.descend passes (depth + 1) node start).2).2
            forest.Descends passes (node :: rest) start last ∧ last.Met forest ∧
              start.searched.length ≤ last.searched.length
          by_cases known : node.key ∈ start.searched
          · rw [descend_of_known known]
            obtain ⟨descends, met', grows⟩ := ih behind met enough
            exact ⟨.known known descends, met', grows⟩
          · have entered := met.enter here known
            by_cases none : forest.passing passes node = []
            · rw [descend_of_lowest known none]
              obtain ⟨descends, met', grows⟩ := ih behind (entered (start.found ++ [node]))
                (by rw [List.length_cons]; omega)
              rw [List.length_cons] at grows
              exact ⟨.lowest known none descends, met', Nat.le_of_succ_le grows⟩
            · rw [descend_of_deeper known none]
              obtain ⟨inside, met', grows⟩ := below
                (fun child mem => here.child (mem_passing.1 mem).1) (entered start.found)
                (by rw [List.length_cons]; omega)
              rw [List.length_cons] at grows
              obtain ⟨descends, met'', grows'⟩ := ih behind met' (by omega)
              exact ⟨.deeper known none inside descends, met'', (Nat.le_of_succ_le grows).trans grows'⟩

/-- The search for the lowest nodes is not cut off. -/
theorem descends_lowest (forest : Forest) (passes : CallNode → Bool) :
    ∃ searched, forest.Descends passes (forest.roots.filter passes) ⟨[], []⟩
      ⟨searched, forest.lowest passes⟩ := by
  obtain ⟨descends, -⟩ := @descends_forM forest passes (forest.nodeCount + 1)
    (forest.roots.filter passes) ⟨[], []⟩
    (fun root mem => reachable_root (List.mem_of_mem_filter mem)) ⟨List.nodup_nil, by simp⟩
    (by simp)
  exact ⟨_, descends⟩

/-! ## What is searched and found -/

/-- What searching below some nodes does: keys searched stay so, nodes found pass with no child
that does, and a key that is new is found unless it has children that pass, which are searched
too. -/
structure Searched (forest : Forest) (passes : CallNode → Bool) (start last : Descent) : Prop where
  keeps : ∀ key ∈ start.searched, key ∈ last.searched
  found : ∀ node ∈ start.found, node ∈ last.found
  added : ∀ node ∈ last.found, node ∈ start.found ∨
    forest.Reachable node ∧ passes node = true ∧ forest.passing passes node = []
  closed : ∀ node, forest.Reachable node → node.key ∈ last.searched →
    node.key ∉ start.searched →
    (∀ child ∈ forest.passing passes node, child.key ∈ last.searched) ∧
      (forest.passing passes node = [] → node.key ∈ last.found.map CallNode.key)

namespace Searched

theorem refl (descent : Descent) : forest.Searched passes descent descent where
  keeps _ mem := mem
  found _ mem := mem
  added _ mem := Or.inl mem
  closed _ _ mem off := absurd mem off

theorem trans {start between last : Descent} (h : forest.Searched passes start between)
    (h' : forest.Searched passes between last) : forest.Searched passes start last where
  keeps key mem := h'.keeps key (h.keeps key mem)
  found node mem := h'.found node (h.found node mem)
  added node mem := (h'.added node mem).elim (h.added node) Or.inr
  closed node reachable mem off := by
    by_cases already : node.key ∈ between.searched
    · obtain ⟨below, found⟩ := h.closed node reachable already off
      refine ⟨fun child mem => h'.keeps _ (below child mem), fun none => ?_⟩
      obtain ⟨other, mem, same⟩ := List.mem_map.1 (found none)
      exact List.mem_map.2 ⟨other, h'.found other mem, same⟩
    · exact h'.closed node reachable mem already

variable (shares : forest.SharesBodies)

include shares

/-- Nodes with one key have the same children that pass. -/
theorem passing_congr {node other : CallNode} (reachable : forest.Reachable node)
    (reachable' : forest.Reachable other) (same : node.key = other.key) :
    forest.passing passes node = forest.passing passes other := by
  rw [passing, passing, children_congr (shares node other reachable reachable' same)]

theorem lowest {start : Descent} {node : CallNode} (reachable : forest.Reachable node)
    (passed : passes node = true) (none : forest.passing passes node = []) :
    forest.Searched passes start ⟨node.key :: start.searched, start.found ++ [node]⟩ where
  keeps _ mem := List.mem_cons_of_mem _ mem
  found _ mem := List.mem_append_left _ mem
  added other mem := (List.mem_append.1 mem).imp_right fun mem => by
    obtain rfl := List.mem_singleton.1 mem
    exact ⟨reachable, passed, none⟩
  closed other reachable' mem off := by
    have same : other.key = node.key := (List.mem_cons.1 mem).resolve_right off
    rw [passing_congr shares reachable' reachable same, none]
    exact ⟨by simp, fun _ => by simp [same]⟩

theorem deeper {start between : Descent} {node : CallNode} (reachable : forest.Reachable node)
    (some : forest.passing passes node ≠ [])
    (inside : forest.Searched passes { start with searched := node.key :: start.searched } between)
    (below : ∀ child ∈ forest.passing passes node, child.key ∈ between.searched) :
    forest.Searched passes start between where
  keeps key mem := inside.keeps key (List.mem_cons_of_mem _ mem)
  found := inside.found
  added := inside.added
  closed other reachable' mem off := by
    by_cases same : other.key = node.key
    · rw [passing_congr shares reachable' reachable same]
      exact ⟨below, fun none => absurd none some⟩
    · exact inside.closed other reachable' mem (by simp [same, off])

end Searched

namespace Descends

variable {nodes : List CallNode} {start last : Descent}

/-- Searching below nodes that pass does what it should, and searches their keys. -/
theorem searched (shares : forest.SharesBodies) (h : forest.Descends passes nodes start last)
    (pass : ∀ node ∈ nodes, forest.Reachable node ∧ passes node = true) :
    forest.Searched passes start last ∧ ∀ node ∈ nodes, node.key ∈ last.searched := by
  induction h with
  | nil descent => exact ⟨.refl descent, by simp⟩
  | known known _ ih =>
      obtain ⟨-, behind⟩ := List.forall_mem_cons.1 pass
      obtain ⟨rest, keys⟩ := ih behind
      exact ⟨rest, List.forall_mem_cons.2 ⟨rest.keeps _ known, keys⟩⟩
  | lowest _ none _ ih =>
      obtain ⟨⟨reachable, passed⟩, behind⟩ := List.forall_mem_cons.1 pass
      obtain ⟨rest, keys⟩ := ih behind
      exact ⟨(Searched.lowest shares reachable passed none).trans rest,
        List.forall_mem_cons.2 ⟨rest.keeps _ List.mem_cons_self, keys⟩⟩
  | deeper _ some _ _ ihBelow ih =>
      obtain ⟨⟨reachable, -⟩, behind⟩ := List.forall_mem_cons.1 pass
      obtain ⟨inside, below⟩ := ihBelow fun child mem =>
        ⟨reachable.child (mem_passing.1 mem).1, (mem_passing.1 mem).2⟩
      obtain ⟨rest, keys⟩ := ih behind
      exact ⟨(Searched.deeper shares reachable some inside below).trans rest,
        List.forall_mem_cons.2 ⟨rest.keeps _ (inside.keeps _ List.mem_cons_self), keys⟩⟩

/-- The nodes found have different keys, all of them searched. -/
theorem distinct (h : forest.Descends passes nodes start last)
    (before : (start.found.map CallNode.key).Nodup ∧
      ∀ node ∈ start.found, node.key ∈ start.searched) :
    (last.found.map CallNode.key).Nodup ∧ ∀ node ∈ last.found, node.key ∈ last.searched := by
  induction h with
  | nil => exact before
  | known _ _ ih => exact ih before
  | @lowest node _ start _ new _ _ ih =>
      obtain ⟨distinct, listed⟩ := before
      refine ih ⟨?_, fun other mem => ?_⟩
      · rw [List.map_append, List.map_singleton, List.nodup_append]
        refine ⟨distinct, List.nodup_singleton _, fun key mem key' mem' same => ?_⟩
        obtain ⟨other, here, rfl⟩ := List.mem_map.1 mem
        rw [List.mem_singleton.1 mem'] at same
        exact new (same ▸ listed other here)
      · rcases List.mem_append.1 mem with mem | mem
        · exact List.mem_cons_of_mem _ (listed other mem)
        · exact List.mem_singleton.1 mem ▸ List.mem_cons_self
  | deeper _ _ _ _ ihBelow ih =>
      obtain ⟨distinct, listed⟩ := before
      exact ih (ihBelow ⟨distinct, fun other mem => List.mem_cons_of_mem _ (listed other mem)⟩)

/-- Forests that agree are searched in the same way. -/
theorem eq_of_agrees {other : Forest} (agrees : forest.Agrees other) {end' : Descent}
    (h : forest.Descends passes nodes start last) (h' : other.Descends passes nodes start end')
    (reachable : ∀ node ∈ nodes, forest.Reachable node) : end' = last := by
  have same : ∀ {node}, forest.Reachable node →
      other.passing passes node = forest.passing passes node := fun here => by
    rw [passing, passing, agrees.children here]
  induction h generalizing end' with
  | nil =>
      cases h'
      rfl
  | known known _ ih =>
      obtain ⟨-, behind⟩ := List.forall_mem_cons.1 reachable
      cases h' with
      | known _ h' => exact ih h' behind
      | lowest new => exact absurd known new
      | deeper new => exact absurd known new
  | lowest new none _ ih =>
      obtain ⟨here, behind⟩ := List.forall_mem_cons.1 reachable
      cases h' with
      | known known => exact absurd known new
      | lowest _ _ h' => exact ih h' behind
      | deeper _ some => exact absurd ((same here).trans none) some
  | deeper new some _ _ ihBelow ih =>
      obtain ⟨here, behind⟩ := List.forall_mem_cons.1 reachable
      cases h' with
      | known known => exact absurd known new
      | lowest _ none => exact absurd ((same here).symm.trans none) some
      | deeper _ _ inside h' =>
          rw [same here] at inside
          obtain rfl := ihBelow inside fun child mem => here.child (mem_passing.1 mem).1
          exact ih h' behind

end Descends

theorem lowest_eq_of_agrees {other : Forest} (agrees : forest.Agrees other)
    (passes : CallNode → Bool) : other.lowest passes = forest.lowest passes := by
  obtain ⟨searched, run⟩ := descends_lowest forest passes
  obtain ⟨searched', run'⟩ := descends_lowest other passes
  rw [agrees.roots] at run'
  have same := run.eq_of_agrees agrees run'
    fun root mem => reachable_root (List.mem_of_mem_filter mem)
  exact (Descent.mk.inj same).2

theorem reachable_of_mem_lowest (shares : forest.SharesBodies) {node : CallNode}
    (mem : node ∈ forest.lowest passes) : forest.Reachable node := by
  obtain ⟨searched, run⟩ := descends_lowest forest passes
  obtain ⟨result, -⟩ := run.searched shares fun root mem =>
    ⟨reachable_root (List.mem_of_mem_filter mem), (List.mem_filter.1 mem).2⟩
  exact ((result.added node mem).resolve_left List.not_mem_nil).1

/-! ## The lowest nodes -/

/-- A reachable node that passes a test while no node below it does, at any depth. -/
structure IsLowest (forest : Forest) (passes : CallNode → Bool) (node : CallNode) : Prop where
  reachable : forest.Reachable node
  passed : passes node = true
  lowest : ∀ below, TransGen forest.Child node below → passes below = false

section Exact

variable (upward : ∀ parent child, forest.Reachable parent → child ∈ forest.children parent →
    passes child = true → passes parent = true)

include upward

/-- Every node above one that passes does. -/
theorem passes_of_path {node below : CallNode} (reachable : forest.Reachable node)
    (path : ReflTransGen forest.Child node below) (passed : passes below = true) :
    passes node = true := by
  induction path with
  | refl => exact passed
  | tail before last ih => exact ih (upward _ _ (reachable.trans before) last passed)

/-- A node that passes is lowest if none of its children passes. -/
theorem isLowest_iff {node : CallNode} : forest.IsLowest passes node ↔
    forest.Reachable node ∧ passes node = true ∧ forest.passing passes node = [] := by
  constructor
  · intro lowest
    refine ⟨lowest.reachable, lowest.passed, List.filter_eq_nil_iff.2 fun child mem => ?_⟩
    rw [lowest.lowest child (.single mem)]
    exact Bool.false_ne_true
  · rintro ⟨reachable, passed, none⟩
    refine ⟨reachable, passed, fun below path => ?_⟩
    obtain ⟨child, mem, path⟩ := TransGen.head'_iff.1 path
    refine Bool.eq_false_iff.2 fun passed => ?_
    have above := passes_of_path upward (reachable.child mem) path passed
    rw [List.eq_nil_iff_forall_not_mem] at none
    exact none child (mem_passing.2 ⟨mem, above⟩)

/-- The nodes found are the lowest nodes that pass, each key once. -/
theorem lowest_exact (shares : forest.SharesBodies) :
    ((forest.lowest passes).map CallNode.key).Nodup ∧
      (∀ node ∈ forest.lowest passes, forest.IsLowest passes node) ∧
      ∀ node, forest.IsLowest passes node →
        node.key ∈ (forest.lowest passes).map CallNode.key := by
  obtain ⟨searched, run⟩ := descends_lowest forest passes
  obtain ⟨result, roots⟩ := run.searched shares fun root mem =>
    ⟨reachable_root (List.mem_of_mem_filter mem), (List.mem_filter.1 mem).2⟩
  refine ⟨(run.distinct ⟨by simp, by simp⟩).1, fun node mem => ?_, fun node lowest => ?_⟩
  · exact (isLowest_iff upward).2 ((result.added node mem).resolve_left List.not_mem_nil)
  · -- Every node that passes has its key searched, the nodes above it being searched before.
    have all : passes node = true → node.key ∈ searched := by
      refine lowest.reachable.induct (P := fun node => passes node = true → node.key ∈ searched)
        (fun root mem passed => ?_) fun parent child reachable ih mem passed => ?_
      · exact roots root (List.mem_filter.2 ⟨mem, passed⟩)
      · have above := ih (upward parent child reachable mem passed)
        exact (result.closed parent reachable above List.not_mem_nil).1 child
          (mem_passing.2 ⟨mem, passed⟩)
    obtain ⟨reachable, passed, none⟩ := (isLowest_iff upward).1 lowest
    exact (result.closed node reachable (all passed) List.not_mem_nil).2 none

end Exact

end CallSearch.Forest
