/-
# CallSearch.Proofs.CallGraph.Search — the search for cycles closes components

While the search is at work a chain of methods is being searched from (`path`, the
innermost first) and every method met is on the stack or has a closed component.
`Consistent` is what holds at any time:

* calls of a method with a closed component stay inside closed components;
* a method being searched from leads to everything above it on the stack;
* everything on the stack leads back to a method being searched from that was met
  before it;
* the recursive methods found are those with a closed component.

Searching from one more method keeps this (`Dug`), given that following each of its
calls does (`Following`).  When the search is over, the stack is empty and what was
met is what the root leads to: `mem_recursive_dig`.
-/
import CallSearch.CallGraph
import CallSearch.Proofs.Table
import Mathlib.Logic.Relation

namespace CallSearch.CallGraph

set_option autoImplicit false

open Relation

/-! ## Cycles -/

/-- A method lies on a cycle through another method, or calls itself if that counts. -/
def Recursive (calls : Signature → Signature → Prop) (directRecursion : Bool)
    (method : Signature) : Prop :=
  (∃ other, other ≠ method ∧ ReflTransGen calls method other ∧ ReflTransGen calls other method) ∨
    directRecursion = true ∧ calls method method

variable (graph : CallGraph)

/-- The first method has an edge to the second. -/
abbrev Edge (caller callee : Signature) : Prop := callee ∈ graph.targets caller

/-- The first method leads to the second by any number of edges. -/
abbrev LeadsTo : Signature → Signature → Prop := ReflTransGen graph.Edge

namespace Search

/-! ## The state of a search -/

/-- A method was met. -/
def Met (search : Search) (method : Signature) : Prop :=
  ∃ place, search.order.get? method = some place

theorem not_met_iff {search : Search} {method : Signature} :
    ¬search.Met method ↔ search.order.get? method = none :=
  not_exists.trans Option.eq_none_iff_forall_ne_some.symm

/-- The place of a method in the order. -/
def place (search : Search) (method : Signature) : Nat := (search.order.get? method).getD 0

/-- A method was met, and its component is closed. -/
def Closed (search : Search) (method : Signature) : Prop :=
  search.Met method ∧ method ∉ search.stack

/-- What holds while the methods of a path are being searched from. -/
structure Consistent (directRecursion : Bool) (root : Signature) (path : List Signature)
    (search : Search) : Prop where
  known : ∀ {method}, search.Met method →
    method ∈ graph.edges.keys ∧ graph.LeadsTo root method
  bounded : ∀ {method}, search.Met method → search.place method < search.order.size
  met : ∀ {method}, method ∈ search.stack → search.Met method
  decreasing : search.stack.Pairwise fun a b => search.place b < search.place a
  stacked : ∀ {method}, method ∈ path → method ∈ search.stack
  distinct : path.Nodup
  closed : ∀ {method target}, search.Closed method → graph.Edge method target →
    search.Closed target
  followed : ∀ {method target}, method ∈ search.stack → method ∉ path →
    graph.Edge method target → search.Met target
  down : ∀ {outer method}, outer ∈ path → method ∈ search.stack →
    search.place outer ≤ search.place method → graph.LeadsTo outer method
  back : ∀ {method}, method ∈ search.stack →
    ∃ outer ∈ path, search.place outer ≤ search.place method ∧ graph.LeadsTo method outer
  recursive : ∀ {method}, method ∈ search.recursive ↔
    search.Closed method ∧ Recursive graph.Edge directRecursion method

/-- The second search has met all that the first has, and more later. -/
structure Grows (small large : Search) : Prop where
  order : ∀ {method place}, small.order.get? method = some place →
    large.order.get? method = some place
  low : ∀ {method}, small.Met method → large.low.get? method = small.low.get? method
  size : small.order.size ≤ large.order.size
  later : ∀ {method}, large.Met method → ¬small.Met method →
    small.order.size ≤ large.place method
  stack : small.stack <:+ large.stack

theorem Grows.refl (search : Search) : Grows search search :=
  ⟨fun h => h, fun _ => rfl, Nat.le_refl _, fun h h' => absurd h h', List.suffix_rfl⟩

theorem Grows.met {small large : Search} (h : Grows small large) {method : Signature}
    (met : small.Met method) : large.Met method := by
  obtain ⟨place, found⟩ := met
  exact ⟨place, h.order found⟩

theorem Grows.place_eq {small large : Search} (h : Grows small large) {method : Signature}
    (met : small.Met method) : large.place method = small.place method := by
  obtain ⟨number, found⟩ := met
  rw [place, place, h.order found, found]

theorem Grows.trans {first second third : Search} (h : Grows first second)
    (h' : Grows second third) : Grows first third where
  order found := h'.order (h.order found)
  low met := (h'.low (h.met met)).trans (h.low met)
  size := Nat.le_trans h.size h'.size
  later {method} met fresh := by
    by_cases between : second.Met method
    · rw [h'.place_eq between]
      exact h.later between fresh
    · exact Nat.le_trans h.size (h'.later met between)
  stack := h.stack.trans h'.stack

/-- What a search from one more method does. -/
structure Dug (method : Signature) (before after : Search) : Prop where
  grows : Grows before after
  met : after.Met method
  /-- The method reaches back to `low`, which is on the stack unless nothing was left there,
  and no call of what was left there leads further back. -/
  low : ∃ low, after.low.get? method = some low ∧
    (before.order.size ≤ low ∨
      ∃ other ∈ before.stack, after.place other = low ∧ graph.LeadsTo method other) ∧
    ∀ inner ∈ after.stack, inner ∉ before.stack → ∀ target, graph.Edge inner target →
      target ∈ before.stack → low ≤ after.place target

/-- What a search from a method should do while the methods of a path are being searched
from. -/
def Digs (directRecursion : Bool) (root : Signature) (path : List Signature)
    (dig : Signature → Search → Search) : Prop :=
  ∀ method search, search.Consistent graph directRecursion root path → ¬search.Met method →
    method ∈ graph.edges.keys → graph.LeadsTo root method →
    (∀ outer ∈ path, graph.LeadsTo outer method) →
    (dig method search).Consistent graph directRecursion root path ∧
      Dug graph method search (dig method search)

/-- What holds after some calls of a method were followed. -/
structure Following (directRecursion : Bool) (root : Signature) (path : List Signature)
    (method : Signature) (before : Search) (done : List Signature) (search : Search) (low : Nat) :
    Prop where
  fresh : ¬before.Met method
  consistent : search.Consistent graph directRecursion root (method :: path)
  grows : Grows before search
  stack : method :: before.stack <:+ search.stack
  order : search.order.get? method = some before.order.size
  met : ∀ target ∈ done, search.Met target
  found : search.low.get? method = some low
  low_le : low ≤ before.order.size
  reaches : ∃ other ∈ search.stack, search.place other = low ∧ graph.LeadsTo method other
  own : ∀ target ∈ done, target ∈ before.stack → low ≤ search.place target
  inner : ∀ inner ∈ search.stack, inner ∉ before.stack → inner ≠ method →
    ∀ target, graph.Edge inner target → target ∈ before.stack → low ≤ search.place target

variable {graph}

/-! ## Meeting a method -/

section Enter

variable {directRecursion : Bool} {root : Signature} {path : List Signature} {search : Search}
  {method : Signature}

theorem get?_order_enter (other : Signature) :
    (search.enter method).order.get? other =
      if other = method then some search.order.size else search.order.get? other :=
  Table.get?_insert_eq _ _ _ _

theorem met_enter {other : Signature} :
    (search.enter method).Met other ↔ other = method ∨ search.Met other := by
  unfold Met
  rw [get?_order_enter]
  split
  · next same => simp [same]
  · next apart => simp [apart]

theorem place_enter_self : (search.enter method).place method = search.order.size := by
  rw [place, get?_order_enter, if_pos rfl, Option.getD_some]

theorem size_enter (fresh : ¬search.Met method) :
    (search.enter method).order.size = search.order.size + 1 :=
  Table.size_insert (not_met_iff.1 fresh) _

theorem grows_enter (fresh : ¬search.Met method) : Grows search (search.enter method) where
  order {other place} found := by
    rw [get?_order_enter, if_neg, found]
    rintro rfl
    exact fresh ⟨place, found⟩
  low {other} met := by
    have read := Table.get?_insert_eq search.low method other search.order.size
    rw [if_neg] at read
    · exact read
    · rintro rfl
      exact fresh met
  size := by
    rw [size_enter fresh]
    exact Nat.le_succ _
  later {other} met unmet := by
    obtain rfl := (met_enter.1 met).resolve_right unmet
    exact Nat.le_of_eq place_enter_self.symm
  stack := List.suffix_cons _ _

variable (consistent : search.Consistent graph directRecursion root path)
  (fresh : ¬search.Met method)

include fresh

theorem closed_enter {other : Signature} :
    (search.enter method).Closed other ↔ search.Closed other := by
  constructor
  · rintro ⟨met, off⟩
    obtain ⟨apart, off⟩ := not_or.1 (mt List.mem_cons.2 off)
    exact ⟨(met_enter.1 met).resolve_left apart, off⟩
  · rintro ⟨met, off⟩
    refine ⟨(grows_enter fresh).met met, mt List.mem_cons.1 (not_or.2 ⟨?_, off⟩)⟩
    rintro rfl
    exact fresh met

include consistent

/-- A method that is met comes behind all that were met before. -/
theorem Consistent.place_enter_lt {other : Signature} (met : search.Met other) :
    (search.enter method).place other < (search.enter method).place method := by
  rw [(grows_enter fresh).place_eq met, place_enter_self]
  exact consistent.bounded met

/-- On the stack the places are as before. -/
theorem Consistent.place_enter {other : Signature} (mem : other ∈ search.stack) :
    (search.enter method).place other = search.place other :=
  (grows_enter fresh).place_eq (consistent.met mem)

theorem Consistent.enter (listed : method ∈ graph.edges.keys) (reached : graph.LeadsTo root method)
    (inside : ∀ outer ∈ path, graph.LeadsTo outer method) :
    (search.enter method).Consistent graph directRecursion root (method :: path) where
  known met := by
    rcases met_enter.1 met with rfl | met
    · exact ⟨listed, reached⟩
    · exact consistent.known met
  bounded met := by
    rw [size_enter fresh]
    rcases met_enter.1 met with rfl | met
    · rw [place_enter_self]
      exact Nat.lt_succ_self _
    · rw [(grows_enter fresh).place_eq met]
      exact Nat.lt_succ_of_lt (consistent.bounded met)
  met mem := by
    rcases List.mem_cons.1 mem with rfl | mem
    · exact met_enter.2 (Or.inl rfl)
    · exact (grows_enter fresh).met (consistent.met mem)
  decreasing := by
    refine List.pairwise_cons.2
      ⟨fun other mem => consistent.place_enter_lt fresh (consistent.met mem), ?_⟩
    refine consistent.decreasing.imp_of_mem fun {a b} memA memB less => ?_
    rwa [consistent.place_enter fresh memA, consistent.place_enter fresh memB]
  stacked mem := List.mem_cons.2 ((List.mem_cons.1 mem).imp_right consistent.stacked)
  distinct := List.nodup_cons.2
    ⟨fun mem => fresh (consistent.met (consistent.stacked mem)), consistent.distinct⟩
  closed isClosed edge :=
    (closed_enter fresh).2 (consistent.closed ((closed_enter fresh).1 isClosed) edge)
  followed mem off edge := by
    obtain ⟨apart, off⟩ := not_or.1 (mt List.mem_cons.2 off)
    exact (grows_enter fresh).met
      (consistent.followed ((List.mem_cons.1 mem).resolve_left apart) off edge)
  down {outer other} mem stacked le := by
    rcases List.mem_cons.1 stacked with rfl | old
    · rcases List.mem_cons.1 mem with rfl | mem
      · exact .refl
      · exact inside outer mem
    · rcases List.mem_cons.1 mem with rfl | mem
      · exact absurd (consistent.place_enter_lt fresh (consistent.met old)) (Nat.not_lt.2 le)
      · rw [consistent.place_enter fresh old,
          consistent.place_enter fresh (consistent.stacked mem)] at le
        exact consistent.down mem old le
  back mem := by
    rcases List.mem_cons.1 mem with rfl | mem
    · exact ⟨_, List.mem_cons_self, Nat.le_refl _, .refl⟩
    · obtain ⟨outer, inPath, le, path⟩ := consistent.back mem
      refine ⟨outer, List.mem_cons_of_mem _ inPath, ?_, path⟩
      rwa [consistent.place_enter fresh mem, consistent.place_enter fresh
        (consistent.stacked inPath)]
  recursive := consistent.recursive.trans (and_congr_left' (closed_enter fresh).symm)

/-- Before any call of a method is followed it reaches back to itself. -/
theorem following_enter (listed : method ∈ graph.edges.keys)
    (reached : graph.LeadsTo root method) (inside : ∀ outer ∈ path, graph.LeadsTo outer method) :
    Following graph directRecursion root path method search [] (search.enter method)
      search.order.size where
  fresh := fresh
  consistent := consistent.enter fresh listed reached inside
  grows := grows_enter fresh
  stack := List.suffix_rfl
  order := by rw [get?_order_enter, if_pos rfl]
  met _ mem := absurd mem List.not_mem_nil
  found := (Table.get?_insert_eq _ _ _ _).trans (if_pos rfl)
  low_le := Nat.le_refl _
  reaches := ⟨method, List.mem_cons_self, place_enter_self, .refl⟩
  own _ mem := absurd mem List.not_mem_nil
  inner _ mem off apart := absurd (List.mem_cons.1 mem) (not_or.2 ⟨apart, off⟩)

end Enter

/-! ## Following a call -/

section Follow

variable {directRecursion : Bool} {root : Signature} {path : List Signature} {method : Signature}
  {before search : Search} {done : List Signature} {low : Nat}

/-- What is known of the order and the stack does not depend on the low places. -/
theorem Consistent.of_low (h : search.Consistent graph directRecursion root path)
    (low : Table Signature Nat) :
    ({ search with low } : Search).Consistent graph directRecursion root path :=
  ⟨h.known, h.bounded, h.met, h.decreasing, h.stacked, h.distinct, h.closed, h.followed, h.down,
    h.back, h.recursive⟩

theorem order_lower (place : Nat) : (search.lower method place).order = search.order := by
  rw [Search.lower]
  split <;> rfl

theorem Following.mem_stack
    (h : Following graph directRecursion root path method before done search low) :
    method ∈ search.stack :=
  h.stack.subset List.mem_cons_self

theorem Following.met_self
    (h : Following graph directRecursion root path method before done search low) :
    search.Met method :=
  ⟨_, h.order⟩

/-- A call was followed that leaves the low place as it is. -/
theorem Following.add
    (h : Following graph directRecursion root path method before done search low)
    {target : Signature} (met : search.Met target)
    (bound : target ∈ before.stack → low ≤ search.place target) :
    Following graph directRecursion root path method before (done ++ [target]) search low :=
  { h with
    met := fun other mem => by
      rcases List.mem_append.1 mem with mem | mem
      · exact h.met other mem
      · rw [List.mem_singleton.1 mem]
        exact met
    own := fun other mem stacked => by
      rcases List.mem_append.1 mem with mem | mem
      · exact h.own other mem stacked
      · rw [List.mem_singleton.1 mem] at stacked ⊢
        exact bound stacked }

/-- A method comes to reach back to a place after more was met. -/
theorem Following.lower
    (h : Following graph directRecursion root path method before done search low) {after : Search}
    (consistent : after.Consistent graph directRecursion root (method :: path))
    (grows : Grows search after) {place : Nat}
    (reaches : place < low →
      ∃ other ∈ after.stack, after.place other = place ∧ graph.LeadsTo method other)
    (inner : ∀ inner ∈ after.stack, inner ∉ search.stack → ∀ target, graph.Edge inner target →
      target ∈ search.stack → place ≤ after.place target) :
    Following graph directRecursion root path method before done (after.lower method place)
      (min low place) := by
  have found : after.low.get? method = some low := (grows.low h.met_self).trans h.found
  have same : ∀ {other}, other ∈ search.stack → after.place other = search.place other :=
    fun mem => grows.place_eq (h.consistent.met mem)
  have sub : ∀ {other}, other ∈ before.stack → other ∈ search.stack := fun mem =>
    h.grows.stack.subset mem
  have grown := h.grows.trans grows
  have apart : ∀ {other}, before.Met other → other ≠ method := by
    rintro other met rfl
    exact h.fresh met
  rw [Search.lower, found]
  exact
    { fresh := h.fresh
      consistent := consistent.of_low _
      grows :=
        { grown with
          low := fun met => (Table.get?_insert_eq _ _ _ _).trans
            ((if_neg (apart met)).trans (grown.low met)) }
      stack := h.stack.trans grows.stack
      order := grows.order h.order
      met := fun target mem => grows.met (h.met target mem)
      found := (Table.get?_insert_eq _ _ _ _).trans (if_pos rfl)
      low_le := Nat.le_trans (Nat.min_le_left _ _) h.low_le
      reaches := by
        by_cases less : place < low
        · rw [Nat.min_eq_right (Nat.le_of_lt less)]
          exact reaches less
        · rw [Nat.min_eq_left (Nat.not_lt.1 less)]
          obtain ⟨other, mem, here, leads⟩ := h.reaches
          exact ⟨other, grows.stack.subset mem, (same mem).trans here, leads⟩
      own := fun target mem stacked =>
        Nat.le_trans (Nat.min_le_left _ _) (Nat.le_trans (h.own target mem stacked)
          (Nat.le_of_eq (same (sub stacked)).symm))
      inner := fun other mem off apart target edge stacked => by
        by_cases old : other ∈ search.stack
        · refine Nat.le_trans (Nat.min_le_left _ _)
            (Nat.le_trans (h.inner other old off apart target edge stacked) ?_)
          exact Nat.le_of_eq (same (sub stacked)).symm
        · refine Nat.le_trans (Nat.min_le_right _ _) ?_
          exact inner other mem old target edge (sub stacked) }

variable {dig : Signature → Search → Search}

/-- Following one call. -/
theorem Following.follow (stays : ∀ {caller target}, graph.Edge caller target →
      target ∈ graph.edges.keys)
    (digs : Digs graph directRecursion root (method :: path) dig)
    (inside : ∀ outer ∈ path, graph.LeadsTo outer method)
    (h : Following graph directRecursion root path method before done search low)
    {target : Signature} (edge : graph.Edge method target) :
    ∃ low', Following graph directRecursion root path method before (done ++ [target])
      (search.follow dig method target) low' := by
  unfold Search.follow
  by_cases self : target = method
  · rw [if_pos self, self]
    refine ⟨low, h.add h.met_self fun _ => ?_⟩
    rw [place, h.order]
    exact h.low_le
  rw [if_neg self]
  cases found : search.order.get? target with
  | some number =>
      have met : search.Met target := ⟨number, found⟩
      have here : search.place target = number := by rw [place, found, Option.getD_some]
      by_cases stacked : target ∈ search.stack
      · simp only [if_pos stacked]
        have lowered := h.lower h.consistent (.refl search)
          (fun _ => ⟨target, stacked, here, .single edge⟩) fun _ mem off => absurd mem off
        refine ⟨_, lowered.add ?_ fun _ => ?_⟩
        · rw [Met, order_lower]
          exact met
        · rw [place, order_lower, ← place, here]
          exact Nat.min_le_right _ _
      · simp only [if_neg stacked]
        exact ⟨low, h.add met fun mem => absurd (h.grows.stack.subset mem) stacked⟩
  | none =>
      have unmet : ¬search.Met target := not_met_iff.2 found
      obtain ⟨consistent, dug⟩ := digs target search h.consistent unmet (stays edge)
        ((h.consistent.known h.met_self).2.tail edge) (by
          intro outer mem
          rcases List.mem_cons.1 mem with rfl | mem
          · exact .single edge
          · exact (inside outer mem).tail edge)
      obtain ⟨number, found', reaches, crossing⟩ := dug.low
      simp only [found']
      have back : number < low → ∃ other ∈ (dig target search).stack,
          (dig target search).place other = number ∧ graph.LeadsTo method other := by
        intro less
        rcases reaches with late | ⟨other, mem, here, leads⟩
        · have := h.low_le
          have := h.grows.size
          omega
        · exact ⟨other, dug.grows.stack.subset mem, here, .head edge leads⟩
      have lowered := h.lower consistent dug.grows back crossing
      refine ⟨_, lowered.add ?_ fun mem => ?_⟩
      · rw [Met, order_lower]
        exact dug.met
      · exact absurd (h.consistent.met (h.grows.stack.subset mem)) unmet

/-- Following some calls. -/
theorem Following.foldl (stays : ∀ {caller target}, graph.Edge caller target →
      target ∈ graph.edges.keys)
    (digs : Digs graph directRecursion root (method :: path) dig)
    (inside : ∀ outer ∈ path, graph.LeadsTo outer method)
    (h : Following graph directRecursion root path method before done search low)
    {targets : List Signature} (edges : ∀ target ∈ targets, graph.Edge method target) :
    ∃ low', Following graph directRecursion root path method before (done ++ targets)
      (targets.foldl (Search.follow dig method) search) low' := by
  induction targets generalizing done search low with
  | nil =>
      rw [List.append_nil]
      exact ⟨low, h⟩
  | cons target rest ih =>
      obtain ⟨low', h'⟩ := h.follow stays digs inside (edges target List.mem_cons_self)
      rw [List.append_cons]
      exact ih h' fun other mem => edges other (List.mem_cons_of_mem _ mem)

end Follow

/-! ## Closing a component -/

section Leave

variable {directRecursion : Bool} {root : Signature} {path : List Signature} {method : Signature}
  {before search : Search} {low : Nat}
  (h : Following graph directRecursion root path method before (graph.targets method) search low)

include h

theorem Following.place_eq : search.place method = before.order.size := by
  rw [place, h.order, Option.getD_some]

/-- The methods below a method on the stack are those met before it. -/
theorem Following.mem_before_iff {other : Signature} (mem : other ∈ search.stack) :
    other ∈ before.stack ↔ search.place other < before.order.size := by
  obtain ⟨others, split⟩ := h.stack
  have decreasing := h.consistent.decreasing
  rw [← split, List.pairwise_append] at decreasing
  obtain ⟨-, tail, across⟩ := decreasing
  rw [← h.place_eq]
  constructor
  · exact fun old => (List.pairwise_cons.1 tail).1 other old
  · intro less
    rw [← split, List.mem_append, List.mem_cons] at mem
    rcases mem with new | rfl | old
    · exact absurd (across other new method List.mem_cons_self) (Nat.not_lt_of_lt less)
    · exact absurd less (Nat.lt_irrefl _)
    · exact old

theorem Following.mem_targets_met {member target : Signature} (mem : member ∈ search.stack)
    (off : member ∉ path) (edge : graph.Edge member target) : search.Met target := by
  by_cases self : member = method
  · exact h.met target (self ▸ edge)
  · exact h.consistent.followed mem (mt List.mem_cons.1 (not_or.2 ⟨self, off⟩)) edge

theorem Following.crossing {member target : Signature} (mem : member ∈ search.stack)
    (off : member ∉ before.stack) (edge : graph.Edge member target)
    (stacked : target ∈ before.stack) : low ≤ search.place target := by
  by_cases self : member = method
  · exact h.own target (self ▸ edge) stacked
  · exact h.inner member mem off self target edge stacked

/-- A method that reaches back stays on the stack. -/
theorem Following.leave_open (consistent : before.Consistent graph directRecursion root path)
    (back : low < before.order.size) :
    search.Consistent graph directRecursion root path ∧ Dug graph method before search := by
  obtain ⟨other, mem, here, leads⟩ := h.reaches
  constructor
  · refine { h.consistent with
      stacked := fun mem => h.consistent.stacked (List.mem_cons_of_mem _ mem)
      distinct := consistent.distinct
      followed := fun mem off edge => h.mem_targets_met mem off edge
      down := fun mem stacked le => h.consistent.down (List.mem_cons_of_mem _ mem) stacked le
      back := fun {inner} stacked => ?_ }
    obtain ⟨outer, inPath, le, leadsOut⟩ := h.consistent.back stacked
    rcases List.mem_cons.1 inPath with rfl | inPath
    · -- What leads back to the method leads on to the one the method reaches back to.
      obtain ⟨further, inPath', le', leadsFurther⟩ := h.consistent.back mem
      have less : search.place further < search.place outer := by
        rw [h.place_eq]
        omega
      rcases List.mem_cons.1 inPath' with rfl | inPath'
      · exact absurd less (Nat.lt_irrefl _)
      · exact ⟨further, inPath', by omega, leadsOut.trans (leads.trans leadsFurther)⟩
    · exact ⟨outer, inPath, le, leadsOut⟩
  · refine ⟨h.grows, h.met_self, low, h.found, Or.inr ⟨other, ?_, here, leads⟩,
      fun inner mem off target edge stacked => h.crossing mem off edge stacked⟩
    exact (h.mem_before_iff mem).2 (by omega)

variable (consistent : before.Consistent graph directRecursion root path)
  (inside : ∀ outer ∈ path, graph.LeadsTo outer method) (base : low = before.order.size)

theorem Following.not_mem_before : method ∉ before.stack := fun mem => by
  have less := (h.mem_before_iff h.mem_stack).1 mem
  rw [h.place_eq] at less
  exact Nat.lt_irrefl _ less

/-- A method leads to all that was put on the stack after it. -/
theorem Following.leadsTo {member : Signature} (mem : member ∈ search.stack)
    (off : member ∉ before.stack) : graph.LeadsTo method member := by
  refine h.consistent.down List.mem_cons_self mem ?_
  rw [h.place_eq]
  exact Nat.not_lt.1 (mt (h.mem_before_iff mem).2 off)

include inside in
/-- All that was put on the stack after a method leads back to it. -/
theorem Following.leadsTo_self {member : Signature} (mem : member ∈ search.stack) :
    graph.LeadsTo member method := by
  obtain ⟨outer, inPath, -, leads⟩ := h.consistent.back mem
  rcases List.mem_cons.1 inPath with rfl | inPath
  · exact leads
  · exact leads.trans (inside outer inPath)

omit h in
theorem Consistent.closed_of_leadsTo (h : search.Consistent graph directRecursion root path)
    {target : Signature} (closed : search.Closed method) (leads : graph.LeadsTo method target) :
    search.Closed target := by
  induction leads with
  | refl => exact closed
  | tail _ edge ih => exact h.closed ih edge

include consistent base in
/-- A method that reaches back to nothing leads to closed components and to what was put on the
stack after it. -/
theorem Following.closed_or_mem {target : Signature} (leads : graph.LeadsTo method target) :
    search.Closed target ∨ target ∈ search.stack ∧ target ∉ before.stack := by
  induction leads with
  | refl => exact Or.inr ⟨h.mem_stack, h.not_mem_before⟩
  | @tail member target _ edge ih =>
      rcases ih with closed | ⟨mem, off⟩
      · exact Or.inl (h.consistent.closed closed edge)
      · have met := h.mem_targets_met mem (fun inPath => off (consistent.stacked inPath)) edge
        by_cases stacked : target ∈ search.stack
        · refine Or.inr ⟨stacked, fun old => ?_⟩
          have := h.crossing mem off edge old
          have := (h.mem_before_iff stacked).1 old
          omega
        · exact Or.inl ⟨met, stacked⟩

include consistent inside base in
/-- The component of a method that reaches back to nothing is what was put on the stack from the
method on. -/
theorem Following.mem_component_iff (other : Signature) :
    (other ∈ search.stack ∧ other ∉ before.stack) ↔
      graph.LeadsTo method other ∧ graph.LeadsTo other method := by
  constructor
  · exact fun ⟨mem, off⟩ => ⟨h.leadsTo mem off, h.leadsTo_self inside mem⟩
  · rintro ⟨leads, back⟩
    refine (h.closed_or_mem consistent base leads).resolve_left fun closed => ?_
    exact (h.consistent.closed_of_leadsTo closed back).2 h.mem_stack

include consistent inside base in
/-- The members of a component are recursive together. -/
theorem Following.recursive_member_iff {member : Signature} (mem : member ∈ search.stack)
    (off : member ∉ before.stack) :
    Recursive graph.Edge directRecursion member ↔
      (∃ other, (other ∈ search.stack ∧ other ∉ before.stack) ∧ other ≠ method) ∨
        directRecursion = true ∧ graph.Edge method method := by
  have component := h.mem_component_iff consistent inside base
  obtain ⟨leads, back⟩ := (component member).1 ⟨mem, off⟩
  by_cases self : member = method
  · subst self
    refine or_congr_left (exists_congr fun other => ?_)
    rw [component]
    exact and_comm
  · have others : ∃ other, (other ∈ search.stack ∧ other ∉ before.stack) ∧ other ≠ method :=
      ⟨member, ⟨mem, off⟩, self⟩
    exact iff_of_true (Or.inl ⟨method, fun same => self same.symm, back, leads⟩) (Or.inl others)

omit h in
/-- Taking a method with what was put on the stack after it off the stack. -/
theorem leave_eq {others rest : List Signature} (split : search.stack = others ++ method :: rest)
    (off : method ∉ others) (same : search.low.get? method = search.order.get? method)
    (alone : Bool) :
    search.leave method alone =
      { search with
        stack := rest
        recursive :=
          if others ≠ [] ∨ alone then method :: others ++ search.recursive
          else search.recursive } := by
  have pass : ∀ other ∈ others, decide (other ≠ method) = true := by
    intro other mem
    rw [decide_eq_true_eq]
    rintro rfl
    exact off mem
  rw [leave, if_pos same, split, List.takeWhile_append_of_pos pass,
    List.dropWhile_append_of_pos pass]
  simp

include consistent inside base in
/-- The members of a component count as recursive when there are several, or the one that there
is counts by itself. -/
theorem Following.recursive_component_iff {others : List Signature}
    (component : ∀ {other}, (other ∈ search.stack ∧ other ∉ before.stack) ↔
      other = method ∨ other ∈ others) (off : method ∉ others) (member : Signature)
    (mem : member = method ∨ member ∈ others) :
    Recursive graph.Edge directRecursion member ↔
      others ≠ [] ∨ (directRecursion && graph.callsItself method) = true := by
  obtain ⟨stacked, new⟩ := component.2 mem
  rw [h.recursive_member_iff consistent inside base stacked new]
  refine or_congr ⟨?_, fun some => ?_⟩ ?_
  · rintro ⟨other, here, apart⟩
    exact List.ne_nil_of_mem ((component.1 here).resolve_left apart)
  · obtain ⟨other, here⟩ := List.exists_mem_of_ne_nil others some
    exact ⟨other, component.2 (Or.inr here), fun same => off (same ▸ here)⟩
  · rw [Bool.and_eq_true, callsItself, List.contains_iff_mem]

/-- What was put on the stack from the method on. -/
theorem Following.exists_component : ∃ others, search.stack = others ++ method :: before.stack ∧
    method ∉ others ∧ ∀ {other}, (other ∈ search.stack ∧ other ∉ before.stack) ↔
      other = method ∨ other ∈ others := by
  obtain ⟨others, split⟩ := h.stack
  have decreasing := h.consistent.decreasing
  rw [← split, List.pairwise_append] at decreasing
  have new : ∀ {other}, other ∈ others → other ∉ before.stack := by
    intro other mem old
    exact Nat.lt_irrefl _ (decreasing.2.2 other mem other (List.mem_cons_of_mem _ old))
  refine ⟨others, split.symm, fun mem => ?_, fun {other} => ⟨?_, ?_⟩⟩
  · exact Nat.lt_irrefl _ (decreasing.2.2 method mem method List.mem_cons_self)
  · rintro ⟨mem, fresh⟩
    rw [← split, List.mem_append, List.mem_cons] at mem
    exact mem.elim Or.inr (Or.imp_right fun old => absurd old fresh)
  · rintro (rfl | mem)
    · exact ⟨h.mem_stack, h.not_mem_before⟩
    · exact ⟨split ▸ List.mem_append_left _ mem, new mem⟩

include consistent inside base in
/-- A method that reaches back to nothing closes its component. -/
theorem Following.leave_closed {after : Search}
    (left : search.leave method (directRecursion && graph.callsItself method) = after) :
    after.Consistent graph directRecursion root path ∧ Dug graph method before after := by
  obtain ⟨others, split, off, component⟩ := h.exists_component
  have sub : ∀ {other}, other ∈ before.stack → other ∈ search.stack := fun old =>
    h.grows.stack.subset old
  rw [leave_eq split off (by rw [h.found, h.order, base])] at left
  have closed : ∀ {other}, after.Closed other ↔
      search.Closed other ∨ other = method ∨ other ∈ others := by
    intro other
    rw [← left, ← component]
    constructor
    · rintro ⟨met, fresh⟩
      by_cases stacked : other ∈ search.stack
      · exact Or.inr ⟨stacked, fresh⟩
      · exact Or.inl ⟨met, stacked⟩
    · rintro (⟨met, fresh⟩ | ⟨mem, fresh⟩)
      · exact ⟨met, fun old => fresh (sub old)⟩
      · exact ⟨h.consistent.met mem, fresh⟩
  have recursive : ∀ {other}, other ∈ after.recursive ↔
      after.Closed other ∧ Recursive graph.Edge directRecursion other := by
    intro other
    have counts := h.recursive_component_iff consistent inside base component off other
    rw [closed, or_and_right, ← h.consistent.recursive, ← left]
    by_cases count : others ≠ [] ∨ (directRecursion && graph.callsItself method) = true
    · rw [if_pos count, List.cons_append, List.mem_cons, List.mem_append, ← or_assoc, or_comm]
      exact or_congr_right (and_iff_left_of_imp fun mem => (counts mem).2 count).symm
    · rw [if_neg count]
      exact (or_iff_left fun both => count ((counts both.1).1 both.2)).symm
  subst left
  constructor
  · exact
      { known := h.consistent.known
        bounded := h.consistent.bounded
        met := fun mem => h.consistent.met (sub mem)
        decreasing := h.consistent.decreasing.sublist h.grows.stack.sublist
        stacked := consistent.stacked
        distinct := consistent.distinct
        closed := fun {member target} isClosed edge => by
          rw [closed] at isClosed ⊢
          rcases isClosed with isClosed | mem
          · exact Or.inl (h.consistent.closed isClosed edge)
          · rw [← component] at mem ⊢
            exact h.closed_or_mem consistent base ((h.leadsTo mem.1 mem.2).tail edge)
        followed := fun mem outside edge => h.mem_targets_met (sub mem) outside edge
        down := fun mem stacked le =>
          h.consistent.down (List.mem_cons_of_mem _ mem) (sub stacked) le
        back := fun {inner} mem => by
          obtain ⟨outer, inPath, le, leads⟩ := h.consistent.back (sub mem)
          refine ⟨outer, (List.mem_cons.1 inPath).resolve_left ?_, le, leads⟩
          rintro rfl
          have := (h.mem_before_iff (sub mem)).1 mem
          have := h.place_eq
          omega
        recursive := recursive }
  · exact
      { grows := ⟨h.grows.order, h.grows.low, h.grows.size, h.grows.later, List.suffix_rfl⟩
        met := h.met_self
        low := ⟨low, h.found, Or.inl (Nat.le_of_eq base.symm),
          fun inner mem fresh => absurd mem fresh⟩ }

include consistent inside in
/-- Once all calls of a method were followed, the search from it is over. -/
theorem Following.leave :
    let after := search.leave method (directRecursion && graph.callsItself method)
    after.Consistent graph directRecursion root path ∧ Dug graph method before after := by
  intro after
  by_cases base : low = before.order.size
  · exact h.leave_closed consistent inside base rfl
  · have kept : after = search := by
      refine if_neg ?_
      rw [h.found, h.order]
      exact fun same => base (Option.some.inj same)
    rw [kept]
    exact h.leave_open consistent (Nat.lt_of_le_of_ne h.low_le base)

end Leave

theorem consistent_empty (directRecursion : Bool) (root : Signature) :
    empty.Consistent graph directRecursion root [] where
  known := by rintro _ ⟨_, ⟨⟩⟩
  bounded := by rintro _ ⟨_, ⟨⟩⟩
  met mem := absurd mem List.not_mem_nil
  decreasing := .nil
  stacked mem := mem
  distinct := .nil
  closed := by rintro _ _ ⟨⟨_, ⟨⟩⟩, -⟩
  followed mem := absurd mem List.not_mem_nil
  down mem := absurd mem List.not_mem_nil
  back mem := absurd mem List.not_mem_nil
  recursive := iff_of_false List.not_mem_nil (by rintro ⟨⟨⟨_, ⟨⟩⟩, -⟩, -⟩)

end Search

/-! ## The whole search -/

variable {graph} {directRecursion : Bool} {root : Signature}

/-- The search does what it should, given enough depth for the methods that are not being
searched from yet. -/
theorem digs_dig (stays : ∀ {caller target}, graph.Edge caller target → target ∈ graph.edges.keys)
    {depth : Nat} {path : List Signature} (enough : graph.edges.size ≤ depth + path.length) :
    Search.Digs graph directRecursion root path (graph.dig directRecursion depth) := by
  induction depth generalizing path with
  | zero =>
      intro method search consistent fresh listed _ _
      have entered := consistent.enter fresh listed ‹_› ‹_›
      have inside : method :: path ⊆ graph.edges.keys := fun other mem =>
        (entered.known (entered.met (entered.stacked mem))).1
      have bound := entered.distinct.length_le_of_subset inside
      rw [List.length_cons, Table.keys, List.length_map] at bound
      exact absurd (Nat.lt_of_lt_of_le bound enough) (by simp)
  | succ depth ih =>
      intro method search consistent fresh listed reached inside
      have deeper : Search.Digs graph directRecursion root (method :: path)
          (graph.dig directRecursion depth) := ih (by rw [List.length_cons]; omega)
      have start := Search.following_enter consistent fresh listed reached inside
      obtain ⟨low, followed⟩ := start.foldl stays deeper inside (List.Subset.refl _)
      exact followed.leave consistent inside

/-- The search from a method finds the recursive methods among those the method leads to. -/
theorem mem_recursive_dig
    (stays : ∀ {caller target}, graph.Edge caller target → target ∈ graph.edges.keys)
    (listed : root ∈ graph.edges.keys) {method : Signature} :
    method ∈ (graph.dig directRecursion graph.edges.size root .empty).recursive ↔
      graph.LeadsTo root method ∧ Recursive graph.Edge directRecursion method := by
  obtain ⟨consistent, dug⟩ := digs_dig stays (Nat.le_add_right _ _) root .empty
    (Search.consistent_empty directRecursion root) (by rintro ⟨_, ⟨⟩⟩) listed .refl
    fun _ mem => absurd mem List.not_mem_nil
  generalize graph.dig directRecursion graph.edges.size root .empty = search at consistent dug
  have emptied : ∀ {other}, other ∉ search.stack := by
    intro other mem
    obtain ⟨outer, inPath, -⟩ := consistent.back mem
    cases inPath
  rw [consistent.recursive]
  refine and_congr_left' ⟨fun closed => (consistent.known closed.1).2, fun leads => ?_⟩
  exact consistent.closed_of_leadsTo ⟨dug.met, emptied⟩ leads

end CallSearch.CallGraph
