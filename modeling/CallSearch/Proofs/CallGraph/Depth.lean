/-
# CallSearch.Proofs.CallGraph.Depth — the search for cycles ends

Every round of the search starts from a method that was not met, and meets it.  So no
round is started inside as many others as there are methods: what stands in the place
of the rounds below makes no difference (`unrollDig_eq_dig`).
-/
import CallSearch.Proofs.CallGraph

namespace CallSearch.CallGraph

set_option autoImplicit false

/-- One round of the recursion of `dig`, with `inner` in the place of the rounds inside it. -/
def digRound (graph : CallGraph) (directRecursion : Bool) (inner : Signature → Search → Search)
    (method : Signature) (search : Search) : Search :=
  let followed := (graph.targets method).foldl (Search.follow inner method) (search.enter method)
  followed.leave method (directRecursion && graph.callsItself method)

/-- Some rounds of the recursion of `dig` inside each other, with `bottom` inside the last. -/
def unrollDig (graph : CallGraph) (directRecursion : Bool) (bottom : Signature → Search → Search) :
    Nat → Signature → Search → Search
  | 0 => bottom
  | rounds + 1 => graph.digRound directRecursion (graph.unrollDig directRecursion bottom rounds)

theorem dig_eq_unrollDig (graph : CallGraph) (directRecursion : Bool) (depth : Nat) :
    graph.dig directRecursion depth =
      graph.unrollDig directRecursion (fun _ search => search) depth := by
  induction depth with
  | zero =>
      funext method search
      rw [dig, unrollDig]
  | succ depth ih =>
      funext method search
      rw [dig, unrollDig, digRound, ih]

namespace Search

/-- A search comes after another, and has met methods of the graph only. -/
structure Follows (graph : CallGraph) (before after : Search) : Prop where
  known : ∀ {method}, after.Met method → method ∈ graph.edges.keys
  size : before.order.size ≤ after.order.size

variable {graph : CallGraph} {before search after : Search} {method : Signature}

theorem Follows.trans (h : Follows graph before search) (h' : Follows graph search after) :
    Follows graph before after :=
  ⟨h'.known, Nat.le_trans h.size h'.size⟩

/-- Only the methods met matter. -/
theorem Follows.of_order (h : Follows graph before search) (same : after.order = search.order) :
    Follows graph before after where
  known := by
    rintro other ⟨place, found⟩
    exact h.known ⟨place, same ▸ found⟩
  size := same ▸ h.size

theorem Follows.enter (h : Follows graph before search) (fresh : ¬search.Met method)
    (listed : method ∈ graph.edges.keys) : Follows graph before (search.enter method) where
  known met := by
    rcases met_enter.1 met with rfl | met
    · exact listed
    · exact h.known met
  size := by
    rw [size_enter fresh]
    exact Nat.le_succ_of_le h.size

/-- There are more methods than were met before a method is met. -/
theorem Follows.size_lt (h : Follows graph before search) (fresh : ¬search.Met method)
    (listed : method ∈ graph.edges.keys) : search.order.size < graph.edges.size := by
  have inside : method :: search.order.keys ⊆ graph.edges.keys := by
    intro other mem
    rcases List.mem_cons.1 mem with rfl | mem
    · exact listed
    · exact h.known (Table.contains_iff.1 (Table.mem_keys_iff.1 mem))
  have apart : method ∉ search.order.keys := fun mem =>
    fresh (Table.contains_iff.1 (Table.mem_keys_iff.1 mem))
  have bound := (List.nodup_cons.2 ⟨apart, search.order.nodup_keys⟩).length_le_of_subset inside
  rwa [List.length_cons, Table.keys, Table.keys, List.length_map, List.length_map] at bound

theorem order_leave (search : Search) (method : Signature) (alone : Bool) :
    (search.leave method alone).order = search.order := by
  unfold leave
  split <;> rfl

/-- Following calls depends on the searches from methods that were not met alone. -/
theorem foldl_follow_congr (method : Signature) {inner other : Signature → Search → Search}
    (same : ∀ {target search}, Follows graph before search → ¬search.Met target →
      target ∈ graph.edges.keys →
      inner target search = other target search ∧ Follows graph search (inner target search))
    {targets : List Signature} (listed : ∀ target ∈ targets, target ∈ graph.edges.keys)
    (h : Follows graph before search) :
    targets.foldl (follow inner method) search = targets.foldl (follow other method) search ∧
      Follows graph before (targets.foldl (follow inner method) search) := by
  induction targets generalizing search with
  | nil => exact ⟨rfl, h⟩
  | cons target rest ih =>
      have one : follow inner method search target = follow other method search target ∧
          Follows graph before (follow inner method search target) := by
        unfold follow
        by_cases self : target = method
        · rw [if_pos self, if_pos self]
          exact ⟨rfl, h⟩
        · rw [if_neg self, if_neg self]
          cases found : search.order.get? target with
          | some place =>
              refine ⟨rfl, ?_⟩
              dsimp only
              split
              · exact h.of_order (order_lower place)
              · exact h
          | none =>
              obtain ⟨agree, follows⟩ := same h (not_met_iff.2 found)
                (listed target List.mem_cons_self)
              dsimp only
              rw [← agree]
              refine ⟨rfl, (h.trans follows).of_order ?_⟩
              split
              · exact order_lower _
              · rfl
      rw [List.foldl_cons, List.foldl_cons, ← one.1]
      exact ih (fun other mem => listed other (List.mem_cons_of_mem _ mem)) one.2

end Search

variable {graph : CallGraph}

/-- With a round for every method that was not met, what is inside the last round is not
reached. -/
theorem unrollDig_congr
    (stays : ∀ {caller target}, graph.Edge caller target → target ∈ graph.edges.keys)
    (directRecursion : Bool) (bottom other : Signature → Search → Search) {rounds others : Nat}
    {method : Signature} {before search : Search} (h : Search.Follows graph before search)
    (fresh : ¬search.Met method) (listed : method ∈ graph.edges.keys)
    (enough : graph.edges.size ≤ rounds + search.order.size)
    (enough' : graph.edges.size ≤ others + search.order.size) :
    graph.unrollDig directRecursion bottom rounds method search =
        graph.unrollDig directRecursion other others method search ∧
      Search.Follows graph search (graph.unrollDig directRecursion bottom rounds method search) := by
  have left := h.size_lt fresh listed
  induction rounds generalizing others method before search with
  | zero => omega
  | succ rounds ih =>
      obtain ⟨others, rfl⟩ : ∃ n, others = n + 1 := ⟨others - 1, by omega⟩
      have size := Search.size_enter fresh
      have start : Search.Follows graph (search.enter method) (search.enter method) :=
        ⟨(h.enter fresh listed).known, Nat.le_refl _⟩
      have deeper : ∀ {target search'}, Search.Follows graph (search.enter method) search' →
          ¬search'.Met target → target ∈ graph.edges.keys →
          graph.unrollDig directRecursion bottom rounds target search' =
              graph.unrollDig directRecursion other others target search' ∧
            Search.Follows graph search'
              (graph.unrollDig directRecursion bottom rounds target search') :=
        fun follows unmet known =>
          have := follows.size
          ih follows unmet known (by omega) (by omega) (follows.size_lt unmet known)
      have targets : ∀ target ∈ graph.targets method, target ∈ graph.edges.keys :=
        fun _ mem => stays mem
      obtain ⟨agree, follows⟩ := Search.foldl_follow_congr method deeper targets start
      rw [unrollDig, unrollDig, digRound, digRound, ← agree]
      refine ⟨rfl, Search.Follows.of_order ⟨follows.known, ?_⟩ (Search.order_leave _ _ _)⟩
      have := follows.size
      omega

/-- The search from a method ends: as many rounds as there are methods give its result, whatever
is done in the place of further rounds. -/
theorem unrollDig_eq_dig
    (stays : ∀ {caller target}, graph.Edge caller target → target ∈ graph.edges.keys)
    (directRecursion : Bool) (bottom : Signature → Search → Search) {rounds : Nat}
    (enough : graph.edges.size ≤ rounds) {root : Signature} (listed : root ∈ graph.edges.keys) :
    graph.unrollDig directRecursion bottom rounds root .empty =
      graph.dig directRecursion graph.edges.size root .empty := by
  have start : Search.Follows graph .empty .empty := ⟨by rintro _ ⟨_, ⟨⟩⟩, Nat.le_refl _⟩
  rw [dig_eq_unrollDig]
  exact (unrollDig_congr stays directRecursion bottom _ start (by rintro ⟨_, ⟨⟩⟩) listed
    (Nat.le_trans enough (Nat.le_add_right _ _)) (Nat.le_add_right _ _)).1

end CallSearch.CallGraph
