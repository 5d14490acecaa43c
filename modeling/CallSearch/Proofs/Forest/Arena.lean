/-
# CallSearch.Proofs.Forest.Arena — bodies under construction

While calls are expanded some bodies are stored (`Stored`), with nodes that link them
to other bodies (`Links`), and some methods are being expanded.  `Stacked` describes the
keys being expanded: each is called by the one before, and the context starts at the
first recursive method.

* `Stacked.context_of_reached`: what is reached from inside has a context;
* `CanEnter.length_lt`: there are never more methods being expanded than trees.
-/
import CallSearch.Forest.Build
import CallSearch.Proofs.CallGraph
import CallSearch.Proofs.Tree.Expand
import CallSearch.Proofs.Tree.Feasible

namespace CallSearch

set_option autoImplicit false

open Relation

/-! ## Order of call nodes -/

instance : Std.LawfulEqOrd CallNode where
  compare_self {node} := by
    have parts : compare node node = (compare node.call node.call).then
        ((compare node.context node.context).then (compare node.body node.body)) := rfl
    simp [parts]
  eq_of_compare {a b} h := by
    have parts : (compare a.call b.call).then
        ((compare a.context b.context).then (compare a.body b.body)) = .eq := h
    simp only [Ordering.then_eq_eq, Std.LawfulEqCmp.compare_eq_iff_eq] at parts
    cases a
    cases b
    simpa using parts

instance : Std.LawfulEqOrd CallItem where
  compare_self {item} := by
    cases item with
    | invoked call =>
        have same : compare call call = .eq := Std.ReflCmp.compare_self
        exact same
    | call node =>
        have same : compare node node = .eq := Std.ReflCmp.compare_self
        exact same
  eq_of_compare {a b} h := by
    cases a with
    | invoked call =>
        cases b with
        | invoked other => rw [Std.LawfulEqCmp.eq_of_compare (show compare call other = .eq from h)]
        | call node => cases h
    | call node =>
        cases b with
        | invoked call => cases h
        | call other => rw [Std.LawfulEqCmp.eq_of_compare (show compare node other = .eq from h)]

/-! ## What methods show -/

/-- The methods a call shows: those it may land on, or the one it names if there is none. -/
def Dispatch.shown (dispatch : Dispatch) (call : Invocation) : List Signature :=
  if dispatch.resolve call = [] then [call.callee] else dispatch.resolve call

namespace Forest

/-! ## Arenas -/

namespace Arena

/-- There is a body for a key. -/
def Stored (arena : Arena) (key : NodeKey) : Prop := ∃ number, arena.numbers.get? key = some number

theorem not_stored_iff {arena : Arena} {key : NodeKey} :
    ¬arena.Stored key ↔ arena.numbers.get? key = none :=
  not_exists.trans Option.eq_none_iff_forall_ne_some.symm

/-- The body of a key. -/
def HasBody (arena : Arena) (key : NodeKey) (body : Tree CallItem) : Prop :=
  ∃ number, arena.numbers.get? key = some number ∧ arena.bodies[number]? = some body

/-- The body of the first key has a node with the second. -/
def Links (arena : Arena) (key other : NodeKey) : Prop :=
  ∃ body, arena.HasBody key body ∧ ∃ node, .call node ∈ body.leaves ∧ node.key = other

/-- The second key is reached from the first by any number of nodes. -/
abbrev LinksTo (arena : Arena) : NodeKey → NodeKey → Prop := ReflTransGen arena.Links

/-- The second arena has all that the first has. -/
structure Extends (small large : Arena) : Prop where
  numbers : ∀ {key number}, small.numbers.get? key = some number →
    large.numbers.get? key = some number
  bodies : ∀ {number : Nat} {body}, small.bodies[number]? = some body →
    large.bodies[number]? = some body

theorem Extends.refl (arena : Arena) : arena.Extends arena := ⟨fun h => h, fun h => h⟩

theorem Extends.trans {first second third : Arena} (h : first.Extends second)
    (h' : second.Extends third) : first.Extends third :=
  ⟨fun found => h'.numbers (h.numbers found), fun found => h'.bodies (h.bodies found)⟩

theorem Stored.extend {small large : Arena} {key : NodeKey} (stored : small.Stored key)
    (h : small.Extends large) : large.Stored key := by
  obtain ⟨number, found⟩ := stored
  exact ⟨number, h.numbers found⟩

theorem Links.extend {small large : Arena} {key other : NodeKey} (link : small.Links key other)
    (h : small.Extends large) : large.Links key other := by
  obtain ⟨body, ⟨number, found, here⟩, node⟩ := link
  exact ⟨body, ⟨number, h.numbers found, h.bodies here⟩, node⟩

theorem LinksTo.extend {small large : Arena} {key other : NodeKey} (link : small.LinksTo key other)
    (h : small.Extends large) : large.LinksTo key other :=
  ReflTransGen.mono (fun _ _ step => Links.extend step h) _ _ link

theorem get?_push (arena : Arena) (key other : NodeKey) (body : Tree CallItem) :
    (arena.push key body).numbers.get? other =
      if other = key then some arena.bodies.length else arena.numbers.get? other :=
  Table.get?_insert_eq _ _ _ _

/-- Storing a new body keeps the others. -/
theorem extends_push {arena : Arena} {key : NodeKey} (fresh : arena.numbers.get? key = none)
    (body : Tree CallItem) : arena.Extends (arena.push key body) where
  numbers {other number} found := by
    rw [get?_push, if_neg, found]
    rintro rfl
    rw [fresh] at found
    cases found
  bodies {number other} found := by
    have inside := (List.getElem?_eq_some_iff.1 found).1
    rw [push, List.getElem?_append_left inside]
    exact found

theorem hasBody_push (arena : Arena) (key : NodeKey) (body : Tree CallItem) :
    (arena.push key body).HasBody key body := by
  refine ⟨arena.bodies.length, ?_, ?_⟩
  · rw [get?_push, if_pos rfl]
  · simp [push]

theorem stored_push {arena : Arena} {key other : NodeKey} {body : Tree CallItem} :
    (arena.push key body).Stored other ↔ other = key ∨ arena.Stored other := by
  unfold Stored
  rw [get?_push]
  split
  · next same => simp [same]
  · next apart => simp [apart]

end Arena

namespace Source

variable (source : Source)

/-! ## Methods being expanded -/

/-- A call of the method `caller` may land on `callee`. -/
abbrev Calls (caller callee : Signature) : Prop :=
  CallSearch.Calls source.trees source.dispatch caller callee

/-- The context of the innermost key. -/
def contextIn : List NodeKey → Option Signature
  | [] => none
  | key :: _ => key.context

/-- Different methods with trees, one of them not yet being expanded. -/
structure CanEnter (source : Source) (expanding : List Signature) (method : Signature) : Prop where
  nodup : expanding.Nodup
  contained : ∀ other ∈ expanding, source.trees.contains other = true
  fresh : method ∉ expanding
  contains : source.trees.contains method = true

namespace CanEnter

variable {source : Source} {expanding : List Signature} {method : Signature}

theorem nil (contains : source.trees.contains method = true) : source.CanEnter [] method :=
  ⟨List.nodup_nil, by simp, List.not_mem_nil, contains⟩

theorem cons (h : source.CanEnter expanding method) {next : Signature}
    (fresh : next ∉ method :: expanding) (contains : source.trees.contains next = true) :
    source.CanEnter (method :: expanding) next where
  nodup := List.nodup_cons.2 ⟨h.fresh, h.nodup⟩
  contained := by
    rintro other mem
    rcases List.mem_cons.1 mem with rfl | mem
    · exact h.contains
    · exact h.contained other mem
  fresh := fresh
  contains := contains

/-- There are not more methods than trees. -/
theorem length_lt (h : source.CanEnter expanding method) :
    expanding.length < source.trees.size := by
  have listed : method :: expanding ⊆ source.trees.keys := by
    intro other mem
    rw [Table.mem_keys_iff]
    rcases List.mem_cons.1 mem with rfl | mem
    · exact h.contains
    · exact h.contained other mem
  have bound := (List.nodup_cons.2 ⟨h.fresh, h.nodup⟩).length_le_of_subset listed
  rwa [Table.keys, List.length_map, List.length_cons] at bound

end CanEnter

/-- A key that may be expanded inside the keys of a stack, the innermost first. -/
structure Enters (live : Signature → Prop) (stack : List NodeKey) (key : NodeKey) : Prop where
  contained : source.trees.contains key.callee = true
  fresh : key.callee ∉ stack.map NodeKey.callee
  live : live key.callee
  called : ∀ top ∈ stack.head?, source.Calls top.callee key.callee
  context : key.context = source.contextOf (contextIn stack) key.callee

/-- Keys being expanded inside each other, the innermost first. -/
inductive Stacked (live : Signature → Prop) : List NodeKey → Prop
  | nil : Stacked live []
  | cons {key : NodeKey} {stack : List NodeKey} : source.Enters live stack key →
      Stacked live stack → Stacked live (key :: stack)

/-- Recursive methods are marked: those that can be live and are on a cycle through another
method. -/
structure Marks (live : Signature → Prop) : Prop where
  forward : ∀ {caller callee}, live caller → source.Calls caller callee → live callee
  marked : ∀ {method callee}, live method → source.Calls method callee → callee ≠ method →
    ReflTransGen source.Calls callee method → method ∈ source.recursive

variable {source} {live : Signature → Prop}

theorem contextOf_some (context callee : Signature) :
    source.contextOf (some context) callee = some context := rfl

theorem contextOf_none (callee : Signature) :
    source.contextOf none callee = if callee ∈ source.recursive then some callee else none := by
  rw [contextOf, Option.none_or]
  simp

/-- Outside a context a method has none, or starts its own. -/
theorem contextOf_none_or_self (callee : Signature) :
    source.contextOf none callee = none ∨ source.contextOf none callee = some callee := by
  rw [contextOf_none]
  split
  · exact Or.inr rfl
  · exact Or.inl rfl

/-- Only methods that are not recursive are expanded without a context. -/
theorem Enters.not_recursive {stack : List NodeKey} {key : NodeKey}
    (enters : source.Enters live stack key) (plain : key.context = none) :
    key.callee ∉ source.recursive := by
  intro recursive
  have context := enters.context
  rw [plain] at context
  cases outer : contextIn stack with
  | none =>
      rw [outer, contextOf_none, if_pos recursive] at context
      cases context
  | some head =>
      rw [outer, contextOf_some] at context
      cases context

theorem Stacked.enters {stack : List NodeKey} (stacked : source.Stacked live stack) {key : NodeKey}
    (mem : key ∈ stack) : ∃ rest, key :: rest <:+ stack ∧ source.Enters live rest key := by
  induction stacked with
  | nil => cases mem
  | @cons top stack enters _ ih =>
      rcases List.mem_cons.1 mem with rfl | mem
      · exact ⟨stack, List.suffix_rfl, enters⟩
      · obtain ⟨rest, sub, enters⟩ := ih mem
        exact ⟨rest, sub.trans (List.suffix_cons _ _), enters⟩

/-- A method being expanded reaches those being expanded inside it. -/
theorem Stacked.reaches {stack : List NodeKey} {key : NodeKey}
    (stacked : source.Stacked live stack) (enters : source.Enters live stack key) {outer : NodeKey}
    (mem : outer ∈ stack) : ReflTransGen source.Calls outer.callee key.callee := by
  induction stacked generalizing key with
  | nil => cases mem
  | @cons top stack entersTop _ ih =>
      have called := enters.called top rfl
      rcases List.mem_cons.1 mem with rfl | mem
      · exact .single called
      · exact (ih entersTop mem).tail called

/-- A context stays the same further inside. -/
theorem Stacked.context {stack : List NodeKey} {key : NodeKey}
    (stacked : source.Stacked live stack) (enters : source.Enters live stack key) {outer : NodeKey}
    (mem : outer ∈ stack) : outer.context = none ∨ outer.context = key.context := by
  induction stacked generalizing key with
  | nil => cases mem
  | @cons top stack entersTop _ ih =>
      have inherited : top.context = none ∨ top.context = key.context := by
        cases head : top.context with
        | none => exact Or.inl rfl
        | some context =>
            refine Or.inr ?_
            rw [enters.context, contextIn, head, contextOf_some]
      rcases List.mem_cons.1 mem with rfl | mem
      · exact inherited
      · rcases ih entersTop mem with plain | same
        · exact Or.inl plain
        · rw [same]
          exact inherited

/-- Inside a context its head is being expanded. -/
theorem Stacked.head_mem {stack : List NodeKey} (stacked : source.Stacked live stack)
    {key : NodeKey} (mem : key ∈ stack) {context : Signature} (inside : key.context = some context) :
    ⟨context, some context⟩ ∈ stack := by
  induction stacked generalizing key with
  | nil => cases mem
  | @cons top stack enters stacked ih =>
      rcases List.mem_cons.1 mem with rfl | mem
      · have own := enters.context
        rw [inside] at own
        cases outer : contextIn stack with
        | none =>
            rw [outer, contextOf_none] at own
            split at own
            · obtain rfl := Option.some.inj own
              rw [← inside]
              exact List.mem_cons_self
            · cases own
        | some other =>
            rw [outer, contextOf_some] at own
            obtain rfl := Option.some.inj own
            match stack, outer with
            | top :: _, outer => exact List.mem_cons_of_mem _ (ih List.mem_cons_self outer)
      · exact List.mem_cons_of_mem _ (ih mem inside)

/-- A method being expanded without a context is not reached from inside. -/
theorem Stacked.context_of_reached (marks : source.Marks live) {stack : List NodeKey}
    {key : NodeKey} (stacked : source.Stacked live stack) (enters : source.Enters live stack key)
    {outer : NodeKey} (mem : outer ∈ stack)
    (path : ReflTransGen source.Calls key.callee outer.callee) : outer.context ≠ none := by
  intro plain
  obtain ⟨rest, -, entersOuter⟩ := stacked.enters mem
  have apart : outer.callee ≠ key.callee := fun same =>
    enters.fresh (same ▸ List.mem_map_of_mem mem)
  obtain ⟨next, step, away, inward⟩ := exists_first_step (stacked.reaches enters mem) apart
  exact entersOuter.not_recursive plain
    (marks.marked entersOuter.live step away (inward.trans path))

/-- A method called from inside that is being expanded shares the context. -/
theorem Stacked.mem_of_called (marks : source.Marks live) {stack : List NodeKey} {key : NodeKey}
    (stacked : source.Stacked live stack) (enters : source.Enters live stack key)
    {callee : Signature} (called : source.Calls key.callee callee)
    (mem : callee ∈ stack.map NodeKey.callee) :
    key.context ≠ none ∧ ⟨callee, key.context⟩ ∈ stack := by
  obtain ⟨outer, inside, rfl⟩ := List.mem_map.1 mem
  have inContext := stacked.context_of_reached marks enters inside (.single called)
  rcases stacked.context enters inside with plain | same
  · exact absurd plain inContext
  · rw [← same]
    exact ⟨inContext, inside⟩

theorem Stacked.nodup {stack : List NodeKey} (stacked : source.Stacked live stack) :
    (stack.map NodeKey.callee).Nodup := by
  induction stacked with
  | nil => exact List.nodup_nil
  | cons enters _ ih => exact List.nodup_cons.2 ⟨enters.fresh, ih⟩

theorem Stacked.canEnter {stack : List NodeKey} {key : NodeKey}
    (stacked : source.Stacked live stack) (enters : source.Enters live stack key) :
    source.CanEnter (stack.map NodeKey.callee) key.callee := by
  refine ⟨stacked.nodup, fun method mem => ?_, enters.fresh, enters.contained⟩
  obtain ⟨other, inside, rfl⟩ := List.mem_map.1 mem
  obtain ⟨rest, -, entersOther⟩ := stacked.enters inside
  exact entersOther.contained

theorem Stacked.length_lt {stack : List NodeKey} {key : NodeKey}
    (stacked : source.Stacked live stack) (enters : source.Enters live stack key) :
    stack.length < source.trees.size := by
  have bound := (stacked.canEnter enters).length_lt
  rwa [List.length_map] at bound

end Source

end Forest

end CallSearch
