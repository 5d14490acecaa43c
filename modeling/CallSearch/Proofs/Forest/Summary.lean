/-
# CallSearch.Proofs.Forest.Summary — summaries hold what bodies show

A node shows the calls in the bodies linked to its key.  The nodes of a body have
smaller numbers than the body, so no key is met again below itself, and the depth the
search is given is never used up.  Hence a stored summary is that of the calls shown,
exactly, and every node of the forest has one: `Expansion.exists_summary`.
-/
import CallSearch.Proofs.Forest.Build
import CallSearch.Summary

namespace CallSearch

set_option autoImplicit false

open Relation

/-! ## Summaries of calls -/

/-- A summary of exactly the calls with some property. -/
structure Summary.Of (summary : Summary) (shows : Invocation → Prop) : Prop where
  callees : ∀ method, method ∈ summary.callees ↔ ∃ call, shows call ∧ call.callee = method
  literals : ∀ literal, literal ∈ summary.literals ↔ ∃ call, shows call ∧ literal ∈ call.literals

namespace Summary

theorem of_empty : (∅ : Summary).Of fun _ => False where
  callees method := by
    simp only [false_and, exists_false, iff_false]
    exact List.not_mem_nil
  literals literal := by
    simp only [false_and, exists_false, iff_false]
    exact List.not_mem_nil

theorem of_ofCalls (call : Invocation) : (ofCalls [call]).Of (· = call) where
  callees method := by
    simp [ofCalls, eq_comm]
  literals literal := by
    simp [ofCalls]

theorem Of.union {first second : Summary} {shows others : Invocation → Prop}
    (h : first.Of shows) (h' : second.Of others) :
    (first ∪ second).Of fun call => shows call ∨ others call where
  callees method := by
    have split : method ∈ (first ∪ second).callees ↔
        method ∈ first.callees ∨ method ∈ second.callees := SortedSet.mem_union
    rw [split, h.callees, h'.callees]
    simp only [or_and_right, exists_or]
  literals literal := by
    have split : literal ∈ (first ∪ second).literals ↔
        literal ∈ first.literals ∨ literal ∈ second.literals := SortedSet.mem_union
    rw [split, h.literals, h'.literals]
    simp only [or_and_right, exists_or]

theorem Of.congr {summary : Summary} {shows others : Invocation → Prop} (h : summary.Of shows)
    (same : ∀ call, shows call ↔ others call) : summary.Of others := by
  obtain rfl : shows = others := funext fun call => propext (same call)
  exact h

end Summary

namespace Forest

/-! ## What keys show -/

/-- A call stands in a body linked to a key. -/
def Arena.Shows (arena : Arena) (key : NodeKey) (call : Invocation) : Prop :=
  ∃ other body item, arena.LinksTo key other ∧ arena.HasBody other body ∧ item ∈ body.leaves ∧
    item.invocation = call

/-- What a leaf of a body adds: its own call, and what its node shows. -/
def Arena.Adds (arena : Arena) (item : CallItem) (call : Invocation) : Prop :=
  item.invocation = call ∨ ∃ node, item = .call node ∧ arena.Shows node.key call

theorem Arena.HasBody.stored {arena : Arena} {key : NodeKey} {body : Tree CallItem}
    (h : arena.HasBody key body) : arena.Stored key := by
  obtain ⟨number, found, -⟩ := h
  exact ⟨number, found⟩

theorem Arena.HasBody.unique {arena : Arena} {key : NodeKey} {body other : Tree CallItem}
    (h : arena.HasBody key body) (h' : arena.HasBody key other) : body = other := by
  obtain ⟨number, found, here⟩ := h
  obtain ⟨number', found', here'⟩ := h'
  cases found.symm.trans found'
  exact Option.some.inj (here.symm.trans here')

/-- A key shows what the leaves of its body add. -/
theorem Arena.shows_iff {arena : Arena} {key : NodeKey} {body : Tree CallItem}
    (has : arena.HasBody key body) {call : Invocation} :
    arena.Shows key call ↔ ∃ item ∈ body.leaves, arena.Adds item call := by
  constructor
  · rintro ⟨other, body', item, path, has', mem, same⟩
    rcases ReflTransGen.cases_head path with rfl | ⟨next, ⟨_, has'', node, linked, rfl⟩, path⟩
    · cases has.unique has'
      exact ⟨item, mem, Or.inl same⟩
    · cases has.unique has''
      exact ⟨_, linked, Or.inr ⟨node, rfl, other, body', item, path, has', mem, same⟩⟩
  · rintro ⟨item, mem, same | ⟨node, rfl, other, body', item, path, has', mem', same⟩⟩
    · exact ⟨key, body, item, .refl, has, mem, same⟩
    · exact ⟨other, body', item, .head ⟨body, has, node, mem, rfl⟩ path, has', mem', same⟩

/-! ## Summarizing -/

/-- Every summary stored is that of a key with a body, and the keys linked to it have summaries
too. -/
def Summarized (arena : Arena) (table : SummaryTable) : Prop :=
  ∀ key summary, table.get? key = some summary → arena.Stored key ∧
    summary.Of (arena.Shows key) ∧ ∀ other, arena.LinksTo key other → table.contains other = true

/-- What summarizing a node should do. -/
def Summarizes (arena : Arena) (summarize : CallNode → StateM SummaryTable Summary)
    (node : CallNode) : Prop :=
  ∀ table, Summarized arena table →
    (summarize node table).1.Of (arena.Shows node.key) ∧
      Summarized arena (summarize node table).2 ∧
      (summarize node table).2.contains node.key = true ∧
      ∀ key, table.contains key = true → (summarize node table).2.contains key = true

/-- Add what a leaf of a body adds. -/
def addItem (summarize : CallNode → StateM SummaryTable Summary) (summary : Summary) :
    CallItem → StateM SummaryTable Summary
  | .invoked call => pure (summary ∪ .ofCalls [call])
  | .call child => do
      let reached ← summarize child
      pure (summary ∪ .ofCalls [child.call] ∪ reached)

theorem summarizeNode_eq_of_get? {forest : Forest} {depth : Nat} {around : List NodeKey}
    {node : CallNode} {table : SummaryTable} {summary : Summary}
    (found : table.get? node.key = some summary) :
    forest.summarizeNode depth around node table = (summary, table) := by
  unfold summarizeNode
  simp only [bind, StateT.bind, get, getThe, MonadStateOf.get, StateT.get, pure, found]
  rfl

theorem summarizeNode_eq_of_fresh {forest : Forest} {depth : Nat} {around : List NodeKey}
    {node : CallNode} {table : SummaryTable} (fresh : table.get? node.key = none)
    (outside : node.key ∉ around) :
    forest.summarizeNode (depth + 1) around node table =
      let result := (forest.body node).leaves.foldlM
        (addItem (forest.summarizeNode depth (node.key :: around))) ∅ table
      (result.1, result.2.insert node.key result.1) := by
  rw [summarizeNode]
  simp only [bind, StateT.bind, get, getThe, MonadStateOf.get, StateT.get, pure, fresh]
  rw [if_neg (by simpa using outside)]
  rfl

section Run

variable {arena : Arena}

/-- Adding one leaf. -/
theorem addItem_spec {summarize : CallNode → StateM SummaryTable Summary} {item : CallItem}
    (child : ∀ node, item = .call node → Summarizes arena summarize node) {summary : Summary}
    {shows : Invocation → Prop} (soFar : summary.Of shows) {table : SummaryTable}
    (summarized : Summarized arena table) :
    (addItem summarize summary item table).1.Of (fun call => shows call ∨ arena.Adds item call) ∧
      Summarized arena (addItem summarize summary item table).2 ∧
      (∀ node, item = .call node →
        (addItem summarize summary item table).2.contains node.key = true) ∧
      ∀ key, table.contains key = true →
        (addItem summarize summary item table).2.contains key = true := by
  cases item with
  | invoked call =>
      refine ⟨?_, summarized, fun node same => (by cases same), fun key has => has⟩
      refine (soFar.union (Summary.of_ofCalls call)).congr fun other => ?_
      simp [Arena.Adds, CallItem.invocation, eq_comm]
  | call node =>
      obtain ⟨reached, summarized', contained, keeps⟩ := child node rfl table summarized
      refine ⟨?_, summarized', ?_, keeps⟩
      · refine ((soFar.union (Summary.of_ofCalls node.call)).union reached).congr fun other => ?_
        simp [Arena.Adds, CallItem.invocation, eq_comm, or_assoc]
      · rintro _ ⟨⟩
        exact contained

/-- Adding leaves one after another. -/
theorem foldlM_addItem_spec {summarize : CallNode → StateM SummaryTable Summary}
    {items : List CallItem} (child : ∀ node, .call node ∈ items → Summarizes arena summarize node)
    {summary : Summary} {shows : Invocation → Prop} (soFar : summary.Of shows)
    {table : SummaryTable} (summarized : Summarized arena table) :
    (items.foldlM (addItem summarize) summary table).1.Of
        (fun call => shows call ∨ ∃ item ∈ items, arena.Adds item call) ∧
      Summarized arena (items.foldlM (addItem summarize) summary table).2 ∧
      (∀ node, .call node ∈ items →
        (items.foldlM (addItem summarize) summary table).2.contains node.key = true) ∧
      ∀ key, table.contains key = true →
        (items.foldlM (addItem summarize) summary table).2.contains key = true := by
  induction items generalizing summary shows table with
  | nil =>
      exact ⟨soFar.congr fun call => (by simp), summarized, fun node mem => (by cases mem),
        fun key has => has⟩
  | cons item rest ih =>
      obtain ⟨soFar, summarized, contained, keeps⟩ := addItem_spec
        (fun node same => child node (same ▸ List.mem_cons_self)) soFar summarized
      obtain ⟨all, summarized, containedRest, keepsRest⟩ :=
        ih (fun node mem => child node (List.mem_cons_of_mem _ mem)) soFar summarized
      rw [List.foldlM_cons]
      refine ⟨all.congr fun call => ?_, summarized, fun node mem => ?_,
        fun key has => keepsRest key (keeps key has)⟩
      · simp [or_assoc]
      · rcases List.mem_cons.1 mem with same | mem
        · exact keepsRest _ (contained node same.symm)
        · exact containedRest node mem

theorem contains_insert {table : SummaryTable} {key other : NodeKey} {summary : Summary} :
    (table.insert key summary).contains other = true ↔
      other = key ∨ table.contains other = true := by
  rw [Table.contains, Table.get?_insert_eq, Table.contains]
  split
  · next same => simp [same]
  · next apart => simp [apart]

/-- Storing the summary of a key whose nodes have summaries. -/
theorem Summarized.insert {table : SummaryTable} (summarized : Summarized arena table)
    {key : NodeKey} {body : Tree CallItem} (has : arena.HasBody key body) {summary : Summary}
    (exact' : summary.Of (arena.Shows key))
    (contained : ∀ node, .call node ∈ body.leaves → table.contains node.key = true) :
    Summarized arena (table.insert key summary) := by
  intro other found here
  rw [Table.get?_insert_eq] at here
  split at here
  · next same =>
    subst same
    cases here
    refine ⟨has.stored, exact', fun linked path => contains_insert.2 ?_⟩
    rcases ReflTransGen.cases_head path with rfl | ⟨next, ⟨body', has', node, mem, rfl⟩, path⟩
    · exact Or.inl rfl
    · -- A link leads to a node of the body, and what is linked to that has summaries already.
      cases has.unique has'
      obtain ⟨summary', there⟩ := Table.contains_iff.1 (contained node mem)
      exact Or.inr ((summarized _ _ there).2.2 linked path)
  · obtain ⟨stored, exact', links⟩ := summarized other found here
    exact ⟨stored, exact', fun linked path => contains_insert.2 (Or.inr (links linked path))⟩

/-- Summarizing nodes one after another. -/
theorem forM_summarize_spec {summarize : CallNode → StateM SummaryTable Summary}
    {nodes : List CallNode} (each : ∀ node ∈ nodes, Summarizes arena summarize node)
    {table : SummaryTable} (summarized : Summarized arena table) :
    let result := (nodes.forM fun node => do
      let _ ← summarize node : StateM SummaryTable Unit) table
    Summarized arena result.2 ∧ (∀ node ∈ nodes, result.2.contains node.key = true) ∧
      ∀ key, table.contains key = true → result.2.contains key = true := by
  induction nodes generalizing table with
  | nil => exact ⟨summarized, fun node mem => (by cases mem), fun key has => has⟩
  | cons node rest ih =>
      obtain ⟨-, summarized, contained, keeps⟩ := each node List.mem_cons_self table summarized
      obtain ⟨summarized, containedRest, keepsRest⟩ :=
        ih (fun other mem => each other (List.mem_cons_of_mem _ mem)) summarized
      refine ⟨summarized, fun other mem => ?_, fun key has => keepsRest key (keeps key has)⟩
      rcases List.mem_cons.1 mem with rfl | mem
      · exact keepsRest _ contained
      · exact containedRest other mem

end Run

namespace Expansion

variable {source : Source} {forest : Forest} {arena : Arena}
  (expansion : Expansion source forest arena)

include expansion

/-- The body of a node is that of its key. -/
theorem hasBody {node : CallNode} (number : arena.numbers.get? node.key = some node.body) :
    arena.HasBody node.key (forest.body node) := by
  obtain ⟨body, here, -⟩ := expansion.sound.stored node.key node.body number
  have same : forest.body node = body := by
    rw [Forest.body, body?, expansion.bodies, here, Option.getD_some]
  rw [same]
  exact ⟨node.body, number, here⟩

/-- Summarizing a node does what it should, with depth for the number of its body and inside
keys with greater numbers. -/
theorem summarizes_summarizeNode {depth : Nat} {around : List NodeKey} {node : CallNode}
    (number : arena.numbers.get? node.key = some node.body) (enough : node.body < depth)
    (greater : ∀ key ∈ around, ∃ other, arena.numbers.get? key = some other ∧ node.body < other) :
    Summarizes arena (forest.summarizeNode depth around) node := by
  induction depth generalizing around node with
  | zero => exact absurd enough (Nat.not_lt_zero _)
  | succ depth ih =>
      intro table summarized
      cases present : table.get? node.key with
      | some summary =>
          rw [summarizeNode_eq_of_get? present]
          exact ⟨(summarized _ _ present).2.1, summarized, Table.contains_iff.2 ⟨summary, present⟩,
            fun key has => has⟩
      | none =>
          have outside : node.key ∉ around := by
            intro mem
            obtain ⟨other, found, less⟩ := greater _ mem
            cases number.symm.trans found
            exact Nat.lt_irrefl _ less
          have has := expansion.hasBody number
          obtain ⟨number', found, isBody⟩ := expansion.sound.isBody has
          cases number.symm.trans found
          have child : ∀ other, .call other ∈ (forest.body node).leaves →
              Summarizes arena (forest.summarizeNode depth (node.key :: around)) other := by
            intro other mem
            obtain ⟨number', less, -⟩ := isBody.nodes other mem
            refine ih number' (by omega) fun key listed => ?_
            rcases List.mem_cons.1 listed with rfl | listed
            · exact ⟨node.body, number, less⟩
            · obtain ⟨outer, found, more⟩ := greater key listed
              exact ⟨outer, found, less.trans more⟩
          obtain ⟨all, summarized', contained, keeps⟩ :=
            foldlM_addItem_spec child Summary.of_empty summarized
          rw [summarizeNode_eq_of_fresh present outside]
          have shown := all.congr fun call =>
            (false_or _).to_iff.trans (Arena.shows_iff has).symm
          exact ⟨shown, summarized'.insert has shown contained, contains_insert.2 (Or.inl rfl),
            fun key here => contains_insert.2 (Or.inr (keeps key here))⟩

/-- Every body has a node. -/
theorem exists_node {key : NodeKey} (stored : arena.Stored key) :
    ∃ node ∈ forest.nodes, node.key = key := by
  obtain ⟨root, mem, path⟩ := expansion.linked key stored
  rcases ReflTransGen.cases_tail path with rfl | ⟨before, -, body, has, node, here, same⟩
  · exact ⟨root, mem_nodes.2 (Or.inl mem), rfl⟩
  · obtain ⟨place, -, found⟩ := has
    refine ⟨node, mem_nodes.2 (Or.inr ⟨body, ?_, here⟩), same⟩
    rw [expansion.bodies]
    exact List.mem_of_getElem? found

/-- There are not more bodies than nodes. -/
theorem length_bodies_le : forest.bodies.length ≤ forest.nodeCount := by
  have count : forest.nodeCount = (forest.nodes.map CallNode.body).length := by
    rw [List.length_map, nodes, List.length_append, List.length_flatMap]
    rfl
  have listed : List.range forest.bodies.length ⊆ forest.nodes.map CallNode.body := by
    intro number inside
    rw [List.mem_range, expansion.bodies] at inside
    obtain ⟨key, found⟩ := expansion.sound.numbered number inside
    obtain ⟨node, mem, rfl⟩ := expansion.exists_node ⟨number, found⟩
    cases found.symm.trans (expansion.number mem)
    exact List.mem_map_of_mem mem
  rw [count, ← List.length_range (n := forest.bodies.length)]
  exact List.nodup_range.length_le_of_subset listed

/-- The summaries of a forest are those of its keys, and every root has one. -/
theorem summarized_summaries : Summarized arena forest.summaries ∧
    ∀ root ∈ forest.roots, forest.summaries.contains root.key = true := by
  have each : ∀ root ∈ forest.roots,
      Summarizes arena (forest.summarizeNode (forest.nodeCount + 1) []) root := by
    intro root listed
    have number := expansion.roots root listed
    have inside := expansion.sound.lt_length number
    rw [← expansion.bodies] at inside
    have bound := expansion.length_bodies_le
    exact expansion.summarizes_summarizeNode number (by omega) (by simp)
  have empty : Summarized arena ∅ := by rintro _ _ ⟨⟩
  obtain ⟨summarized, contained, -⟩ := forM_summarize_spec each empty
  exact ⟨summarized, contained⟩

/-- Every node of a forest has a summary, and it is that of the calls the node shows. -/
theorem exists_summary {node : CallNode} (mem : node ∈ forest.nodes) :
    ∃ summary, forest.summaries.get? node.key = some summary ∧
      summary.Of (arena.Shows node.key) := by
  obtain ⟨summarized, contained⟩ := expansion.summarized_summaries
  obtain ⟨root, listed, path⟩ := expansion.linked node.key ⟨_, expansion.number mem⟩
  obtain ⟨summary, found⟩ := Table.contains_iff.1 (contained root listed)
  obtain ⟨-, -, links⟩ := summarized _ _ found
  obtain ⟨summary, found⟩ := Table.contains_iff.1 (links _ path)
  obtain ⟨-, exact', -⟩ := summarized _ _ found
  exact ⟨summary, found, exact'⟩

end Expansion

end Forest

end CallSearch
