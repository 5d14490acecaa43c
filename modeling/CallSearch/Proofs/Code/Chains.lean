/-
# CallSearch.Proofs.Code.Chains — following replacements to their end

Replacing one label by another gives chains of replacements.  A chain ends at a label
without a replacement, or it runs into labels that replace each other in a cycle
(`IsEnd`).  Resolving the chains in any order that mentions each replaced label takes
every label to an end of its chain: `resolveChains_ends`.

Where each replacement leads further on, by some rank, there are no cycles
(`resolveChains_spec`), and where no label has two replacements there is one end then,
`eq_of_chain_ends`.
-/
import CallSearch.Code.Simplify
import CallSearch.Proofs.Table
import Mathlib.Data.List.Count
import Mathlib.Logic.Relation

namespace CallSearch.Code

set_option autoImplicit false

open Relation

/-- A table of replacements for `stands`, some of them followed further than one step. -/
structure Resolving (stands : String → String → Prop) (table : Table String String) : Prop where
  sound : ∀ {a b}, table.get? a = some b → TransGen stands a b
  total : ∀ {a b}, stands a b → (table.get? a).isSome

/-- The replacements in a table, as they stand. -/
def Leads (table : Table String String) (a b : String) : Prop := table.get? a = some b

theorem leads_rightUnique (table : Table String String) : Relator.RightUnique (Leads table) :=
  fun _ _ _ hb hc => Option.some.inj (hb.symm.trans hc)

theorem resolving_leads (table : Table String String) : Resolving (Leads table) table where
  sound found := .single found
  total step := Option.isSome_iff_exists.2 ⟨_, step⟩

/-- No replacement leads on from a label, or replacements lead back to it. -/
def IsEnd (stands : String → String → Prop) (label : String) : Prop :=
  (∀ next, ¬ stands label next) ∨ TransGen stands label label

/-- The replacement of a label is an end of its chain. -/
def Settled (stands : String → String → Prop) (table : Table String String) (label : String) :
    Prop :=
  ∀ b, table.get? label = some b → IsEnd stands b

section Unique

variable {stands : String → String → Prop} (unique : Relator.RightUnique stands) {a b c : String}

include unique

/-- Where no label has two replacements, a label on a cycle is reached from all it leads to. -/
theorem chain_back (cycle : TransGen stands a a) (path : ReflTransGen stands a b) :
    ReflTransGen stands b a := by
  induction path with
  | refl => exact .refl
  | tail _ step ih =>
      rcases ih.cases_head with rfl | ⟨next, step', rest⟩
      · obtain ⟨next, step', rest⟩ := TransGen.head'_iff.1 cycle
        rwa [unique step step']
      · rwa [unique step step']

/-- Two ends of the chain of one label lead to each other. -/
theorem ends_connected (toB : ReflTransGen stands a b) (endB : IsEnd stands b)
    (toC : ReflTransGen stands a c) (endC : IsEnd stands c) :
    ReflTransGen stands b c ∧ ReflTransGen stands c b := by
  have back {x y : String} (endX : IsEnd stands x) (path : ReflTransGen stands x y) :
      ReflTransGen stands y x := by
    rcases endX with dead | cycle
    · rcases path.cases_head with rfl | ⟨next, step, -⟩
      · exact .refl
      · exact absurd step (dead next)
    · exact chain_back unique cycle path
  rcases ReflTransGen.total_of_right_unique unique toB toC with path | path
  · exact ⟨path, back endB path⟩
  · exact ⟨back endC path, path⟩

theorem eq_of_replaces_self (self : stands b b) (path : ReflTransGen stands b c) : c = b := by
  induction path with
  | refl => rfl
  | tail _ step ih =>
      subst ih
      exact unique step self

end Unique

/-- Where no label has two replacements, all chains from a label have the same end. -/
theorem eq_of_chain_ends {stands : String → String → Prop} (unique : Relator.RightUnique stands)
    {a b c : String} (toB : ReflTransGen stands a b) (finalB : ∀ d, ¬ stands b d)
    (toC : ReflTransGen stands a c) (finalC : ∀ d, ¬ stands c d) : b = c := by
  rcases ReflTransGen.total_of_right_unique unique toB toC with path | path
  · rcases path.cases_head with same | ⟨d, step, -⟩
    · exact same
    · exact absurd step (finalB d)
  · rcases path.cases_head with same | ⟨d, step, -⟩
    · exact same.symm
    · exact absurd step (finalC d)

section

variable {stands : String → String → Prop} {table : Table String String}

/-- A key that was not seen is one less once it is. -/
theorem countP_unseen_lt {keys seen : List String} {label : String} (key : label ∈ keys)
    (fresh : label ∉ seen) : (keys.countP fun other => !(label :: seen).contains other) <
      keys.countP fun other => !seen.contains other := by
  obtain ⟨before, after, rfl⟩ := List.append_of_mem key
  have mono (part : List String) : (part.countP fun other => !(label :: seen).contains other) ≤
      part.countP fun other => !seen.contains other :=
    List.countP_mono_left fun other _ => by simp
  have hbefore := mono before
  have hafter := mono after
  have met : (label :: seen).contains label = true := List.contains_iff_mem.2 List.mem_cons_self
  have unmet : seen.contains label = false := by simpa using fresh
  rw [List.countP_append, List.countP_append, List.countP_cons, List.countP_cons, met, unmet]
  simp only [Bool.not_true, Bool.not_false, Bool.false_eq_true, if_false, if_true]
  omega

theorem countP_unseen_le_size (table : Table String String) (seen : List String) :
    (table.keys.countP fun key => !seen.contains key) < table.size + 1 := by
  have := List.countP_le_length (p := fun key => !seen.contains key) (l := table.keys)
  rw [Table.keys, List.length_map] at this
  exact Nat.lt_succ_of_le this

/-- Following a chain reaches an end when there are more steps left than keys not seen. -/
theorem followChain_ends (resolving : Resolving stands table) (steps : Nat) (seen : List String)
    (label : String) (enough : (table.keys.countP fun key => !seen.contains key) < steps)
    (behind : ∀ other ∈ seen, TransGen stands other label) :
    ReflTransGen stands label (followChain table steps seen label) ∧
      IsEnd stands (followChain table steps seen label) := by
  induction steps generalizing seen label with
  | zero => omega
  | succ steps ih =>
      rw [followChain]
      split
      · next ended =>
        refine ⟨.refl, Or.inl fun next step => ?_⟩
        have := resolving.total step
        rw [ended] at this
        cases this
      · next next found =>
        by_cases met : label ∈ seen
        · rw [if_pos (List.contains_iff_mem.2 met)]
          exact ⟨.refl, Or.inr (behind label met)⟩
        · rw [if_neg (List.contains_iff_mem.not.2 met)]
          have chain := resolving.sound found
          have fewer := countP_unseen_lt (Table.mem_keys_of_get? found) met
          obtain ⟨path, ends⟩ := ih (label :: seen) next (by omega) fun other mem => by
            rcases List.mem_cons.1 mem with rfl | mem
            · exact chain
            · exact (behind other mem).trans chain
          exact ⟨chain.to_reflTransGen.trans path, ends⟩

theorem resolveChain_ends (resolving : Resolving stands table) (source : String) :
    Resolving stands (resolveChain table source) ∧
      Settled stands (resolveChain table source) source ∧
      ∀ label, Settled stands table label → Settled stands (resolveChain table source) label := by
  rw [resolveChain]
  split
  · next absent =>
    refine ⟨resolving, fun b found => ?_, fun _ h => h⟩
    rw [absent] at found
    cases found
  · next target found =>
    have chain := resolving.sound found
    obtain ⟨path, ends⟩ := followChain_ends resolving (table.size + 1) [source] target
      (countP_unseen_le_size table [source]) fun other mem => by
        rw [List.mem_singleton.1 mem]
        exact chain
    generalize followChain table (table.size + 1) [source] target = result at path ends
    refine ⟨⟨fun {a b} h => ?_, fun {a b} step => ?_⟩, fun b h => ?_, fun label settled b h => ?_⟩
    · rw [Table.get?_insert_eq] at h
      split at h
      · next same =>
        cases h
        subst same
        exact chain.trans_left path
      · exact resolving.sound h
    · rw [Table.get?_insert_eq]
      split
      · rfl
      · exact resolving.total step
    · rw [Table.get?_insert_eq, if_pos rfl] at h
      cases h
      exact ends
    · rw [Table.get?_insert_eq] at h
      split at h
      · cases h
        exact ends
      · exact settled b h

theorem resolveChains_settles (resolving : Resolving stands table) (sources : List String) :
    Resolving stands (resolveChains sources table) ∧
      (∀ source ∈ sources, Settled stands (resolveChains sources table) source) ∧
      ∀ label, Settled stands table label → Settled stands (resolveChains sources table) label := by
  unfold resolveChains
  induction sources generalizing table with
  | nil => exact ⟨resolving, by simp, fun _ h => h⟩
  | cons source rest ih =>
      obtain ⟨stepResolving, stepSettled, stepKept⟩ := resolveChain_ends resolving source
      obtain ⟨all, settled, kept⟩ := ih stepResolving
      refine ⟨all, fun other mem => ?_, fun label h => kept label (stepKept label h)⟩
      rcases List.mem_cons.1 mem with rfl | mem
      · exact kept _ stepSettled
      · exact settled other mem

/-- Resolving the chains of all replaced labels that are not settled takes every label to an end of
its chain. -/
theorem resolveChains_ends (resolving : Resolving stands table) {sources : List String}
    (all : ∀ {key value}, table.get? key = some value → key ∈ sources ∨ Settled stands table key)
    (label : String) :
    ReflTransGen stands label (((resolveChains sources table).get? label).getD label) ∧
      IsEnd stands (((resolveChains sources table).get? label).getD label) := by
  obtain ⟨resolved, settled, kept⟩ := resolveChains_settles resolving sources
  cases found : (resolveChains sources table).get? label with
  | none =>
      refine ⟨.refl, Or.inl fun next step => ?_⟩
      have := resolved.total step
      rw [Option.getD_none, found] at this
      cases this
  | some target =>
      have chain := resolved.sound found
      obtain ⟨next, step, -⟩ := TransGen.head'_iff.1 chain
      obtain ⟨value, hvalue⟩ := Option.isSome_iff_exists.1 (resolving.total step)
      refine ⟨chain.to_reflTransGen, ?_⟩
      rcases all hvalue with mem | before
      · exact settled label mem target found
      · exact kept label before target found

section Cycle

variable {last next : String}

/-- Following a chain that leads to a label that was seen ends there, if it comes to that label
before any other a second time. -/
theorem followChain_back (steps : Nat) (seen : List String) (label : String) (met : last ∈ seen)
    (again : Leads table last next)
    (path : ReflTransGen (fun a b => a ≠ last ∧ Leads table a b) label last)
    (enough : (table.keys.countP fun key => !seen.contains key) < steps)
    (behind : ∀ other ∈ seen, other ≠ last →
      TransGen (fun a b => a ≠ last ∧ Leads table a b) other label) :
    followChain table steps seen label = last := by
  induction steps generalizing seen label with
  | zero => omega
  | succ steps ih =>
      have unique : Relator.RightUnique fun a b => a ≠ last ∧ Leads table a b :=
        fun _ _ _ hb hc => leads_rightUnique table hb.2 hc.2
      rcases path.cases_head with same | ⟨after, step, rest⟩
      · subst same
        rw [followChain, again]
        exact if_pos (List.contains_iff_mem.2 met)
      · -- A label on the way was not seen, or the way would never come to the last one.
        have fresh : label ∉ seen := fun mem => by
          have back := chain_back unique (behind label mem step.1) path
          rcases back.cases_head with same | ⟨_, stuck, -⟩
          · exact step.1 same.symm
          · exact stuck.1 rfl
        rw [followChain, step.2]
        simp only [List.contains_iff_mem, fresh, if_false]
        have fewer := countP_unseen_lt (Table.mem_keys_of_get? step.2) fresh
        refine ih (label :: seen) after (List.mem_cons_of_mem _ met) rest (by omega) ?_
        intro other mem apart
        rcases List.mem_cons.1 mem with rfl | mem
        · exact .single step
        · exact (behind other mem apart).tail step

/-- A chain to a label up to the first time it comes there. -/
theorem chain_until {a : String} (path : ReflTransGen stands a last) :
    ReflTransGen (fun b c => b ≠ last ∧ stands b c) a last := by
  induction path using ReflTransGen.head_induction_on with
  | refl => exact .refl
  | @head a b step _ ih =>
      by_cases same : a = last
      · rw [same]
      · exact .head ⟨same, step⟩ ih

/-- A label that stands in for itself is the end of all chains that lead to it. -/
theorem resolveChains_insert_self {rest : List String}
    (all : ∀ key ∈ table.keys, key ∈ last :: rest) {label : String}
    (path : ReflTransGen (Leads table) label last) :
    ((resolveChains rest (table.insert last last)).get? label).getD label = last := by
  have self : Leads (table.insert last last) last last := by
    rw [Leads, Table.get?_insert_eq, if_pos rfl]
  have unique := leads_rightUnique (table.insert last last)
  have leads : ReflTransGen (Leads (table.insert last last)) label last :=
    (chain_until path).lift id fun a b h =>
      show (table.insert last last).get? a = some b by
        rw [Table.get?_insert_eq, if_neg h.1]
        exact h.2
  have selfEnd : IsEnd (Leads (table.insert last last)) last := Or.inr (.single self)
  have left {key value : String} (found : (table.insert last last).get? key = some value) :
      key ∈ rest ∨ Settled (Leads (table.insert last last)) (table.insert last last) key := by
    by_cases same : key = last
    · refine Or.inr fun b h => ?_
      subst same
      rwa [unique h self]
    · rw [Table.get?_insert_eq, if_neg same] at found
      exact Or.inl ((List.mem_cons.1 (all key (Table.mem_keys_of_get? found))).resolve_left same)
  obtain ⟨path', ends⟩ := resolveChains_ends (resolving_leads _) left label
  exact eq_of_replaces_self unique self (ends_connected unique leads selfEnd path' ends).1

variable (step : Leads table last next) (back : ReflTransGen (Leads table) next last)

include step back

/-- Resolving a label of a cycle before the others makes the label stand in for itself. -/
theorem resolveChain_of_cycle : resolveChain table last = table.insert last last := by
  have found : followChain table (table.size + 1) [last] next = last :=
    followChain_back (table.size + 1) [last] next List.mem_cons_self step (chain_until back)
      (countP_unseen_le_size table [last])
      fun other mem apart => absurd (List.mem_singleton.1 mem) apart
  rw [resolveChain, step]
  exact congrArg (table.insert last) found

/-- The label of a cycle that is resolved before the others stands in for all labels that lead
to it. -/
theorem resolveChains_of_cycle {rest : List String} (all : ∀ key ∈ table.keys, key ∈ last :: rest)
    {label : String} (path : ReflTransGen (Leads table) label last) :
    ((resolveChains (last :: rest) table).get? label).getD label = last := by
  have first : resolveChains (last :: rest) table =
      resolveChains rest (table.insert last last) := by
    rw [resolveChains, List.foldl_cons, resolveChain_of_cycle step back, resolveChains]
  rw [first]
  exact resolveChains_insert_self all path

end Cycle

section Rank

variable {rank : String → Nat} (further : ∀ a b, stands a b → rank a < rank b)

include further

theorem rank_lt_of_transGen {a b : String} (h : TransGen stands a b) : rank a < rank b := by
  induction h with
  | single step => exact further _ _ step
  | tail _ step ih => exact Nat.lt_trans ih (further _ _ step)

/-- Where replacements lead further on, all chains end at labels without a replacement. -/
theorem resolveChains_spec (resolving : Resolving stands table) {sources : List String}
    (all : ∀ key ∈ table.keys, key ∈ sources) (label : String) :
    ReflTransGen stands label (((resolveChains sources table).get? label).getD label) ∧
      ∀ c, ¬ stands (((resolveChains sources table).get? label).getD label) c := by
  obtain ⟨path, ends⟩ := resolveChains_ends resolving
    (fun found => Or.inl (all _ (Table.mem_keys_of_get? found))) label
  refine ⟨path, ends.resolve_right fun cycle => ?_⟩
  exact absurd (rank_lt_of_transGen further cycle) (Nat.lt_irrefl _)

end Rank

end

end CallSearch.Code
