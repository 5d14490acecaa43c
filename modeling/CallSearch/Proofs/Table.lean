/-
# CallSearch.Proofs.Table — tables as finite maps

Facts about tables whose keys have a lawful order, so that keys compare equal only
when they are equal: what is read after one write and after a list of writes, and
which keys are listed.
-/
import CallSearch.Proofs.Sorted
import CallSearch.Table
import Mathlib.Data.List.Nodup

namespace CallSearch

set_option autoImplicit false

namespace Table

variable {κ ν : Type} [Ord κ]

theorem findEntry_eq_some {key : κ} {value : ν} [Std.LawfulEqOrd κ] {entries : List (κ × ν)}
    (h : findEntry key entries = some value) : (key, value) ∈ entries := by
  induction entries with
  | nil => cases h
  | cons entry rest ih =>
      rw [findEntry] at h
      split at h
      · next same =>
        cases h
        rw [Std.LawfulEqOrd.eq_of_compare same]
        exact List.mem_cons_self
      · exact List.mem_cons_of_mem _ (ih h)

theorem findEntry_of_mem [Std.TransOrd κ] [Std.LawfulEqOrd κ] {key : κ} {value : ν}
    {entries : List (κ × ν)} (ordered : entries.Pairwise fun a b => compare a.1 b.1 = .lt)
    (h : (key, value) ∈ entries) : findEntry key entries = some value := by
  induction entries with
  | nil => exact absurd h List.not_mem_nil
  | cons entry rest ih =>
      obtain ⟨above, tail⟩ := List.pairwise_cons.1 ordered
      rw [findEntry]
      rcases List.mem_cons.1 h with rfl | h
      · rw [if_pos Std.ReflCmp.compare_self]
      · have below := above _ h
        rw [if_neg, ih tail h]
        intro same
        have equal : compare entry.1 key = .eq := Std.OrientedCmp.eq_symm same
        rw [equal] at below
        cases below

theorem length_insertEntry {key : κ} {entries : List (κ × ν)}
    (fresh : findEntry key entries = none) (value : ν) :
    (insertEntry key value entries).length = entries.length + 1 := by
  induction entries with
  | nil => rfl
  | cons entry rest ih =>
      rw [findEntry] at fresh
      split at fresh
      · cases fresh
      · next apart =>
        rw [insertEntry]
        split
        · rfl
        · next same => exact absurd same apart
        · rw [List.length_cons, List.length_cons, ih fresh]

theorem mem_keys_of_get? [Std.LawfulEqOrd κ] {table : Table κ ν} {key : κ} {value : ν}
    (h : table.get? key = some value) : key ∈ table.keys :=
  List.mem_map_of_mem (f := Prod.fst) (findEntry_eq_some h)

theorem get?_eq_some_iff [Std.TransOrd κ] [Std.LawfulEqOrd κ] {table : Table κ ν} {key : κ}
    {value : ν} : table.get? key = some value ↔ (key, value) ∈ table.entries :=
  ⟨findEntry_eq_some, findEntry_of_mem table.increasing⟩

theorem contains_iff {table : Table κ ν} {key : κ} :
    table.contains key = true ↔ ∃ value, table.get? key = some value :=
  Option.isSome_iff_exists

theorem mem_keys_iff [Std.TransOrd κ] [Std.LawfulEqOrd κ] {table : Table κ ν} {key : κ} :
    key ∈ table.keys ↔ table.contains key = true := by
  rw [contains_iff]
  constructor
  · intro mem
    obtain ⟨⟨_, value⟩, listed, rfl⟩ := List.mem_map.1 mem
    exact ⟨value, get?_eq_some_iff.2 listed⟩
  · rintro ⟨value, found⟩
    exact mem_keys_of_get? found

theorem nodup_keys [Std.TransOrd κ] [Std.LawfulEqOrd κ] (table : Table κ ν) :
    table.keys.Nodup := by
  rw [keys, List.Nodup, List.pairwise_map]
  refine table.increasing.imp fun {a b} less same => ?_
  have equal : compare a.1 b.1 = .eq := same ▸ Std.ReflCmp.compare_self
  rw [equal] at less
  cases less

theorem size_insert [Std.TransOrd κ] {table : Table κ ν} {key : κ}
    (fresh : table.get? key = none) (value : ν) :
    (table.insert key value).size = table.size + 1 :=
  length_insertEntry fresh value

section

variable [Std.TransOrd κ] [Std.LawfulEqOrd κ] [DecidableEq κ]

theorem get?_insert_eq (table : Table κ ν) (key other : κ) (value : ν) :
    (table.insert key value).get? other = if other = key then some value else table.get? other := by
  rw [get?_insert]
  simp only [Std.LawfulEqCmp.compare_eq_iff_eq]

theorem get?_insertAll_of_notMem {entries : List (κ × ν)} {key : κ}
    (absent : key ∉ entries.map Prod.fst) (table : Table κ ν) :
    (table.insertAll entries).get? key = table.get? key := by
  induction entries generalizing table with
  | nil => rfl
  | cons entry rest ih =>
      rw [List.map_cons, List.mem_cons, not_or] at absent
      have step : table.insertAll (entry :: rest) = (table.insert entry.1 entry.2).insertAll rest :=
        rfl
      rw [step, ih absent.2, get?_insert_eq, if_neg absent.1]

theorem mem_of_get?_insertAll {entries : List (κ × ν)} {table : Table κ ν} {key : κ} {value : ν}
    (h : (table.insertAll entries).get? key = some value) :
    (key, value) ∈ entries ∨ table.get? key = some value := by
  induction entries generalizing table with
  | nil => exact Or.inr h
  | cons entry rest ih =>
      have step : table.insertAll (entry :: rest) = (table.insert entry.1 entry.2).insertAll rest :=
        rfl
      rw [step] at h
      rcases ih h with later | before
      · exact Or.inl (List.mem_cons_of_mem _ later)
      · rw [get?_insert_eq] at before
        split at before
        · next same =>
          cases before
          rw [same]
          exact Or.inl List.mem_cons_self
        · exact Or.inr before

theorem mem_of_get?_ofList {entries : List (κ × ν)} {key : κ} {value : ν}
    (h : (ofList entries).get? key = some value) : (key, value) ∈ entries :=
  (mem_of_get?_insertAll h).resolve_right fun none => by cases none

/-- The last entry of a key counts. -/
theorem get?_ofList_of_last {before after : List (κ × ν)} {key : κ} {value : ν}
    (last : key ∉ after.map Prod.fst) :
    (ofList (before ++ (key, value) :: after)).get? key = some value := by
  have split : ofList (before ++ (key, value) :: after) =
      ((ofList before).insert key value).insertAll after := by
    rw [ofList, ofList, insertAll, List.foldl_append]
    rfl
  rw [split, get?_insertAll_of_notMem last, get?_insert_eq, if_pos rfl]

/-- A table made of entries with different keys has exactly these entries. -/
theorem get?_ofList {entries : List (κ × ν)} (distinct : (entries.map Prod.fst).Nodup) {key : κ}
    {value : ν} : (ofList entries).get? key = some value ↔ (key, value) ∈ entries := by
  refine ⟨mem_of_get?_ofList, fun mem => ?_⟩
  obtain ⟨before, after, rfl⟩ := List.append_of_mem mem
  rw [List.map_append, List.map_cons, List.nodup_append] at distinct
  exact get?_ofList_of_last (List.nodup_cons.1 distinct.2.1).1

/-- A table is made of its entries. -/
theorem ofList_entries (table : Table κ ν) : ofList table.entries = table := by
  refine Table.ext (eq_of_increasing_by Prod.fst (ofList table.entries).increasing
    table.increasing ?_)
  rintro ⟨key, value⟩
  rw [← get?_eq_some_iff]
  exact get?_ofList table.nodup_keys

end

/-- Sorted by their keys, the entries of a table come in the order it has them in, whatever their
order was. -/
theorem mergeSort_entries [Std.TransOrd κ] [Std.LawfulEqOrd κ] {table : Table κ ν}
    {listed : List (κ × ν)} (perm : listed.Perm table.entries) :
    (listed.mergeSort fun a b => (compare a.1 b.1).isLE) = table.entries := by
  have sorted := (List.mergeSort_perm listed fun a b => (compare a.1 b.1).isLE).trans perm
  have distinct : (listed.map Prod.fst).Nodup := (perm.map Prod.fst).nodup_iff.2 table.nodup_keys
  exact eq_of_increasing_by Prod.fst (mergeSort_increasing_by Prod.fst distinct) table.increasing
    fun entry => sorted.mem_iff

end Table

end CallSearch
