/-
# CallSearch.Table — finite maps in key order

A `Table` is the list of its entries in increasing key order, one entry a key.
Because the order is part of the type, two tables with the same entries are the
same table, and whatever is written by walking a table depends on its contents
alone.

* `get?_insert`: an entry written last is the one read back, and writing one key
  leaves every other key as it was;
* `get?_erase`: an erased key is absent.
-/

namespace CallSearch

set_option autoImplicit false

universe u v

section Entries

variable {κ : Type u} {ν : Type v} [Ord κ]

/-- Write one entry into a list kept in key order, replacing the entry of that key. -/
def insertEntry (key : κ) (value : ν) : List (κ × ν) → List (κ × ν)
  | [] => [(key, value)]
  | entry :: rest =>
      match compare key entry.1 with
      | .lt => (key, value) :: entry :: rest
      | .eq => (key, value) :: rest
      | .gt => entry :: insertEntry key value rest

/-- The value of the first entry of a key. -/
def findEntry (key : κ) : List (κ × ν) → Option ν
  | [] => none
  | entry :: rest => if compare key entry.1 = .eq then some entry.2 else findEntry key rest

theorem mem_insertEntry {key : κ} {value : ν} {entries : List (κ × ν)} {entry : κ × ν}
    (h : entry ∈ insertEntry key value entries) : entry = (key, value) ∨ entry ∈ entries := by
  induction entries with
  | nil => exact .inl (List.mem_singleton.1 h)
  | cons first rest ih =>
    rw [insertEntry] at h
    split at h
    · rcases List.mem_cons.1 h with h | h
      · exact .inl h
      · exact .inr h
    · rcases List.mem_cons.1 h with h | h
      · exact .inl h
      · exact .inr (List.mem_cons_of_mem _ h)
    · rcases List.mem_cons.1 h with rfl | h
      · exact .inr List.mem_cons_self
      · exact (ih h).imp id (List.mem_cons_of_mem _)

theorem insertEntry_pairwise [Std.TransOrd κ] (key : κ) (value : ν) {entries : List (κ × ν)}
    (ordered : entries.Pairwise fun a b => compare a.1 b.1 = .lt) :
    (insertEntry key value entries).Pairwise fun a b => compare a.1 b.1 = .lt := by
  induction entries with
  | nil => exact List.pairwise_singleton _ _
  | cons first rest ih =>
    obtain ⟨above, tail⟩ := List.pairwise_cons.1 ordered
    rw [insertEntry]
    split
    · next below =>
      refine List.pairwise_cons.2 ⟨fun entry h => ?_, ordered⟩
      rcases List.mem_cons.1 h with rfl | h
      · exact below
      · exact Std.TransCmp.lt_trans below (above entry h)
    · next same =>
      refine List.pairwise_cons.2 ⟨fun entry h => ?_, tail⟩
      exact (Std.TransCmp.congr_left same).trans (above entry h)
    · next beyond =>
      refine List.pairwise_cons.2 ⟨fun entry h => ?_, ih tail⟩
      rcases mem_insertEntry h with rfl | h
      · exact Std.OrientedCmp.lt_of_gt beyond
      · exact above entry h

theorem findEntry_insertEntry [Std.TransOrd κ] (key other : κ) (value : ν)
    {entries : List (κ × ν)} (ordered : entries.Pairwise fun a b => compare a.1 b.1 = .lt) :
    findEntry other (insertEntry key value entries) =
      if compare other key = .eq then some value else findEntry other entries := by
  induction entries with
  | nil => rfl
  | cons first rest ih =>
    obtain ⟨above, tail⟩ := List.pairwise_cons.1 ordered
    rw [insertEntry]
    split
    · rfl
    · next same =>
      simp only [findEntry]
      by_cases h : compare other key = .eq
      · rw [if_pos h, if_pos h]
      · rw [if_neg h, if_neg h, if_neg]
        exact fun h' => h (Std.TransCmp.eq_trans h' (Std.OrientedCmp.eq_symm same))
    · next beyond =>
      simp only [findEntry]
      by_cases h : compare other first.1 = .eq
      · rw [if_pos h, if_pos h, if_neg]
        intro h'
        have := Std.TransCmp.eq_trans (Std.OrientedCmp.eq_symm h') h
        rw [beyond] at this
        cases this
      · rw [if_neg h, if_neg h, ih tail]

end Entries

/-- A finite map whose entries are held in increasing key order. -/
structure Table (κ : Type u) (ν : Type v) [Ord κ] where
  entries : List (κ × ν)
  increasing : entries.Pairwise fun a b => compare a.1 b.1 = .lt

namespace Table

variable {κ : Type u} {ν : Type v} [Ord κ]

instance : EmptyCollection (Table κ ν) := ⟨⟨[], List.Pairwise.nil⟩⟩

instance : Inhabited (Table κ ν) := ⟨∅⟩

@[ext]
theorem ext {s t : Table κ ν} (h : s.entries = t.entries) : s = t := by
  cases s
  cases t
  cases h
  rfl

/-- The value of a key. -/
def get? (table : Table κ ν) (key : κ) : Option ν := findEntry key table.entries

/-- Whether a key has a value. -/
def contains (table : Table κ ν) (key : κ) : Bool := (table.get? key).isSome

/-- The keys in increasing order. -/
def keys (table : Table κ ν) : List κ := table.entries.map (·.1)

/-- The values, in the order of their keys. -/
def values (table : Table κ ν) : List ν := table.entries.map (·.2)

/-- The number of keys. -/
def size (table : Table κ ν) : Nat := table.entries.length

/-- The entries whose key and value pass a test. -/
def filter (keep : κ → ν → Bool) (table : Table κ ν) : Table κ ν :=
  ⟨table.entries.filter fun entry => keep entry.1 entry.2, table.increasing.filter _⟩

/-- Forget a key. -/
def erase (table : Table κ ν) (key : κ) : Table κ ν :=
  table.filter fun other _ => compare key other != .eq

section

variable [Std.TransOrd κ]

/-- Write one entry, replacing the value the key had. -/
def insert (table : Table κ ν) (key : κ) (value : ν) : Table κ ν :=
  ⟨insertEntry key value table.entries, insertEntry_pairwise key value table.increasing⟩

/-- Write entries one after another, so that the last entry of a key counts. -/
def insertAll (table : Table κ ν) (entries : List (κ × ν)) : Table κ ν :=
  entries.foldl (fun table entry => table.insert entry.1 entry.2) table

/-- The table of a list of entries; of several entries with one key the last counts. -/
def ofList (entries : List (κ × ν)) : Table κ ν := insertAll ∅ entries

theorem get?_insert (table : Table κ ν) (key other : κ) (value : ν) :
    (table.insert key value).get? other =
      if compare other key = .eq then some value else table.get? other :=
  findEntry_insertEntry key other value table.increasing

end

@[simp]
theorem get?_empty (key : κ) : (∅ : Table κ ν).get? key = none := rfl

theorem findEntry_filter_ne [Std.TransOrd κ] (key : κ) (entries : List (κ × ν)) :
    findEntry key (entries.filter fun entry => compare key entry.1 != .eq) = none := by
  induction entries with
  | nil => rfl
  | cons entry rest ih =>
    by_cases h : compare key entry.1 = .eq
    · simp only [List.filter_cons, h, bne_self_eq_false, Bool.false_eq_true, if_false, ih]
    · simp only [List.filter_cons, bne_iff_ne.2 h, if_true, findEntry, h, if_false, ih]

/-- An erased key is absent. -/
theorem get?_erase [Std.TransOrd κ] (table : Table κ ν) (key : κ) :
    (table.erase key).get? key = none :=
  findEntry_filter_ne key table.entries

end Table

end CallSearch
