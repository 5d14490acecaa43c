/-
# CallSearch.Proofs.Json.Decode — documents that are read back

`Stores` says of a document that it decodes to a value, and that it has a text it is
read back from.  The arrays, optional parts and records of such documents are such
documents again: a record that was written with its fields in their order gives each
field the value it was written with (`fields?_obj`).
-/
import CallSearch.Json.Decode
import CallSearch.Proofs.Json.Reader
import Mathlib.Data.List.Nodup

namespace CallSearch.Json

set_option autoImplicit false

variable {α : Type}

/-- A document holds a value: it decodes to the value, and it can be written and read. -/
structure Stores (decode : Json → Option α) (document : Json) (value : α) : Prop where
  decoded : decode document = some value
  plain : document.isPlain = true

theorem stores_str (text : String) : Stores str? (.str text) text := ⟨rfl, rfl⟩

theorem stores_nat {value : Nat} (small : value < UInt64.size) :
    Stores nat? (.nat value) value where
  decoded := if_pos small
  plain := decide_eq_true small

theorem stores_nat32 {value : Nat} (small : value < UInt32.size) :
    Stores nat32? (.nat value) value where
  decoded := if_pos small
  plain := decide_eq_true (Nat.lt_trans small (by decide))

theorem arePlain_iff {items : List Json} :
    arePlain items = true ↔ ∀ item ∈ items, item.isPlain = true := by
  induction items with
  | nil => simp [arePlain]
  | cons item rest ih => simp [arePlain, ih]

/-- The array of the documents of some values. -/
theorem stores_list {encode : α → Json} {decode : Json → Option α} {items : List α}
    (each : ∀ item ∈ items, Stores decode (encode item) item) :
    Stores (list? decode) (.ofList encode items) items where
  decoded := by
    show (items.map encode).mapM decode = some items
    induction items with
    | nil => rfl
    | cons item rest ih =>
        have later := ih fun other mem => each other (List.mem_cons_of_mem _ mem)
        rw [List.map_cons, List.mapM_cons, (each item List.mem_cons_self).decoded, later]
        rfl
  plain := by
    rw [ofList, isPlain, arePlain_iff]
    intro document mem
    obtain ⟨item, listed, rfl⟩ := List.mem_map.1 mem
    exact (each item listed).plain

/-- The document of an optional part, which is `null` only if there is none. -/
theorem stores_option {encode : α → Json} {decode : Json → Option α} {part : Option α}
    (each : ∀ value ∈ part, Stores decode (encode value) value)
    (present : ∀ value, encode value ≠ .null) :
    Stores (option? decode) (.ofOption encode part) part where
  decoded := by
    cases part with
    | none => rfl
    | some value =>
        rw [ofOption, option?, (each value rfl).decoded]
        · rfl
        · exact present value
  plain := by
    cases part with
    | none => rfl
    | some value => exact (each value rfl).plain

/-- A record written with its fields in their order. -/
theorem fields?_obj {record : Record} {written : List (String × Json)}
    (names : written.map Prod.fst = record.names) (distinct : record.names.Nodup) :
    (Json.obj written).fields? record =
      some fun name => (written.find? (·.1 == name)).map (·.2) := by
  have once : record.names.all
      (fun name => (written.filter (·.1 == name)).length ≤ 1) = true := by
    rw [List.all_eq_true]
    intro name _
    have count : (written.filter (·.1 == name)).length = record.names.count name := by
      rw [← names, List.count, List.countP_map, List.countP_eq_length_filter]
      rfl
    rw [decide_eq_true_eq, count]
    exact List.nodup_iff_count_le_one.1 distinct name
  rw [fields?, if_pos once]

end CallSearch.Json
