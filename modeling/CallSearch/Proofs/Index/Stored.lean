/-
# CallSearch.Proofs.Index.Stored — an index survives storage

Summaries may come in any order: they are sorted by their keys before they are
written, so the document is that of the index (`documentOf_eq_toJson`).  What is read
from the file is the index that was written, if it is one that is accepted when it is
loaded: `loadIndex_toText`.
-/
import CallSearch.Proofs.Index.Document
import CallSearch.Proofs.Index.Validate
import CallSearch.Run

namespace CallSearch.Index

set_option autoImplicit false

/-- The document of an index, the summaries of which come in some order and are sorted by their
keys before they are written. -/
def documentOf (index : Index) (listed : List (NodeKey × Summary)) : Json :=
  .obj [("entry_points", .ofList Signature.toJson index.entryPoints),
    ("forest", index.forest.toJson),
    ("summaries", .ofList SummaryTable.entryToJson
      (listed.mergeSort fun a b => (compare a.1 b.1).isLE))]

/-- The order the summaries come in does not show. -/
theorem documentOf_eq_toJson {index : Index} {listed : List (NodeKey × Summary)}
    (perm : listed.Perm index.summaries.entries) : index.documentOf listed = index.toJson := by
  rw [documentOf, Table.mergeSort_entries perm]
  rfl

/-- The text of an index is read as the index. -/
theorem parse?_toText {index : Index} (words : index.forest.InWords)
    (shallow : index.toJson.depth ≤ Json.maxDepth) : parse? index.toText = some index := by
  obtain ⟨decoded, plain⟩ := stores words
  rw [parse?, toText, Json.parse?_compact plain shallow]
  exact decoded

/-- Loading reads the file, decodes its text and validates what it stores. -/
theorem loadIndex_eq_ok {files : Files} {path text : String} {index : Index}
    (stored : files path = some (.file text)) (decoded : parse? text = some index)
    (valid : index.validate = .ok ()) : Command.loadIndex files path = .ok index := by
  have read : Command.readFile files path = .ok text := by
    rw [Command.readFile, stored]
  have accepted : index.validate.mapError (RunFailure.badIndex path) = .ok () := by
    rw [valid]
    rfl
  rw [Command.loadIndex, read]
  simp only [bind, Except.bind, decoded, accepted]
  rfl

/-- An index that is accepted is loaded as it was stored, with all its entry points, trees and
summaries, if its document nests no deeper than what can be read.  Its numbers are machine words, of
64 bits for bodies and places and of 32 for lines.  What is written depends on the index alone and
not on the order its summaries come in. -/
theorem loadIndex_toText {index : Index} (valid : index.validate = .ok ())
    (words : index.forest.InWords) (shallow : index.toJson.depth ≤ Json.maxDepth) :
    (∀ listed : List (NodeKey × Summary), listed.Perm index.summaries.entries →
        (index.documentOf listed).compact = index.toText) ∧
      ∀ (files : Files) (path : String), files path = some (.file index.toText) →
        Command.loadIndex files path = .ok index := by
  refine ⟨fun listed perm => ?_, fun files path stored => ?_⟩
  · rw [documentOf_eq_toJson perm, toText]
  · exact loadIndex_eq_ok stored (parse?_toText words shallow) valid

/-- Calls with a place and a line, with a place alone and without one, literals and none, bodies
that are empty or can never happen, and a node met under itself. -/
def sampleStored : Index where
  entryPoints := [sampleMethod "run"]
  forest :=
    { roots := [⟨⟨.static, sampleMethod "run", [], none⟩, none, 0⟩]
      bodies :=
        [.seq [.leaf (.invoked ⟨.virtual, ⟨"A", "int", "get", ["int", "long"]⟩, ["\"x\""],
              some ⟨sampleMethod "run", 0, some 3⟩⟩),
            .alt [.leaf (.call ⟨⟨.static, sampleMethod "run", [],
              some ⟨sampleMethod "run", 1, none⟩⟩, some (sampleMethod "run"), 1⟩), .seq []]],
          .alt []] }
  summaries := .ofList [(⟨sampleMethod "run", some (sampleMethod "run")⟩, ∅),
    (⟨sampleMethod "run", none⟩,
      ⟨⟨[⟨"A", "int", "get", ["int", "long"]⟩, sampleMethod "run"], by decide +kernel⟩,
        ⟨["\"x\""], List.pairwise_singleton _ _⟩⟩)]

/-- The sample is read back from a file, also when its summaries are written in reverse order. -/
theorem loadIndex_sampleStored :
    sampleStored.validate = .ok () ∧ sampleStored.forest.InWords ∧
      sampleStored.toJson.depth ≤ Json.maxDepth ∧
      (sampleStored.documentOf sampleStored.summaries.entries.reverse).compact =
        sampleStored.toText ∧
      Command.loadIndex (fun _ => some (.file sampleStored.toText)) "index.json" =
        .ok sampleStored := by
  have valid : sampleStored.validate = .ok () :=
    validate_eq_ok_iff.2 ⟨by decide +kernel, by decide +kernel⟩
  have words : sampleStored.forest.InWords := by decide +kernel
  have shallow : sampleStored.toJson.depth ≤ Json.maxDepth := by decide +kernel
  obtain ⟨same, loaded⟩ := loadIndex_toText valid words shallow
  exact ⟨valid, words, shallow, same _ (List.reverse_perm _), loaded _ _ rfl⟩

end CallSearch.Index
