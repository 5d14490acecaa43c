/-
# CallSearch.Index.Document — how an index is stored

An index is stored as one document: the entry points, the forest, and the summaries
in the order of their keys.  `Index.toJson` and `Index.ofJson?` are inverse to each
other; of several summaries with one key the last counts.
-/
import CallSearch.Index
import CallSearch.Json.Reader
import CallSearch.Json.Writer
import CallSearch.Program.Document
import CallSearch.Tree.Document

namespace CallSearch

set_option autoImplicit false

open Json

namespace NodeKey

def record : Record := ⟨["callee", "context"], 2⟩

def toJson (key : NodeKey) : Json :=
  .obj [("callee", key.callee.toJson), ("context", .ofOption Signature.toJson key.context)]

def ofJson? (value : Json) : Option NodeKey := do
  let fields ← value.fields? record
  let callee ← fields.required "callee" Signature.ofJson?
  let context ← fields.optional "context" Signature.ofJson?
  return ⟨callee, context⟩

end NodeKey

namespace CallNode

def record : Record := ⟨["invocation", "context", "body"], 3⟩

def toJson (node : CallNode) : Json :=
  .obj [("invocation", node.call.toJson), ("context", .ofOption Signature.toJson node.context),
    ("body", .nat node.body)]

def ofJson? (value : Json) : Option CallNode := do
  let fields ← value.fields? record
  let call ← fields.required "invocation" Invocation.ofJson?
  let context ← fields.optional "context" Signature.ofJson?
  let body ← fields.required "body" nat?
  return ⟨call, context, body⟩

end CallNode

namespace CallItem

def toJson : CallItem → Json
  | .invoked site => .obj [("invoked", site.toJson)]
  | .call node => .obj [("call", node.toJson)]

def ofJson? (value : Json) : Option CallItem := do
  let (tag, contents) ← value.choice?
  match tag with
  | "invoked" => return .invoked (← Invocation.ofJson? contents)
  | "call" => return .call (← CallNode.ofJson? contents)
  | _ => none

end CallItem

namespace Forest

def record : Record := ⟨["roots", "bodies"], 2⟩

def toJson (forest : Forest) : Json :=
  .obj [("roots", .ofList CallNode.toJson forest.roots),
    ("bodies", .ofList (·.toJson CallItem.toJson) forest.bodies)]

def ofJson? (value : Json) : Option Forest := do
  let fields ← value.fields? record
  let roots ← fields.required "roots" (list? CallNode.ofJson?)
  let bodies ← fields.required "bodies" (list? (Tree.ofJson? CallItem.ofJson?))
  return ⟨roots, bodies⟩

end Forest

namespace Summary

def record : Record := ⟨["callees", "literals"], 2⟩

def toJson (summary : Summary) : Json :=
  .obj [("callees", .ofList Signature.toJson summary.callees.toList),
    ("literals", .ofList .str summary.literals.toList)]

def ofJson? (value : Json) : Option Summary := do
  let fields ← value.fields? record
  let callees ← fields.required "callees" (list? Signature.ofJson?)
  let literals ← fields.required "literals" (list? str?)
  return ⟨.ofList callees, .ofList literals⟩

end Summary

namespace SummaryTable

def entryRecord : Record := ⟨["key", "summary"], 2⟩

def entryToJson (entry : NodeKey × Summary) : Json :=
  .obj [("key", entry.1.toJson), ("summary", entry.2.toJson)]

def entryOfJson? (value : Json) : Option (NodeKey × Summary) := do
  let fields ← value.fields? entryRecord
  let key ← fields.required "key" NodeKey.ofJson?
  let summary ← fields.required "summary" Summary.ofJson?
  return (key, summary)

def toJson (summaries : SummaryTable) : Json := .ofList entryToJson summaries.entries

def ofJson? (value : Json) : Option SummaryTable := do
  return .ofList (← value.list? entryOfJson?)

end SummaryTable

namespace Index

def record : Record := ⟨["entry_points", "forest", "summaries"], 3⟩

def toJson (index : Index) : Json :=
  .obj [("entry_points", .ofList Signature.toJson index.entryPoints),
    ("forest", index.forest.toJson), ("summaries", SummaryTable.toJson index.summaries)]

def ofJson? (value : Json) : Option Index := do
  let fields ← value.fields? record
  let entryPoints ← fields.required "entry_points" (list? Signature.ofJson?)
  let forest ← fields.required "forest" Forest.ofJson?
  let summaries ← fields.required "summaries" SummaryTable.ofJson?
  return ⟨entryPoints, forest, summaries⟩

/-- The text an index is stored as. -/
def toText (index : Index) : String := index.toJson.compact

/-- The index a text stores, not yet validated. -/
def parse? (text : String) : Option Index := (Json.parse? text).bind ofJson?

end Index

end CallSearch
