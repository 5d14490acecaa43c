/-
# CallSearch.Program.Document — how programs are written

The document forms of signatures, calls and classes.  A class document is what a
class file of the input holds; signatures and invocations also occur in indexes
and line tables, so they are written as well as read.
-/
import CallSearch.Json.Decode
import CallSearch.Json.Reader
import CallSearch.Program

namespace CallSearch

set_option autoImplicit false

open Json

namespace Signature

def record : Record := ⟨["class", "ret", "name", "params"], 3⟩

def ofJson? (value : Json) : Option Signature := do
  let fields ← value.fields? record
  let owner ← fields.required "class" str?
  let result ← fields.required "ret" str?
  let name ← fields.required "name" str?
  let params ← fields.withDefault "params" [] (list? str?)
  return ⟨owner, result, name, params⟩

def toJson (signature : Signature) : Json :=
  .obj [("class", .str signature.owner), ("ret", .str signature.result),
    ("name", .str signature.name), ("params", .ofList .str signature.params)]

end Signature

namespace CallKind

def word : CallKind → String
  | .static => "static"
  | .virtual => "virtual"

def ofWord? : String → Option CallKind
  | "static" => some .static
  | "virtual" => some .virtual
  | _ => none

def ofJson? (value : Json) : Option CallKind := value.word?.bind ofWord?

/-- The kind of a call site; there the word may also stand with an empty object. -/
def ofSiteJson? : Json → Option CallKind
  | .obj [(word, .obj [])] => ofWord? word
  | value => ofJson? value

def toJson (kind : CallKind) : Json := .str kind.word

end CallKind

namespace Locator

def record : Record := ⟨["method", "ordinal", "line"], 2⟩

def ofJson? (value : Json) : Option Locator := do
  let fields ← value.fields? record
  let method ← fields.required "method" Signature.ofJson?
  let ordinal ← fields.required "ordinal" nat?
  let line ← fields.optional "line" nat32?
  return ⟨method, ordinal, line⟩

def toJson (locator : Locator) : Json :=
  .obj [("method", locator.method.toJson), ("ordinal", .nat locator.ordinal),
    ("line", .ofOption .nat locator.line)]

end Locator

namespace Invocation

def record : Record := ⟨["kind", "callee", "literals", "locator"], 2⟩

def ofJson? (value : Json) : Option Invocation := do
  let fields ← value.fields? record
  let kind ← fields.required "kind" CallKind.ofJson?
  let callee ← fields.required "callee" Signature.ofJson?
  let literals ← fields.withDefault "literals" [] (list? str?)
  let locator ← fields.optional "locator" Locator.ofJson?
  return ⟨kind, callee, literals, locator⟩

def toJson (call : Invocation) : Json :=
  .obj [("kind", call.kind.toJson), ("callee", call.callee.toJson),
    ("literals", .ofList .str call.literals), ("locator", .ofOption Locator.toJson call.locator)]

end Invocation

namespace CallSite

def record : Record := ⟨["kind", "receiver", "name", "args", "result", "line"], 3⟩

def ofJson? (value : Json) : Option CallSite := do
  let fields ← value.fields? record
  let kind ← fields.required "kind" CallKind.ofSiteJson?
  let receiver ← fields.required "receiver" str?
  let name ← fields.required "name" str?
  let args ← fields.withDefault "args" [] (list? str?)
  let result ← fields.optional "result" str?
  let line ← fields.optional "line" nat32?
  return ⟨kind, receiver, name, args, result, line⟩

end CallSite

namespace Instruction

/-- The instruction word of a document and the rest of the document.  The word is the field
`op` of an object, or the first item of an array. -/
def split? : Json → Option (String × Json)
  | .obj fields =>
      match fields.filter (·.1 == "op") with
      | [(_, .str word)] => some (word, .obj (fields.filter (·.1 != "op")))
      | _ => none
  | .arr (.str word :: rest) => some (word, .arr rest)
  | _ => none

/-- The instruction a document writes.  It is read as a whole before its word is known, so no
part of it may be unreadable. -/
def ofJson? (value : Json) : Option (Instruction CallSite) := do
  let (word, rest) ← split? value
  if !value.isReadable then none
  else match word with
  | "invoke" =>
      let fields ← rest.fields? ⟨["call"], 1⟩
      return .invoke (← fields.required "call" CallSite.ofJson?)
  | "return" =>
      let fields ← rest.fields? ⟨["line"], 0⟩
      return .control (.ret (← fields.optional "line" nat32?))
  | "throw" =>
      let fields ← rest.fields? ⟨["line"], 0⟩
      return .control (.throw (← fields.optional "line" nat32?))
  | "cond_branch" =>
      let fields ← rest.fields? ⟨["target", "line"], 1⟩
      let target ← fields.required "target" str?
      return .control (.condBranch target (← fields.optional "line" nat32?))
  | "branch" =>
      let fields ← rest.fields? ⟨["target", "line"], 1⟩
      let target ← fields.required "target" str?
      return .control (.branch target (← fields.optional "line" nat32?))
  | "multi_branch" =>
      let fields ← rest.fields? ⟨["targets", "line"], 1⟩
      let targets ← fields.required "targets" (list? str?)
      return .control (.multiBranch targets (← fields.optional "line" nat32?))
  | "label" =>
      let fields ← rest.fields? ⟨["name"], 1⟩
      return .control (.label (← fields.required "name" str?))
  | _ => none

end Instruction

/-- A map from names to types; of several entries with one name the last counts. -/
def typesOfJson? (value : Json) : Option (Table String String) := do
  return .ofList (← value.entries? str?)

namespace Method

def record : Record := ⟨["sig", "locals", "code"], 1⟩

def ofJson? (value : Json) : Option Method := do
  let fields ← value.fields? record
  let signature ← fields.required "sig" Signature.ofJson?
  let locals ← fields.withDefault "locals" ∅ typesOfJson?
  let code ← fields.optional "code" (list? Instruction.ofJson?)
  return ⟨signature, locals, code⟩

end Method

namespace Class

def record : Record := ⟨["name", "super_name", "interfaces", "fields", "methods"], 1⟩

def ofJson? (value : Json) : Option Class := do
  let fields ← value.fields? record
  let name ← fields.required "name" str?
  let superName ← fields.optional "super_name" str?
  let interfaces ← fields.withDefault "interfaces" [] (list? str?)
  let types ← fields.withDefault "fields" ∅ typesOfJson?
  let methods ← fields.withDefault "methods" [] (list? Method.ofJson?)
  return ⟨name, superName, interfaces, types, methods⟩

/-- The class a class document writes. -/
def parse? (text : String) : Option Class := (Json.parse? text).bind ofJson?

end Class

end CallSearch
