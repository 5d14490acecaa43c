/-
# CallSearch.Typing — the types of value tokens

The tokens of a call site are literals, local variables, fields or class names.
`Value.ofToken` finds the static type of a token, and `Method.typed` types all
calls of a method, so that each becomes an `Invocation` numbered from `0` in the
order of the code.
-/
import CallSearch.Failure
import CallSearch.Program
import CallSearch.Sorted
import CallSearch.Text.CharClass

namespace CallSearch

set_option autoImplicit false

/-- The types that are no classes. -/
def primitiveTypes : List String :=
  ["byte", "short", "int", "long", "boolean", "char", "float", "double"]

def isPrimitive (type : String) : Bool := primitiveTypes.contains type

/-- Whether the characters are some pairs of brackets. -/
def isBrackets : List Char → Bool
  | [] => true
  | '[' :: ']' :: rest => isBrackets rest
  | _ => false

/-- Whether a token has the form of a type name: word characters, dots and dollar signs, at
least one, and then pairs of brackets. -/
def isTypeName (token : String) : Bool :=
  let (name, rest) := token.toList.span fun c => Text.isWord c || c == '.' || c == '$'
  !name.isEmpty && isBrackets rest

/-- A value token with its type, and the token itself if it is a string literal. -/
structure Value where
  type : String
  literal : Option String := none

namespace Value

/-- The type of a number by its last character. -/
def numberType (token : String) : String :=
  match token.toList.getLast? with
  | some 'L' => "long"
  | some 'F' => "float"
  | some 'D' => "double"
  | _ => "int"

/-- The value of a token that is a literal by its form. -/
def ofLiteral? (token : String) : Option Value :=
  if token == "null" then some { type := "null" }
  else if "class ".isPrefixOf token then some { type := "java.lang.Class" }
  else if token == "true" || token == "false" then some { type := "boolean" }
  else
    match token.toList with
    | '\'' :: _ => some { type := "char" }
    | '"' :: _ => some { type := "java.lang.String", literal := some token }
    | c :: _ =>
        if c == '-' || c == '+' || c.isDigit then some { type := numberType token }
        else if ["#NaN", "#Infinity", "#-Infinity"].contains token then some { type := "float" }
        else none
    | [] => none

/-- The value of a token inside a method: a literal, else a local variable, else a field of
the class, else a type name. -/
def ofToken (cls : Class) (method : Method) (token : String) : Except Failure Value :=
  match ofLiteral? token with
  | some value => .ok value
  | none =>
      match (method.locals.get? token).or (cls.fields.get? token) with
      | some type => .ok { type }
      | none =>
          if isTypeName token then .ok { type := token }
          else .error (.unresolvedValue method.signature token)

end Value

/-- The typed call of a call site: receiver, arguments and result are typed in this order,
and a call whose result is dropped has result type `void`. -/
def CallSite.typed (cls : Class) (method : Method) (ordinal : Nat) (call : CallSite) :
    Except Failure Invocation := do
  let receiver ← Value.ofToken cls method call.receiver
  let args ← call.args.mapM (Value.ofToken cls method)
  let result ← call.result.mapM (Value.ofToken cls method)
  return {
    kind := call.kind
    callee :=
      { owner := receiver.type
        result := (result.map Value.type).getD voidType
        name := call.name
        params := args.map Value.type }
    literals := sortUnique ((receiver :: args ++ result.toList).filterMap Value.literal)
    locator := some { method := method.signature, ordinal, line := call.line } }

/-- Code whose calls are typed. -/
abbrev TypedCode := List (Instruction Invocation)

/-- The typed instructions of some code whose first call has a given number. -/
def typedFrom (cls : Class) (method : Method) :
    Nat → List (Instruction CallSite) → Except Failure TypedCode
  | _, [] => .ok []
  | ordinal, .invoke call :: rest => do
      let call ← call.typed cls method ordinal
      let rest ← typedFrom cls method (ordinal + 1) rest
      return .invoke call :: rest
  | ordinal, .control op :: rest => do
      let rest ← typedFrom cls method ordinal rest
      return .control op :: rest

/-- The typed code of a method, empty for a method without code. -/
def Method.typed (cls : Class) (method : Method) : Except Failure TypedCode :=
  match method.code with
  | none => .ok []
  | some code => typedFrom cls method 0 code

/-- The calls of some code in order. -/
def TypedCode.calls (code : TypedCode) : List Invocation :=
  code.filterMap fun
    | .invoke call => some call
    | .control _ => none

/-- The string literals passed at any call site, in increasing order. -/
def ClassTable.literals (classes : ClassTable) : Except Failure (List String) := do
  let codes ← classes.toList.mapM fun cls => cls.methods.mapM (·.typed cls)
  return sortUnique (codes.flatMap fun codes => codes.flatMap fun code =>
    (TypedCode.calls code).flatMap Invocation.literals)

end CallSearch
