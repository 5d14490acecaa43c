/-
# CallSearch.Query — what is searched for

A query is a list of words, each a regular expression with a scope:

* `"word"` is matched by string literals;
* `t.word` is matched by the types of a signature;
* `m.word` is matched by method names, and `m.class/result/name/param` by methods
  whose parts match, field by field, an empty field being matched by anything;
* any other word is matched by types, method names and literals.

A query is fulfilled when each of its words is matched.
-/
import CallSearch.Failure
import CallSearch.Regex.Parser
import CallSearch.Summary

namespace CallSearch

set_option autoImplicit false

/-- Expressions for the parts of a method; a part without expression is matched by anything. -/
structure MethodPattern where
  owner : Option Regex
  result : Option Regex
  name : Option Regex
  /-- Matched by any of the parameter types. -/
  param : Option Regex
deriving Inhabited

namespace MethodPattern

/-- Whether a method matches in every part. -/
def isMatch (pattern : MethodPattern) (method : Signature) : Bool :=
  let field (regex : Option Regex) (text : String) := regex.all (·.isMatch text)
  field pattern.owner method.owner && field pattern.result method.result
    && field pattern.name method.name
    && pattern.param.all fun regex => method.params.any regex.isMatch

/-- The expression for the name, if no other part is given. -/
def nameOnly? : MethodPattern → Option Regex
  | ⟨none, none, some name, none⟩ => some name
  | _ => none

end MethodPattern

/-- The scope of a query word, with its expressions. -/
inductive Scope where
  | literal (regex : Regex)
  | type (regex : Regex)
  | method (pattern : MethodPattern)
  /-- Types, method names and literals. -/
  | any (regex : Regex)
deriving Inhabited

/-- A query word. -/
structure Pattern where
  word : String
  scope : Scope
deriving Inhabited

namespace Pattern

/-- The digits of a number in lower-case hexadecimal, filled up with zeros. -/
def hex (width point : Nat) : List Char :=
  let digits := Nat.toDigits 16 point
  List.replicate (width - digits.length) '0' ++ digits

/-- A character as it stands in program text, where characters beyond ASCII are escaped.  The
backslash of an escape is itself escaped, so that it is matched as it is. -/
def escapeChar (c : Char) : List Char :=
  let point := c.toNat
  if point < 0x80 then [c]
  else if point < 0x10000 then '\\' :: '\\' :: 'u' :: hex 4 point
  else '\\' :: '\\' :: 'U' :: hex 8 point

/-- An expression for text in which characters beyond ASCII are escaped. -/
def escapeUnicode (cs : List Char) : String := String.ofList (cs.flatMap escapeChar)

/-- The expression of a query word. -/
def regex (word : String) (ignoreCase : Bool) (text : String) : Except Failure Regex :=
  match Regex.parse? ignoreCase text with
  | some regex => .ok regex
  | none => .error (.invalidPattern word)

/-- An expression for a part of a method; an empty text is none. -/
def field (word : String) (ignoreCase : Bool) (text : Option String) :
    Except Failure (Option Regex) :=
  match text with
  | none => .ok none
  | some "" => .ok none
  | some text => do return some (← regex word ignoreCase text)

/-- The pattern of a method word: a name, or up to four fields of which one is not empty. -/
def method (word : String) (ignoreCase : Bool) (text : String) : Except Failure MethodPattern :=
  match text.splitOn "/" with
  | [_] => do return ⟨none, none, some (← regex word ignoreCase text), none⟩
  | fields =>
      if 4 < fields.length || fields.all (· == "") then
        .error (.malformedQuery (.methodPattern word))
      else do
        let owner ← field word ignoreCase fields[0]?
        let result ← field word ignoreCase fields[1]?
        let name ← field word ignoreCase fields[2]?
        let param ← field word ignoreCase fields[3]?
        return ⟨owner, result, name, param⟩

/-- Drop a quote at the end. -/
def dropClosingQuote (cs : List Char) : List Char :=
  if cs.getLast? = some '"' then cs.dropLast else cs

/-- The pattern of a query word. -/
def compile (ignoreCase : Bool) (word : String) : Except Failure Pattern := do
  let regex (cs : List Char) := regex word ignoreCase (escapeUnicode cs)
  let scope : Scope ←
    match word.toList with
    | '"' :: rest => do pure (.literal (← regex (dropClosingQuote rest)))
    | 't' :: '.' :: rest => do pure (.type (← regex rest))
    | 'm' :: '.' :: rest => do pure (.method (← method word ignoreCase (escapeUnicode rest)))
    | cs => do pure (.any (← regex cs))
  return ⟨word, scope⟩

/-- Whether a called method matches. -/
def matchesCallee (pattern : Pattern) (callee : Signature) : Bool :=
  match pattern.scope with
  | .literal _ => false
  | .type regex => callee.types.any regex.isMatch
  | .method method => method.isMatch callee
  | .any regex => regex.isMatch callee.name || callee.types.any regex.isMatch

/-- Whether a type matches. -/
def matchesType (pattern : Pattern) (type : String) : Bool :=
  match pattern.scope with
  | .type regex => regex.isMatch type
  | .any regex => regex.isMatch type
  | _ => false

/-- Whether a method name matches by itself, which field-wise patterns never allow. -/
def matchesMethodName (pattern : Pattern) (name : String) : Bool :=
  match pattern.scope with
  | .method method => method.nameOnly?.any (·.isMatch name)
  | .any regex => regex.isMatch name
  | _ => false

/-- Whether a method matches as a method, by its name or field by field. -/
def matchesMethod (pattern : Pattern) (callee : Signature) : Bool :=
  match pattern.scope with
  | .method method => method.isMatch callee
  | .any regex => regex.isMatch callee.name
  | _ => false

/-- Whether a string literal matches. -/
def matchesLiteral (pattern : Pattern) (literal : String) : Bool :=
  match pattern.scope with
  | .literal regex => regex.isMatch literal
  | .any regex => regex.isMatch literal
  | _ => false

/-- Whether a called method or a literal of a summary matches. -/
def isMatchedBy (pattern : Pattern) (summary : Summary) : Bool :=
  summary.callees.toList.any pattern.matchesCallee
    || summary.literals.toList.any pattern.matchesLiteral

end Pattern

/-- Query words that must all be matched. -/
structure Query where
  patterns : List Pattern
deriving Inhabited

namespace Query

/-- The query of some words, none of them empty and no two the same. -/
def compile (ignoreCase : Bool) (words : List String) : Except Failure Query :=
  if words.contains "" then .error (.malformedQuery .emptyWord)
  else if (sortUnique words).length != words.length then .error (.malformedQuery .duplicateWord)
  else do return ⟨← words.mapM (Pattern.compile ignoreCase)⟩

/-- Whether some word is matched by a called method. -/
def matchesCallee (query : Query) (callee : Signature) : Bool :=
  query.patterns.any (·.matchesCallee callee)

/-- Whether some word is matched by a type. -/
def matchesType (query : Query) (type : String) : Bool := query.patterns.any (·.matchesType type)

/-- Whether some word is matched by a method name by itself. -/
def matchesMethodName (query : Query) (name : String) : Bool :=
  query.patterns.any (·.matchesMethodName name)

/-- Whether some word is matched by a method as a method. -/
def matchesMethod (query : Query) (callee : Signature) : Bool :=
  query.patterns.any (·.matchesMethod callee)

/-- Whether some word is matched by a string literal. -/
def matchesLiteral (query : Query) (literal : String) : Bool :=
  query.patterns.any (·.matchesLiteral literal)

/-- Whether every word is matched by something in a summary. -/
def isFulfilledBy (query : Query) (summary : Summary) : Bool :=
  query.patterns.all (·.isMatchedBy summary)

/-- Whether some word is matched by something in a summary. -/
def isPartiallyFulfilledBy (query : Query) (summary : Summary) : Bool :=
  summary.callees.toList.any query.matchesCallee
    || summary.literals.toList.any query.matchesLiteral

end Query

end CallSearch
