/-
# CallSearch.Excerpt.Render — excerpts as text

A call that is expanded is written `class result name(params) …` with its body
between braces, two blanks deeper a level.  Alternatives follow a line `||`, unless
only one of them shows anything.  The literals of a call are shown if one of them
matches the query, and its line if a line table is given.
-/
import CallSearch.Excerpt
import CallSearch.LineTable
import CallSearch.Query

namespace CallSearch

set_option autoImplicit false

/-- How excerpts are written. -/
structure Style where
  query : Query
  lines : Option LineTable
  /-- Whether types of the language itself are written with their package. -/
  fullyQualified : Bool

/-- A line of output. -/
structure Row where
  level : Nat
  text : String
  location : String
deriving DecidableEq, Inhabited

namespace Row

/-- A line that is not indented and has no location. -/
def plain (text : String) : Row := ⟨0, text, ""⟩

/-- The same line one level deeper. -/
def indent (row : Row) : Row := { row with level := row.level + 1 }

/-- The text of a line with its end. -/
def render (row : Row) : String :=
  String.join (List.replicate row.level "  ") ++ row.text
    ++ (if row.location == "" then "" else "\t" ++ row.location) ++ "\n"

end Row

namespace Style

/-- The package left out of type names. -/
def omittedPackage : String := "java.lang."

/-- A type as it is written. -/
def typeName (style : Style) (type : String) : String :=
  let package := omittedPackage.toList
  if !style.fullyQualified && package.isPrefixOf type.toList then
    String.ofList (type.toList.drop package.length)
  else type

/-- A method as it is written. -/
def signature (style : Style) (method : Signature) : String :=
  style.typeName method.owner ++ " " ++ style.typeName method.result ++ " " ++ method.name ++ "("
    ++ ",".intercalate (method.params.map style.typeName) ++ ")"

/-- The line of a call, if lines are shown: that of the line table, else that of the call. -/
def location (style : Style) (call : Invocation) : String :=
  match style.lines, call.locator with
  | none, _ => ""
  | some _, none => "-"
  | some lines, some locator =>
      match (lines.locate? locator).or locator.line with
      | some line => "(line " ++ Nat.repr line ++ ")"
      | none => "(line *)"

/-- The literals of a call, if one of them matches. -/
def literalRows (style : Style) (call : Invocation) : List Row :=
  if call.literals.any style.query.matchesLiteral then
    [.plain ("    " ++ ", ".intercalate call.literals)]
  else []

/-- Append a closing brace to the last of some lines. -/
def closeLast : List Row → List Row
  | [] => []
  | [row] => [{ row with text := row.text ++ "\x7d" }]
  | row :: rest => row :: closeLast rest

/-- An expanded call with the lines of its body. -/
def nodeRows (style : Style) (call : Invocation) (location : String) (body : List Row) :
    List Row :=
  let head := ⟨0, style.signature call.callee ++ " \x7b", location⟩ :: style.literalRows call
  if body.isEmpty then closeLast head else head ++ body.map Row.indent ++ [.plain "\x7d"]

/-- Alternatives by their lines. -/
def alternativeRows (alternatives : List (List Row)) : List Row :=
  match alternatives.filter (!·.isEmpty) with
  | [] => []
  | [rows] => rows
  | shown => .plain "||" :: shown.flatten.map Row.indent

mutual

/-- The lines of an item. -/
def itemRows (style : Style) : ExcerptItem → List Row
  | .invoked call =>
      ⟨0, style.signature call.callee, style.location call⟩ :: style.literalRows call
  | .call site _ _ body => style.nodeRows site (style.location site) (treeRows style body)

/-- The lines of a tree of items. -/
def treeRows (style : Style) : Tree ExcerptItem → List Row
  | .leaf item => itemRows style item
  | .seq parts => (partRows style parts).flatten
  | .alt parts => alternativeRows (partRows style parts)

/-- The lines of each of some trees. -/
def partRows (style : Style) : List (Tree ExcerptItem) → List (List Row)
  | [] => []
  | part :: rest => treeRows style part :: partRows style rest

end

/-- The text of an excerpt.  The outermost call has no location. -/
def render (style : Style) (excerpt : Excerpt) : String :=
  String.join ((style.nodeRows excerpt.call "" (style.treeRows excerpt.body)).map Row.render)

end Style

end CallSearch
