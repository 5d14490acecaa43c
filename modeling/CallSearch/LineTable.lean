/-
# CallSearch.LineTable — where calls stand in the source

A line table gives for a method the lines of its calls, by the number of the call.
It serves only to decorate output.  Of several entries for one method the last
counts.
-/
import CallSearch.Program.Document

namespace CallSearch

set_option autoImplicit false

/-- The lines of the calls of each method. -/
structure LineTable where
  lines : Table Signature (List Nat)
deriving Inhabited

namespace LineTable

/-- The line of the call at some place. -/
def locate? (table : LineTable) (locator : Locator) : Option Nat := do
  let lines ← table.lines.get? locator.method
  lines[locator.ordinal]?

def entryRecord : Json.Record := ⟨["method", "lines"], 2⟩

/-- The lines of one method. -/
def entryOfJson? (value : Json) : Option (Signature × List Nat) := do
  let fields ← value.fields? entryRecord
  let method ← fields.required "method" Signature.ofJson?
  let lines ← fields.required "lines" (Json.list? Json.nat32?)
  return (method, lines)

/-- The table a document holds. -/
def ofJson? (value : Json) : Option LineTable := do
  return ⟨.ofList (← value.list? entryOfJson?)⟩

end LineTable

end CallSearch
