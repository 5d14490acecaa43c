/-
# CallSearch.Failure — why an analysis or a query is refused

Every cause is a defect of the data given; `Failure.message` words it.
-/
import CallSearch.Signature

namespace CallSearch

set_option autoImplicit false

/-- How the parts of an index contradict each other. -/
inductive IndexFault where
  /-- The number of entry points is not the number of call trees. -/
  | rootCount (entryPoints roots : Nat)
  /-- A call tree belongs to another method than its entry point. -/
  | rootMismatch (found entryPoint : Signature)
  /-- A call node refers to a body that is not there. -/
  | missingBody (body : Nat) (callee : Signature)
  /-- A call node has no summary. -/
  | missingSummary (callee : Signature)
deriving DecidableEq

/-- The wording of a fault of an index. -/
def IndexFault.message : IndexFault → String
  | .rootCount entryPoints roots =>
      Nat.repr entryPoints ++ " entry points but " ++ Nat.repr roots ++ " call trees"
  | .rootMismatch found entryPoint =>
      "call tree of " ++ found.text ++ " found for entry point " ++ entryPoint.text
  | .missingBody body callee => "body " ++ Nat.repr body ++ " of " ++ callee.text ++ " is missing"
  | .missingSummary callee => "no summary for " ++ callee.text

/-- Why words do not make a query. -/
inductive QueryFault where
  | emptyWord
  | duplicateWord
  /-- A field-wise method pattern has too many fields or only empty ones. -/
  | methodPattern (word : String)
deriving DecidableEq

/-- The wording of a fault of a query. -/
def QueryFault.message : QueryFault → String
  | .emptyWord => "empty string in query words"
  | .duplicateWord => "duplicated query words"
  | .methodPattern word => "invalid method pattern `" ++ word ++ "`"

/-- Why the engine refuses its input. -/
inductive Failure where
  /-- A value token of a call site has no type. -/
  | unresolvedValue (method : Signature) (token : String)
  /-- A jump names a label the method does not define. -/
  | undefinedLabel (method : Signature) (label : String)
  /-- A method branches more often than allowed. -/
  | tooManyBranches (method : Signature) (branches limit : Nat)
  | entryPointNotFound (method : Signature)
  /-- Call trees and summaries do not belong together. -/
  | inconsistentIndex (fault : IndexFault)
  | malformedQuery (fault : QueryFault)
  /-- A query word is no regular expression. -/
  | invalidPattern (word : String)
deriving DecidableEq

/-- The wording of a failure. -/
def Failure.message : Failure → String
  | .unresolvedValue method token =>
      "fail to resolve type of `" ++ token ++ "` in " ++ method.text
  | .undefinedLabel method label => "undefined label `" ++ label ++ "` in " ++ method.text
  | .tooManyBranches method branches limit =>
      method.text ++ " has " ++ Nat.repr branches ++ " branches (limit " ++ Nat.repr limit ++ ")"
  | .entryPointNotFound method => "entry point not found: " ++ method.text
  | .inconsistentIndex fault => "inconsistent index: " ++ fault.message
  | .malformedQuery fault => "malformed query: " ++ fault.message
  | .invalidPattern word => "invalid pattern `" ++ word ++ "`"

end CallSearch
