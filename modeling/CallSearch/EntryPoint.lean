/-
# CallSearch.EntryPoint — where call trees start

Entry points are the methods with code that a virtual machine starts by itself: the
main method, the run method of a task and static initializers.  When classes are
named, every method with code of these classes is an entry point instead.
-/
import CallSearch.Program
import CallSearch.Sorted

namespace CallSearch

set_option autoImplicit false

/-- Whether a method has the form of an entry point. -/
def Signature.isEntry (signature : Signature) : Bool :=
  signature.result == voidType &&
    ((signature.name == "main" && signature.params == ["java.lang.String[]"])
      || (signature.name == "run" && signature.params == [])
      || (signature.name == "<clinit>" && signature.params == []))

namespace ClassTable

/-- Every method with code, in the order of signatures. -/
def declaredMethods (classes : ClassTable) : List Signature :=
  sortAscending ((classes.methods.filter fun method => method.code.isSome).map Method.signature)

/-- The entry points of a program, or of the named classes if there are any. -/
def entryPoints (classes : ClassTable) (named : List String) : List Signature :=
  if named.isEmpty then classes.declaredMethods.filter Signature.isEntry
  else (classes.filter named.contains).declaredMethods

end ClassTable

end CallSearch
