/-
# CallSearch.Program — classes, methods and their code

A program is a table of classes.  The code of a method is a list of instructions:
calls, and control instructions that end a run, mark a place or jump to a mark.
The payload of a call is a parameter: `CallSite`s hold the value tokens as they
were written, `Invocation`s the types found for them.
-/
import CallSearch.Invocation
import CallSearch.Table

namespace CallSearch

set_option autoImplicit false

/-- A call as written: value tokens without types. -/
structure CallSite where
  kind : CallKind
  /-- A variable, or a class name for a static call. -/
  receiver : String
  name : String
  args : List String
  /-- The variable the result is assigned to. -/
  result : Option String
  line : Option Nat
deriving DecidableEq, Inhabited

/-- An instruction that steers the run of a method. -/
inductive Control where
  /-- End the run by returning. -/
  | ret (line : Option Nat)
  /-- End the run by throwing. -/
  | throw (line : Option Nat)
  /-- Jump or go on. -/
  | condBranch (target : String) (line : Option Nat)
  /-- Jump. -/
  | branch (target : String) (line : Option Nat)
  /-- Jump to one of several labels. -/
  | multiBranch (targets : List String) (line : Option Nat)
  /-- A place jumps lead to. -/
  | label (name : String)
deriving DecidableEq, Inhabited

/-- The labels a control instruction may jump to. -/
def Control.targets : Control → List String
  | .condBranch target _ => [target]
  | .branch target _ => [target]
  | .multiBranch targets _ => targets
  | _ => []

/-- An instruction whose calls carry a payload of type `γ`. -/
inductive Instruction (γ : Type) where
  | invoke (call : γ)
  | control (op : Control)
deriving DecidableEq, Inhabited

/-- The labels an instruction may jump to. -/
def Instruction.targets {γ : Type} : Instruction γ → List String
  | .invoke _ => []
  | .control op => op.targets

/-- The label an instruction defines. -/
def Instruction.label? {γ : Type} : Instruction γ → Option String
  | .control (.label name) => some name
  | _ => none

/-- A method with the types of its local variables. -/
structure Method where
  signature : Signature
  /-- Local variables and parameters with their declared types. -/
  locals : Table String String
  /-- `none` for abstract and native methods. -/
  code : Option (List (Instruction CallSite))
deriving Inhabited

/-- A class or interface. -/
structure Class where
  name : String
  superName : Option String
  interfaces : List String
  /-- Fields with their declared types. -/
  fields : Table String String
  methods : List Method
deriving Inhabited

namespace Class

/-- The method with a given signature; of several the first. -/
def method? (cls : Class) (signature : Signature) : Option Method :=
  cls.methods.find? fun method => method.signature == signature

/-- The names of the class and interfaces a class extends directly. -/
def parents (cls : Class) : List String := cls.superName.toList ++ cls.interfaces

end Class

/-- The classes of a program by name. -/
structure ClassTable where
  table : Table String Class
  named : ∀ entry ∈ table.entries, entry.1 = entry.2.name

namespace ClassTable

instance : EmptyCollection ClassTable := ⟨⟨∅, fun _ h => absurd h List.not_mem_nil⟩⟩

instance : Inhabited ClassTable := ⟨∅⟩

/-- The class with a given name. -/
def get? (classes : ClassTable) (name : String) : Option Class := classes.table.get? name

/-- Whether there is a class with a given name. -/
def contains (classes : ClassTable) (name : String) : Bool := classes.table.contains name

/-- All classes in the order of their names. -/
def toList (classes : ClassTable) : List Class := classes.table.values

/-- The class names in increasing order. -/
def names (classes : ClassTable) : List String := classes.table.keys

/-- The number of classes. -/
def size (classes : ClassTable) : Nat := classes.table.size

/-- Add a class, in place of one with its name. -/
def insert (classes : ClassTable) (cls : Class) : ClassTable where
  table := classes.table.insert cls.name cls
  named entry h := by
    rcases mem_insertEntry h with rfl | h
    · rfl
    · exact classes.named entry h

/-- Add a class unless there is one with its name. -/
def insertNew (classes : ClassTable) (cls : Class) : ClassTable :=
  if classes.contains cls.name then classes else classes.insert cls

/-- The classes that pass a test on their name. -/
def filter (keep : String → Bool) (classes : ClassTable) : ClassTable where
  table := classes.table.filter fun name _ => keep name
  named entry h := classes.named entry (List.mem_filter.1 h).1

/-- Remove the class with a given name. -/
def erase (classes : ClassTable) (name : String) : ClassTable :=
  classes.filter (· != name)

/-- The table of some classes; of several with one name the first counts. -/
def ofList (classes : List Class) : ClassTable := classes.foldl insertNew ∅

/-- Every method of every class, class by class in the order of their names. -/
def methods (classes : ClassTable) : List Method := classes.toList.flatMap Class.methods

end ClassTable

end CallSearch
