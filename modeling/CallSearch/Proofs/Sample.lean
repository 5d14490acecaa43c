/-
# CallSearch.Proofs.Sample — what the sample programs are made of

The methods of the sample programs are static, take no arguments and return nothing.
Most programs have one class for all of them, some a class for each.  A call is written
as a site; with its types it is an invocation, which may know its place in the body of
a method.

Programs are run by `cbv`, which unfolds library functions by their equations.  Mathlib
is imported whole here, so that the equations it has are not made again wherever a
sample program is run.
-/
import CallSearch.Program
import Mathlib

namespace CallSearch

set_option autoImplicit false

def plainMethod (owner name : String) : Signature :=
  { owner, result := voidType, name, params := [] }

/-- A class without parents and fields. -/
def plainClass (name : String) (methods : List Method) : Class where
  name := name
  superName := none
  interfaces := []
  fields := ∅
  methods := methods

def plainSite (receiver name : String) (args : List String) : CallSite where
  kind := .static
  receiver := receiver
  name := name
  args := args
  result := none
  line := none

def plainCallIn (caller callee : Signature) (ordinal : Nat) : Invocation :=
  ⟨.static, callee, [], some ⟨caller, ordinal, none⟩⟩

/-! ## One class -/

def sampleMethod (name : String) : Signature := plainMethod "a.A" name

def sampleClass (methods : List Method) : Class := plainClass "a.A" methods

/-- A method with its code. -/
def sampleDefinition (name : String) (code : List (Instruction CallSite)) : Method :=
  ⟨sampleMethod name, ∅, some code⟩

def sampleSite (name : String) (args : List String) : CallSite := plainSite "a.A" name args

/-- A call without a place. -/
def sampleCall (name : String) : Invocation := ⟨.static, sampleMethod name, [], none⟩

def sampleCallIn (caller name : String) (ordinal : Nat) : Invocation :=
  plainCallIn (sampleMethod caller) (sampleMethod name) ordinal

/-! ## A class for each method -/

def loneMethod (name : String) : Signature := plainMethod name name

def loneClass (name : String) (code : List (Instruction CallSite)) : Class :=
  plainClass name [⟨loneMethod name, ∅, some code⟩]

def loneSite (name : String) : CallSite := plainSite name name []

def loneCallIn (caller name : String) (ordinal : Nat) : Invocation :=
  plainCallIn (loneMethod caller) (loneMethod name) ordinal

end CallSearch
