/-
# CallSearch.Proofs.Index — what the summaries of an index tell

Calls of a method being expanded are left unexpanded, and bodies are shared between
nodes with one callee and context.  Neither loses evidence where a context starts:
the summary of a node without context, or at the head of its context, holds all that
the methods it reaches may call and pass, and no summary holds more.
-/
import CallSearch.Index
import CallSearch.Proofs.Forest.Summary
import CallSearch.Proofs.MethodTree
import CallSearch.Proofs.Sample

namespace CallSearch

set_option autoImplicit false

/-! ## What is called and passed below a method -/

section

variable (trees : MethodTrees) (dispatch : Dispatch) (method : Signature)

/-- A call of a method reached from a method. -/
def HasCallBelow (call : Invocation) : Prop :=
  ∃ reached, Reaches trees dispatch method reached ∧ HasCall trees reached call

/-- A method shown by a call below a method. -/
def CallsBelow (callee : Signature) : Prop :=
  ∃ call, HasCallBelow trees dispatch method call ∧ callee ∈ dispatch.shown call

/-- A literal passed by a call below a method. -/
def PassesBelow (literal : String) : Prop :=
  ∃ call, HasCallBelow trees dispatch method call ∧ literal ∈ call.literals

end

theorem Dispatch.exists_shown (dispatch : Dispatch) (call : Invocation) :
    ∃ callee, callee ∈ dispatch.shown call := by
  rw [shown]
  split
  · exact ⟨call.callee, List.mem_singleton.2 rfl⟩
  · next some => exact List.exists_mem_of_ne_nil _ some

namespace Forest.Source

variable {source : Source} {arena : Arena} (sound : source.Sound [] arena)

include sound

/-- What a key shows stands for a call below its method. -/
theorem Sound.hasCallBelow_of_shows {key : NodeKey} {call : Invocation}
    (shows : arena.Shows key call) :
    ∃ original, HasCallBelow source.trees source.dispatch key.callee original ∧
      call.callee ∈ source.dispatch.shown original ∧ call.literals = original.literals := by
  obtain ⟨other, body, item, path, has, mem, rfl⟩ := shows
  obtain ⟨number, -, isBody⟩ := sound.isBody has
  obtain ⟨original, hasCall, stands⟩ := isBody.stands item mem
  exact ⟨original, ⟨other.callee, sound.reaches_of_linksTo path, hasCall⟩, stands⟩

/-- A key without context, or at the head of its context, shows every method that a call below
its method shows, with the literals of the call. -/
theorem Sound.exists_shows {key : NodeKey} (stored : arena.Stored key)
    (complete : key.context = none ∨ key.context = some key.callee) {original : Invocation}
    (below : HasCallBelow source.trees source.dispatch key.callee original) {callee : Signature}
    (shown : callee ∈ source.dispatch.shown original) :
    ∃ call, arena.Shows key call ∧ call.callee = callee ∧ call.literals = original.literals := by
  obtain ⟨reached, path, hasCall⟩ := below
  obtain ⟨context, links⟩ := sound.exists_linksTo stored complete path
  obtain ⟨body, has⟩ := sound.hasBody (sound.stored_of_linksTo stored links)
  obtain ⟨number, -, isBody⟩ := sound.isBody has
  obtain ⟨item, mem, same⟩ := isBody.shown original hasCall callee shown
  exact ⟨item.invocation, ⟨_, body, item, links, has, mem, rfl⟩, same⟩

end Forest.Source

namespace Index

/-- Every node of an index has a summary, which holds nothing but what is called and passed
below its method, and holds all of that if the node has no context or is the head of its
context, as every root is. -/
theorem summaries_exact {config : AnalysisConfig} {classes : ClassTable}
    {entryPoints : List Signature} {index : Index}
    (h : (build config classes entryPoints).result = .ok index) :
    ∃ trees, (MethodTrees.ofClasses config classes).result = .ok trees ∧
      (∀ root ∈ index.forest.roots, root.context = none ∨ root.context = some root.callee) ∧
      ∀ node ∈ index.forest.nodes, ∃ summary, index.summaries.get? node.key = some summary ∧
        (∀ callee ∈ summary.callees, CallsBelow trees (.ofClasses classes) node.callee callee) ∧
        (∀ literal ∈ summary.literals,
          PassesBelow trees (.ofClasses classes) node.callee literal) ∧
        (node.context = none ∨ node.context = some node.callee →
          (∀ callee, CallsBelow trees (.ofClasses classes) node.callee callee →
            callee ∈ summary.callees) ∧
          ∀ literal, PassesBelow trees (.ofClasses classes) node.callee literal →
            literal ∈ summary.literals) := by
  obtain ⟨trees, found, h⟩ := Logged.result_bind.1 h
  obtain ⟨forest, built, h⟩ := Logged.result_bind.1 h
  obtain ⟨-, -, h⟩ := Logged.result_bind.1 h
  obtain rfl := Logged.result_pure.1 h
  obtain ⟨recursive, arena, expansion⟩ :=
    Forest.exists_expansion (MethodTrees.feasible_ofClasses found) built
  have sound := expansion.sound
  refine ⟨trees, found, expansion.heads, fun node mem => ?_⟩
  obtain ⟨summary, stored, holds⟩ := expansion.exists_summary mem
  refine ⟨summary, stored, fun callee here => ?_, fun literal here => ?_, fun complete =>
    ⟨fun callee below => ?_, fun literal below => ?_⟩⟩
  · obtain ⟨call, shows, rfl⟩ := (holds.callees callee).1 here
    obtain ⟨original, below, shown, -⟩ := sound.hasCallBelow_of_shows shows
    exact ⟨original, below, shown⟩
  · obtain ⟨call, shows, passed⟩ := (holds.literals literal).1 here
    obtain ⟨original, below, -, same⟩ := sound.hasCallBelow_of_shows shows
    exact ⟨original, below, same ▸ passed⟩
  · obtain ⟨original, below, shown⟩ := below
    obtain ⟨call, shows, same, -⟩ :=
      sound.exists_shows ⟨_, expansion.number mem⟩ complete below shown
    exact (holds.callees callee).2 ⟨call, shows, same⟩
  · obtain ⟨original, below, passed⟩ := below
    obtain ⟨callee, shown⟩ := Dispatch.exists_shown (.ofClasses classes) original
    obtain ⟨call, shows, -, same⟩ :=
      sound.exists_shows ⟨_, expansion.number mem⟩ complete below shown
    exact (holds.literals literal).2 ⟨call, shows, same ▸ passed⟩

/-- Two methods that call each other, and a third that enters them. -/
def sample : ClassTable :=
  .ofList [sampleClass
    [sampleDefinition "main" [.invoke (sampleSite "even" [])],
      sampleDefinition "even" [.invoke (sampleSite "odd" [])],
      sampleDefinition "odd" [.invoke (sampleSite "even" []),
        .invoke (sampleSite "log" ["\"x\""])]]]

/-- The roots of the sample program have exact summaries. -/
theorem summaries_exact_sample :
    ∃ index, (build {} sample [sampleMethod "main", sampleMethod "even"]).result = .ok index ∧
      index.forest.roots.length = 2 ∧
      ∃ trees, (MethodTrees.ofClasses {} sample).result = .ok trees ∧
        ∀ root ∈ index.forest.roots, ∃ summary, index.summaries.get? root.key = some summary ∧
          (∀ callee, callee ∈ summary.callees ↔
            CallsBelow trees (.ofClasses sample) root.callee callee) ∧
          ∀ literal, literal ∈ summary.literals ↔
            PassesBelow trees (.ofClasses sample) root.callee literal := by
  have rooted : (match (build {} sample [sampleMethod "main", sampleMethod "even"]).result with
      | .ok index => index.forest.roots.length
      | .error _ => 0) = 2 := by decide +kernel
  cases built : (build {} sample [sampleMethod "main", sampleMethod "even"]).result with
  | error failure =>
      rw [built] at rooted
      cases rooted
  | ok index =>
      rw [built] at rooted
      obtain ⟨trees, found, heads, all⟩ := summaries_exact built
      refine ⟨index, rfl, rooted, trees, found, fun root mem => ?_⟩
      obtain ⟨summary, stored, callees, literals, complete⟩ :=
        all root (Forest.mem_nodes.2 (Or.inl mem))
      obtain ⟨callees', literals'⟩ := complete (heads root mem)
      exact ⟨summary, stored, fun callee => ⟨callees callee, callees' callee⟩,
        fun literal => ⟨literals literal, literals' literal⟩⟩

end Index

end CallSearch
