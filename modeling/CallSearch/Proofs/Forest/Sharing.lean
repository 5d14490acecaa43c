/-
# CallSearch.Proofs.Forest.Sharing — one body serves every entry point

Up to numbers the body of a key does not depend on what was expanded before:

* without a context it is the shape of the tree of its method, with only the method
  itself being expanded (`Canonical.plain`), since whatever else is being expanded
  is not called from there;
* within a context it is what expanding the head of the context alone gives
  (`Canonical.headed`).  Nothing of a context is stored before its head is expanded,
  and what is being expanded around the head is not reached from it, so both runs do
  the same, step by step (`alike_node`).
-/
import CallSearch.Proofs.Forest.Numbers

namespace CallSearch.Forest

set_option autoImplicit false

open Relation

namespace Arena

/-! ## Shapes of stored bodies -/

variable {source : Source} {arena small large : Arena} {key other : NodeKey}

theorem shape?_eq_none_iff (numbered : source.Numbered arena) :
    arena.shape? key = none ↔ arena.numbers.get? key = none := by
  rw [shape?]
  cases found : arena.numbers.get? key with
  | none => simp
  | some number =>
      obtain ⟨body, here, -⟩ := numbered.stored found
      simp [here]

theorem shape?_eq_some_of_hasBody {body : Tree CallItem} (has : arena.HasBody key body) :
    arena.shape? key = some (body.map CallItem.unnumbered) := by
  obtain ⟨number, found, here⟩ := has
  rw [shape?, found, Option.bind_some, here, Option.map_some]

theorem shape?_push (numbered : source.Numbered arena) (fresh : arena.numbers.get? key = none)
    (body : Tree CallItem) : (arena.push key body).shape? other =
      if other = key then some (body.map CallItem.unnumbered) else arena.shape? other := by
  split
  · next same => rw [same, shape?_eq_some_of_hasBody (hasBody_push arena key body)]
  · next apart =>
    have more := extends_push fresh body
    rw [shape?, shape?, get?_push, if_neg apart]
    cases found : arena.numbers.get? other with
    | none => rfl
    | some number =>
        obtain ⟨old, here, -⟩ := numbered.stored found
        rw [Option.bind_some, Option.bind_some, here, more.bodies here]

/-- What is stored keeps its shape. -/
theorem shape?_of_stored (numbered : source.Numbered small) (more : small.Extends large)
    (stored : small.Stored key) : large.shape? key = small.shape? key := by
  obtain ⟨number, found⟩ := stored
  obtain ⟨body, here, -⟩ := numbered.stored found
  rw [shape?_eq_some_of_hasBody ⟨number, found, here⟩,
    shape?_eq_some_of_hasBody ⟨number, more.numbers found, more.bodies here⟩]

/-- Outside a context nothing changes within it. -/
theorem shape?_of_growsIn {expanding : List Signature} {context : Signature}
    (numbered : source.Numbered small) (numbered' : source.Numbered large)
    (grows : small.GrowsIn expanding (some context) large) (outside : key.context ≠ some context) :
    large.shape? key = small.shape? key := by
  by_cases stored : small.Stored key
  · exact shape?_of_stored numbered grows.extend stored
  · have missing : ¬large.Stored key := fun new =>
      (grows.added key new).elim stored fun ⟨_, inside⟩ => outside (inside context rfl)
    rw [(shape?_eq_none_iff numbered).2 (not_stored_iff.1 stored),
      (shape?_eq_none_iff numbered').2 (not_stored_iff.1 missing)]

end Arena

/-! ## Two runs -/

section Runs

variable {trees : MethodTrees} {dispatch : Dispatch} {recursive recursive' : List Signature}
  {method : Signature} {tree : Tree Invocation} (found : trees.get? method = some tree)

include found

/-- The body of a method in two runs that expand the same targets. -/
theorem body_related {related : Arena → Arena → Prop} {expanding expanding' : List Signature}
    {context context' : Option Signature}
    {expand expand' : Invocation → Option Signature → StateM Arena CallNode}
    (same : ∀ target, Calls trees dispatch method target →
      (target ∈ expanding ↔ target ∈ expanding'))
    (each : ∀ (call : Invocation) target, Calls trees dispatch method target → target ∉ expanding →
      ∀ {arena arena' : Arena}, related arena arena' →
        related
          (expand (call.retarget target)
            (Source.contextOf ⟨trees, dispatch, recursive⟩ context target) arena).2
          (expand' (call.retarget target)
            (Source.contextOf ⟨trees, dispatch, recursive'⟩ context' target) arena').2)
    {arena arena' : Arena} (start : related arena arena') :
    related
      (tree.flatMapM (Source.callTree ⟨trees, dispatch, recursive⟩ expanding context expand) arena).2
      (tree.flatMapM (Source.callTree ⟨trees, dispatch, recursive'⟩ expanding' context' expand')
        arena').2 := by
  refine Tree.flatMapM_related (fun call mem arena arena' start => ?_) start
  rw [Source.callTree_eq, Source.callTree_eq]
  split
  · exact start
  refine mapM_related (fun target lands arena arena' start => ?_) start
  cases contained : trees.contains target with
  | false =>
      rw [Source.alternative_eq_of_bare (Or.inr contained),
        Source.alternative_eq_of_bare (Or.inr contained)]
      exact start
  | true =>
      have called : Calls trees dispatch method target :=
        HasCall.calls ⟨tree, found, mem⟩ lands contained
      by_cases pending : target ∈ expanding
      · rw [Source.alternative_eq_of_bare (Or.inl pending),
          Source.alternative_eq_of_bare (Or.inl ((same target called).1 pending))]
        exact start
      · rw [Source.alternative_eq_of_expanded pending contained,
          Source.alternative_eq_of_expanded (mt (same target called).2 pending) contained]
        exact each call target called pending start

/-- What expanding each target keeps, expanding the body of a method keeps. -/
theorem body_keeps {keeps : Arena → Prop} {expanding : List Signature}
    {context : Option Signature} {expand : Invocation → Option Signature → StateM Arena CallNode}
    (each : ∀ (call : Invocation) target, Calls trees dispatch method target → target ∉ expanding →
      ∀ {arena : Arena}, keeps arena →
        keeps (expand (call.retarget target)
          (Source.contextOf ⟨trees, dispatch, recursive⟩ context target) arena).2)
    {arena : Arena} (start : keeps arena) :
    keeps (tree.flatMapM (Source.callTree ⟨trees, dispatch, recursive⟩ expanding context expand)
      arena).2 :=
  @body_related _ _ _ recursive _ _ found (fun arena _ => keeps arena) _ expanding _ context _ expand
    (fun _ _ => Iff.rfl) (fun call target called fresh _ _ kept => each call target called fresh kept)
    _ arena start

end Runs

/-- Two arenas hold the same within a context. -/
def Arena.AgreeIn (context : Signature) (arena arena' : Arena) : Prop :=
  ∀ method, arena.shape? ⟨method, some context⟩ = arena'.shape? ⟨method, some context⟩

/-- Two runs have numbered their bodies, and hold the same within a context. -/
structure Alike (source source' : Source) (context : Signature) (arena arena' : Arena) : Prop where
  numbered : source.Numbered arena
  numbered' : source'.Numbered arena'
  agree : arena.AgreeIn context arena'

namespace Alike

variable {source source' : Source} {context : Signature} {arena arena' : Arena}

/-- A key of the context is stored by both runs or by neither. -/
theorem absent_iff (h : Alike source source' context arena arena') (method : Signature) :
    arena.numbers.get? ⟨method, some context⟩ = none ↔
      arena'.numbers.get? ⟨method, some context⟩ = none := by
  rw [← Arena.shape?_eq_none_iff h.numbered, ← Arena.shape?_eq_none_iff h.numbered', h.agree method]

/-- Storing the same under a key that neither run has stored. -/
theorem push (h : Alike source source' context arena arena') {key : NodeKey}
    (fresh : arena.numbers.get? key = none) (fresh' : arena'.numbers.get? key = none)
    {body body' : Tree CallItem}
    (same : body.map CallItem.unnumbered = body'.map CallItem.unnumbered) :
    (arena.push key body).AgreeIn context (arena'.push key body') := by
  intro method
  rw [Arena.shape?_push h.numbered fresh, Arena.shape?_push h.numbered' fresh', same,
    h.agree method]

end Alike

section Runs

variable {trees : MethodTrees} {dispatch : Dispatch} {recursive recursive' : List Signature}

/-- Within a context two runs stay alike, if they are expanding the same of the methods that are
reached. -/
theorem alike_node {depth depth' : Nat} {expanding expanding' : List Signature}
    {call : Invocation} {context : Signature}
    (enter : Source.CanEnter ⟨trees, dispatch, recursive⟩ expanding call.callee)
    (enter' : Source.CanEnter ⟨trees, dispatch, recursive'⟩ expanding' call.callee)
    (enough : trees.size ≤ depth + expanding.length)
    (enough' : trees.size ≤ depth' + expanding'.length)
    (same : ∀ method, Reaches trees dispatch call.callee method →
      (method ∈ expanding ↔ method ∈ expanding')) {arena arena' : Arena}
    (alike : Alike ⟨trees, dispatch, recursive⟩ ⟨trees, dispatch, recursive'⟩ context arena arena') :
    Alike ⟨trees, dispatch, recursive⟩ ⟨trees, dispatch, recursive'⟩ context
      (Source.node ⟨trees, dispatch, recursive⟩ depth expanding call (some context) arena).2
      (Source.node ⟨trees, dispatch, recursive'⟩ depth' expanding' call (some context) arena').2 := by
  have inside : expanding.length < trees.size := enter.length_lt
  have inside' : expanding'.length < trees.size := enter'.length_lt
  induction depth generalizing depth' expanding expanding' call arena arena' with
  | zero => omega
  | succ depth ih =>
      obtain ⟨depth', rfl⟩ : ∃ n, depth' = n + 1 := ⟨depth' - 1, by omega⟩
      refine ⟨(Source.numbers_node _ _ _ _ _ _ enter.fresh alike.numbered).numbered,
        (Source.numbers_node _ _ _ _ _ _ enter'.fresh alike.numbered').numbered, ?_⟩
      have absent := alike.absent_iff call.callee
      cases present : arena.numbers.get? ⟨call.callee, some context⟩ with
      | some number =>
          obtain ⟨number', present'⟩ : ∃ number',
              arena'.numbers.get? ⟨call.callee, some context⟩ = some number' :=
            Option.ne_none_iff_exists'.1 (mt absent.2 (by simp [present]))
          rw [Source.node_eq_of_stored present, Source.node_eq_of_stored present']
          exact alike.agree
      | none =>
          have present' := absent.1 present
          obtain ⟨tree, found⟩ : ∃ tree, trees.get? call.callee = some tree :=
            Table.contains_iff.1 enter.contains
          have members : ∀ target, Calls trees dispatch call.callee target → ∀ method,
              Reaches trees dispatch target method →
              (method ∈ call.callee :: expanding ↔ method ∈ call.callee :: expanding') := by
            intro target called method path
            rw [List.mem_cons, List.mem_cons, same method (.head called path)]
          have members' := fun target called => members target called target .refl
          obtain ⟨body, pushed, fresh, shape⟩ :=
            Source.exists_push_of_fresh depth expanding alike.numbered present found
          obtain ⟨body', pushed', fresh', shape'⟩ :=
            Source.exists_push_of_fresh depth' expanding' alike.numbered' present' found
          have shapes : bodyShape trees dispatch (call.callee :: expanding)
                (Source.contextOf ⟨trees, dispatch, recursive⟩ (some context)) tree =
              bodyShape trees dispatch (call.callee :: expanding')
                (Source.contextOf ⟨trees, dispatch, recursive'⟩ (some context)) tree :=
            bodyShape_congr found fun target called => ⟨members' target called, fun _ => rfl⟩
          rw [pushed, pushed']
          refine Alike.push (?_ : Alike ⟨trees, dispatch, recursive⟩ ⟨trees, dispatch, recursive'⟩
            context _ _) fresh fresh' (shape.trans (shapes.trans shape'.symm))
          refine body_related found members' (fun item target called fresh _ _ alike => ?_) alike
          have contained := called.contains
          have deeper := enter.cons fresh contained
          have deeper' := enter'.cons (mt (members' target called).2 fresh) contained
          exact ih deeper deeper' (by rw [List.length_cons]; omega)
            (by rw [List.length_cons]; omega) (members target called) alike deeper.length_lt
            deeper'.length_lt

end Runs

/-! ## Canonical bodies -/

/-- What expanding a recursive method by itself stores. -/
def headArena (trees : MethodTrees) (dispatch : Dispatch) (context : Signature) : Arena :=
  (Source.node ⟨trees, dispatch, []⟩ trees.size [] (entryCall context) (some context)
    Arena.empty).2

namespace Source

/-- Up to numbers the bodies stored are those of their keys alone. -/
structure Canonical (source : Source) (arena : Arena) : Prop where
  plain : ∀ method tree, source.trees.get? method = some tree → arena.Stored ⟨method, none⟩ →
    arena.shape? ⟨method, none⟩ =
      some (bodyShape source.trees source.dispatch [method] (source.contextOf none) tree)
  headed : ∀ context, arena.Stored ⟨context, some context⟩ →
    arena.AgreeIn context (headArena source.trees source.dispatch context)

variable {source : Source} {live : Signature → Prop} {arena large : Arena}

theorem canonical_empty : source.Canonical Arena.empty where
  plain := by rintro _ _ - ⟨_, ⟨⟩⟩
  headed := by rintro _ ⟨_, ⟨⟩⟩

/-- Growing within a context whose head is being expanded, or holds what it should. -/
theorem Canonical.growsIn (h : source.Canonical arena) {expanding : List Signature}
    {context : Signature} (numbered : source.Numbered arena) (numbered' : source.Numbered large)
    (grows : arena.GrowsIn expanding (some context) large)
    (head : large.Stored ⟨context, some context⟩ →
      large.AgreeIn context (headArena source.trees source.dispatch context)) :
    source.Canonical large where
  plain method tree found stored := by
    rw [Arena.shape?_of_growsIn numbered numbered' grows (by simp)]
    refine h.plain method tree found ((grows.added _ stored).resolve_right fun new => ?_)
    cases new.2 context rfl
  headed other stored := by
    by_cases same : other = context
    · subst same
      exact head stored
    · have outside : some other ≠ some context := fun same' => same (Option.some.inj same')
      intro method
      rw [Arena.shape?_of_growsIn numbered numbered' grows outside]
      exact h.headed other
        ((grows.added _ stored).resolve_right fun new => outside (new.2 context rfl)) method

/-- Storing the body of a method without a context. -/
theorem Canonical.push (h : source.Canonical arena) (numbered : source.Numbered arena)
    {method : Signature} {tree : Tree Invocation} {body : Tree CallItem}
    (fresh : arena.numbers.get? ⟨method, none⟩ = none)
    (found : source.trees.get? method = some tree)
    (shape : body.map CallItem.unnumbered =
      bodyShape source.trees source.dispatch [method] (source.contextOf none) tree) :
    source.Canonical (arena.push ⟨method, none⟩ body) where
  plain other tree' found' stored := by
    rw [Arena.shape?_push numbered fresh]
    split
    · next same =>
      cases same
      cases found.symm.trans found'
      rw [shape]
    · next apart =>
      exact h.plain other tree' found' ((Arena.stored_push.1 stored).resolve_left apart)
  headed context stored := by
    intro other
    rw [Arena.shape?_push numbered fresh, if_neg (by simp)]
    exact h.headed context ((Arena.stored_push.1 stored).resolve_left (by simp)) other

/-- A recursive method that starts a context is expanded as it is by itself. -/
theorem agreeIn_headArena (marks : source.Marks live) {depth : Nat} {stack : List NodeKey}
    {call : Invocation} {head : Signature} (isHead : call.callee = head)
    (stacked : source.Stacked live stack) (enough : source.trees.size ≤ depth + stack.length)
    (enters : source.Enters live stack ⟨call.callee, some head⟩) (sound : source.Sound stack arena)
    (numbered : source.Numbered arena) (absent : arena.numbers.get? ⟨head, some head⟩ = none) :
    Arena.AgreeIn head
      (source.node depth (stack.map NodeKey.callee) call (some head) arena).2
      (headArena source.trees source.dispatch head) := by
  subst isHead
  have outside : ∀ method, ⟨method, some call.callee⟩ ∉ stack := by
    intro method mem
    exact enters.fresh (List.mem_map_of_mem (stacked.head_mem mem rfl))
  have start : arena.AgreeIn call.callee Arena.empty := by
    intro method
    have empty : Arena.empty.shape? ⟨method, some call.callee⟩ = none := rfl
    rw [empty, Arena.shape?_eq_none_iff numbered]
    refine Arena.not_stored_iff.1 fun stored => ?_
    rcases sound.headed method call.callee stored with pending | ⟨head, -⟩
    · exact outside _ pending
    · exact Arena.not_stored_iff.2 absent head
  have apart : ∀ method, ReflTransGen source.Calls call.callee method →
      (method ∈ stack.map NodeKey.callee ↔ method ∈ []) := by
    intro method path
    refine iff_of_false (fun mem => ?_) List.not_mem_nil
    obtain ⟨outer, inside, rfl⟩ := List.mem_map.1 mem
    rcases stacked.context enters inside with plain | same
    · exact stacked.context_of_reached marks enters inside path plain
    · refine outside outer.callee ?_
      obtain ⟨callee, context⟩ := outer
      cases same
      exact inside
  have sameNode : (entryCall call.callee).callee = call.callee := rfl
  rw [headArena, node_congr_callee sameNode]
  have alone : CanEnter ⟨source.trees, source.dispatch, []⟩ [] call.callee :=
    .nil enters.contained
  exact (alike_node (stacked.canEnter enters) alone (by rw [List.length_map]; exact enough)
    (Nat.le_add_right _ _) apart ⟨numbered, numbered_empty, start⟩).agree

/-- What holds of the arena while the keys of a stack are being expanded. -/
structure Steady (source : Source) (stack : List NodeKey) (arena : Arena) : Prop where
  sound : source.Sound stack arena
  numbered : source.Numbered arena
  canonical : source.Canonical arena

/-- Expanding nodes inside a context keeps bodies canonical. -/
theorem canonical_node_of_context (marks : source.Marks live) {depth : Nat} {stack : List NodeKey}
    (stacked : source.Stacked live stack) (enough : source.trees.size ≤ depth + stack.length)
    {call : Invocation} {context : Signature}
    (enters : source.Enters live stack ⟨call.callee, some context⟩)
    (steady : source.Steady stack arena)
    (sound : source.Sound stack
      (source.node depth (stack.map NodeKey.callee) call (some context) arena).2) :
    source.Canonical
      (source.node depth (stack.map NodeKey.callee) call (some context) arena).2 := by
  have all := numbers_node source depth _ call (some context) arena enters.fresh steady.numbered
  refine steady.canonical.growsIn steady.numbered all.numbered all.grows fun stored => ?_
  -- The head of the context is being expanded further out, or it is the method entered.
  rcases List.mem_cons.1 ((Stacked.cons enters stacked).head_mem List.mem_cons_self rfl) with
    same | pending
  · have isHead : call.callee = context := (congrArg NodeKey.callee same).symm
    cases present : arena.numbers.get? ⟨context, some context⟩ with
    | some number =>
        subst isHead
        rw [node_eq_of_stored present]
        exact steady.canonical.headed _ ⟨number, present⟩
    | none =>
        exact agreeIn_headArena marks isHead stacked enough enters steady.sound steady.numbered
          present
  · exact absurd stored (Arena.not_stored_iff.2 (sound.pending _ pending))

/-- Expanding nodes keeps all that holds of the arena. -/
theorem steady_node (marks : source.Marks live)
    (feasible : ∀ method tree, source.trees.get? method = some tree → tree.Feasible) {depth : Nat}
    {stack : List NodeKey} (stacked : source.Stacked live stack)
    (enough : source.trees.size ≤ depth + stack.length) {call : Invocation}
    {context : Option Signature} (enters : source.Enters live stack ⟨call.callee, context⟩)
    (steady : source.Steady stack arena) :
    source.Steady stack (source.node depth (stack.map NodeKey.callee) call context arena).2 := by
  induction depth generalizing stack call context arena with
  | zero =>
      have := stacked.length_lt enters
      omega
  | succ depth ih =>
      obtain ⟨-, -, -, sound, -⟩ :=
        expander_node marks feasible stacked enough call context arena enters steady.sound
      refine ⟨sound, (numbers_node source (depth + 1) _ call context arena enters.fresh
        steady.numbered).numbered, ?_⟩
      cases context with
      | some head => exact canonical_node_of_context marks stacked enough enters steady sound
      | none =>
          cases present : arena.numbers.get? ⟨call.callee, none⟩ with
          | some number =>
              rw [node_eq_of_stored present]
              exact steady.canonical
          | none =>
              obtain ⟨tree, found⟩ := Table.contains_iff.1 enters.contained
              have inner : source.Stacked live (⟨call.callee, none⟩ :: stack) := .cons enters stacked
              have entered : source.Steady (⟨call.callee, none⟩ :: stack) arena :=
                ⟨steady.sound.enter present, steady.numbered, steady.canonical⟩
              have all := body_keeps found (fun item target called fresh _ steady =>
                have enters' : source.Enters live (⟨call.callee, none⟩ :: stack)
                    ⟨target, source.contextOf none target⟩ :=
                  ⟨called.contains, fresh, marks.forward enters.live called,
                    by rintro top ⟨⟩; exact called, rfl⟩
                ih inner (by rw [List.length_cons]; omega) enters' steady) entered
              obtain ⟨body, pushed, fresh, shape⟩ := exists_push_of_fresh depth
                (stack.map NodeKey.callee) steady.numbered present found
              rw [pushed]
              refine all.canonical.push all.numbered fresh found (shape.trans ?_)
              -- Of the methods being expanded, the body calls none but its own.
              refine bodyShape_congr found fun target called => ⟨?_, fun _ => rfl⟩
              rw [List.mem_cons, List.mem_singleton]
              refine or_iff_left fun pending => ?_
              exact (stacked.mem_of_called marks enters called pending).1 rfl

end Source

/-! ## Two lists of roots -/

theorem steady_expandRoots {source : Source} {live : Signature → Prop} (marks : source.Marks live)
    (feasible : ∀ method tree, source.trees.get? method = some tree → tree.Feasible)
    {roots : List Signature}
    (entered : ∀ root ∈ roots, live root ∧ source.trees.contains root = true) :
    source.Steady [] (expandRoots source roots).2 := by
  refine mapM_keeps (fun root mem _ steady => ?_)
    ⟨Source.sound_empty, Source.numbered_empty, Source.canonical_empty⟩
  obtain ⟨isLive, contained⟩ := entered root mem
  exact Source.steady_node marks feasible .nil (Nat.le_refl _)
    ⟨contained, List.not_mem_nil, isLive, nofun, rfl⟩ steady

/-- The bodies of the call trees of some roots. -/
def arenaOf (config : AnalysisConfig) (trees : MethodTrees) (dispatch : Dispatch)
    (roots : List Signature) : Arena :=
  (expandRoots (sourceOf config trees dispatch roots) roots).2

section Compare

variable (config : AnalysisConfig) {trees : MethodTrees} (dispatch : Dispatch)
  (feasible : ∀ method tree, trees.get? method = some tree → tree.Feasible)
  {roots roots' : List Signature} (contained : ∀ root ∈ roots, trees.contains root = true)
  (contained' : ∀ root ∈ roots', trees.contains root = true)

include feasible contained

theorem expansion_arenaOf : Expansion (sourceOf config trees dispatch roots)
    ⟨(expandRoots (sourceOf config trees dispatch roots) roots).1,
      (arenaOf config trees dispatch roots).bodies⟩ (arenaOf config trees dispatch roots) :=
  expansion_expandRoots (marks_sourceOf contained) feasible
    fun root mem => ⟨⟨root, mem, .refl⟩, contained root mem⟩

theorem steady_arenaOf : Source.Steady (sourceOf config trees dispatch roots) []
    (arenaOf config trees dispatch roots) :=
  steady_expandRoots (marks_sourceOf contained) feasible
    fun root mem => ⟨⟨root, mem, .refl⟩, contained root mem⟩

/-- What is stored is reached from a root. -/
theorem reaches_of_stored {key : NodeKey} (stored : (arenaOf config trees dispatch roots).Stored key) :
    ∃ root ∈ roots, Reaches trees dispatch root key.callee := by
  have expansion := expansion_arenaOf config dispatch feasible contained
  obtain ⟨node, mem, path⟩ := expansion.linked key stored
  obtain ⟨-, all⟩ := expandRoots_spec (sourceOf config trees dispatch roots) roots
  obtain ⟨root, listed, call, -⟩ := exists_left_of_mem all mem
  refine ⟨root, listed, ?_⟩
  have reached := expansion.sound.reaches_of_linksTo path
  rwa [CallNode.key, CallNode.callee, call] at reached

include contained'

/-- A body is the same below other roots, up to numbers. -/
theorem shape?_arenaOf (key : NodeKey) (stored : (arenaOf config trees dispatch roots).Stored key)
    (stored' : (arenaOf config trees dispatch roots').Stored key) :
    (arenaOf config trees dispatch roots).shape? key =
      (arenaOf config trees dispatch roots').shape? key := by
  have steady := steady_arenaOf config dispatch feasible contained
  have steady' := steady_arenaOf config dispatch feasible contained'
  obtain ⟨callee, context⟩ := key
  cases context with
  | some head =>
      have headed := (steady.sound.headed callee head stored).resolve_left List.not_mem_nil
      have headed' := (steady'.sound.headed callee head stored').resolve_left List.not_mem_nil
      rw [steady.canonical.headed head headed.1 callee, steady'.canonical.headed head headed'.1 callee]
      rfl
  | none =>
      obtain ⟨root, listed, path⟩ := reaches_of_stored config dispatch feasible contained stored
      obtain ⟨root', listed', path'⟩ := reaches_of_stored config dispatch feasible contained' stored'
      obtain ⟨tree, found⟩ :=
        Table.contains_iff.1 (contains_of_reaches path (contained root listed))
      rw [steady.canonical.plain callee tree found stored,
        steady'.canonical.plain callee tree found stored']
      -- A method called from here is reached from both lists of roots, so it is marked in both.
      refine congrArg some (bodyShape_congr found fun target called => ⟨Iff.rfl, fun _ => ?_⟩)
      have marked : target ∈ (sourceOf config trees dispatch roots).recursive ↔
          target ∈ (sourceOf config trees dispatch roots').recursive := by
        rw [mem_recursive_sourceOf contained, mem_recursive_sourceOf contained']
        exact ⟨fun ⟨_, _, _, recursive⟩ => ⟨root', listed', path'.tail called, recursive⟩,
          fun ⟨_, _, _, recursive⟩ => ⟨root, listed, path.tail called, recursive⟩⟩
      rw [Source.contextOf_none, Source.contextOf_none]
      exact if_congr marked rfl rfl

end Compare

end CallSearch.Forest
