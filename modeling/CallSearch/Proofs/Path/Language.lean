/-
# CallSearch.Proofs.Path.Language — the call sequences of some paths

A path stands for sequences of calls: a block for the calls in it, a nested step for
the sequences of any one of its paths, and the path for their concatenations.  A path
is passable if no nested step in it is without paths, since such a step stands for
nothing.

The order of steps is transitive and takes no two steps for equal, so sorted paths are
determined by their members.
-/
import CallSearch.Path
import CallSearch.Proofs.Sorted
import CallSearch.Proofs.Tree.Compress

namespace CallSearch

set_option autoImplicit false

/-! ## Order of steps -/

namespace Step

mutual

theorem order_self : (step : Step) → step.order step = .eq
  | .block calls => by
      rw [order]
      exact Std.ReflCmp.compare_self
  | .nested paths => by
      rw [order]
      exact orderPaths_self paths

theorem orderPaths_self : (paths : List (List Step)) → orderPaths paths paths = .eq
  | [] => by rw [orderPaths]
  | path :: rest => by
      rw [orderPaths, orderSteps_self path, orderPaths_self rest]
      rfl

theorem orderSteps_self : (steps : List Step) → orderSteps steps steps = .eq
  | [] => by rw [orderSteps]
  | step :: rest => by
      rw [orderSteps, order_self step, orderSteps_self rest]
      rfl

end

mutual

theorem eq_of_order : (a b : Step) → a.order b = .eq → a = b
  | .block as, .block bs, h => by
      rw [order] at h
      rw [Std.LawfulEqOrd.eq_of_compare h]
  | .nested as, .nested bs, h => by
      rw [order] at h
      rw [eq_of_orderPaths as bs h]
  | .block _, .nested _, h => by simp [order] at h
  | .nested _, .block _, h => by simp [order] at h

theorem eq_of_orderPaths : (as bs : List (List Step)) → orderPaths as bs = .eq → as = bs
  | [], [], _ => rfl
  | [], _ :: _, h => by simp [orderPaths] at h
  | _ :: _, [], h => by simp [orderPaths] at h
  | a :: as, b :: bs, h => by
      rw [orderPaths, Ordering.then_eq_eq] at h
      rw [eq_of_orderSteps a b h.1, eq_of_orderPaths as bs h.2]

theorem eq_of_orderSteps : (as bs : List Step) → orderSteps as bs = .eq → as = bs
  | [], [], _ => rfl
  | [], _ :: _, h => by simp [orderSteps] at h
  | _ :: _, [], h => by simp [orderSteps] at h
  | a :: as, b :: bs, h => by
      rw [orderSteps, Ordering.then_eq_eq] at h
      rw [eq_of_order a b h.1, eq_of_orderSteps as bs h.2]

end

instance : Std.LawfulEqOrd Step where
  compare_self {step} := order_self step
  eq_of_compare {a b} h := eq_of_order a b h

mutual

/-- Comparing steps the other way round gives the opposite result. -/
theorem order_swap : (a b : Step) → b.order a = (a.order b).swap
  | .block as, .block bs => by
      rw [order, order]
      exact Std.OrientedCmp.eq_swap
  | .nested as, .nested bs => by rw [order, order, orderPaths_swap as bs]
  | .block _, .nested _ => by rw [order, order]; rfl
  | .nested _, .block _ => by rw [order, order]; rfl

theorem orderPaths_swap : (as bs : List (List Step)) → orderPaths bs as = (orderPaths as bs).swap
  | [], [] => by rw [orderPaths]; rfl
  | [], _ :: _ => by rw [orderPaths, orderPaths]; rfl
  | _ :: _, [] => by rw [orderPaths, orderPaths]; rfl
  | a :: as, b :: bs => by
      rw [orderPaths, orderPaths, orderSteps_swap a b, orderPaths_swap as bs, Ordering.swap_then]

theorem orderSteps_swap : (as bs : List Step) → orderSteps bs as = (orderSteps as bs).swap
  | [], [] => by rw [orderSteps]; rfl
  | [], _ :: _ => by rw [orderSteps, orderSteps]; rfl
  | _ :: _, [] => by rw [orderSteps, orderSteps]; rfl
  | a :: as, b :: bs => by
      rw [orderSteps, orderSteps, order_swap a b, orderSteps_swap as bs, Ordering.swap_then]

end

mutual

/-- What comes before a step comes before whatever comes after that. -/
theorem order_lt_trans : (a b c : Step) → a.order b = .lt → b.order c = .lt → a.order c = .lt
  | .block as, .block bs, .block cs, first, second => by
      rw [order] at first second ⊢
      exact Std.TransCmp.lt_trans first second
  | .nested as, .nested bs, .nested cs, first, second => by
      rw [order] at first second ⊢
      exact orderPaths_lt_trans as bs cs first second
  | .block _, _, .nested _, _, _ => by rw [order]
  | .block _, .nested _, .block _, _, second => by simp [order] at second
  | .nested _, .block _, _, first, _ => by simp [order] at first
  | .nested _, .nested _, .block _, _, second => by simp [order] at second

theorem orderPaths_lt_trans : (as bs cs : List (List Step)) →
    orderPaths as bs = .lt → orderPaths bs cs = .lt → orderPaths as cs = .lt
  | [], _, _ :: _, _, _ => by rw [orderPaths]
  | [], [], [], first, _ => by simp [orderPaths] at first
  | [], _ :: _, [], _, second => by simp [orderPaths] at second
  | _ :: _, [], _, first, _ => by simp [orderPaths] at first
  | _ :: _, _ :: _, [], _, second => by simp [orderPaths] at second
  | a :: as, b :: bs, c :: cs, first, second => by
      rw [orderPaths] at first second ⊢
      exact then_lt_trans eq_of_orderSteps (orderSteps_lt_trans a b c)
        (orderPaths_lt_trans as bs cs) first second

theorem orderSteps_lt_trans : (as bs cs : List Step) →
    orderSteps as bs = .lt → orderSteps bs cs = .lt → orderSteps as cs = .lt
  | [], _, _ :: _, _, _ => by rw [orderSteps]
  | [], [], [], first, _ => by simp [orderSteps] at first
  | [], _ :: _, [], _, second => by simp [orderSteps] at second
  | _ :: _, [], _, first, _ => by simp [orderSteps] at first
  | _ :: _, _ :: _, [], _, second => by simp [orderSteps] at second
  | a :: as, b :: bs, c :: cs, first, second => by
      rw [orderSteps] at first second ⊢
      exact then_lt_trans eq_of_order (order_lt_trans a b c) (orderSteps_lt_trans as bs cs)
        first second

end

instance : Std.TransOrd Step := transCmp_of_lt order_swap eq_of_order order_lt_trans

end Step

/-! ## Call sequences -/

namespace Path

mutual

/-- The call sequences of a step. -/
def stepLanguage : Step → Language Invocation
  | .block calls => {calls}
  | .nested paths => languageOfAny paths

/-- The call sequences of any one of some paths. -/
def languageOfAny : List (List Step) → Language Invocation
  | [] => 0
  | path :: rest => language path + languageOfAny rest

/-- The call sequences of a path. -/
def language : List Step → Language Invocation
  | [] => 1
  | step :: rest => stepLanguage step * language rest

end

mutual

/-- Whether every nested step has a path, inside a step. -/
def StepPassable : Step → Prop
  | .block _ => True
  | .nested paths => paths ≠ [] ∧ AllPassable paths

/-- Whether every nested step has a path, inside some paths. -/
def AllPassable : List (List Step) → Prop
  | [] => True
  | path :: rest => Passable path ∧ AllPassable rest

/-- Whether every nested step has a path, inside a path. -/
def Passable : List Step → Prop
  | [] => True
  | step :: rest => StepPassable step ∧ Passable rest

end

theorem mem_languageOfAny {s : List Invocation} {paths : List Path} :
    s ∈ languageOfAny paths ↔ ∃ path ∈ paths, s ∈ language path := by
  induction paths with
  | nil => simp [languageOfAny]
  | cons path rest ih => simp [languageOfAny, Language.mem_add, ih]

theorem allPassable_iff {paths : List Path} : AllPassable paths ↔ ∀ path ∈ paths, Passable path := by
  induction paths with
  | nil => simp [AllPassable]
  | cons path rest ih => simp [AllPassable, ih]

theorem passable_iff {path : Path} : Passable path ↔ ∀ step ∈ path, StepPassable step := by
  induction path with
  | nil => simp [Passable]
  | cons step rest ih => simp [Passable, ih]

theorem language_eq_prod (path : Path) : language path = (path.map stepLanguage).prod := by
  induction path with
  | nil => rw [language, List.map_nil, List.prod_nil]
  | cons step rest ih => rw [language, List.map_cons, List.prod_cons, ih]

theorem languageOfAny_sortUnique (paths : List Path) :
    languageOfAny (sortUnique paths) = languageOfAny paths := by
  ext s
  simp only [mem_languageOfAny, mem_sortUnique]

theorem allPassable_sortUnique {paths : List Path} (h : AllPassable paths) :
    AllPassable (sortUnique paths) :=
  allPassable_iff.2 fun path mem => allPassable_iff.1 h path (mem_sortUnique.1 mem)

end Path

end CallSearch
