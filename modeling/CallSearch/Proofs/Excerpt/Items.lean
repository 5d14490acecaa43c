/-
# CallSearch.Proofs.Excerpt.Items — the items of excerpts

The bodies of excerpts are trees of items that hold bodies themselves, so what holds of all
items is shown from the items of a body to the call that holds it (`leaves_induction`).

* the order of items tells unequal items apart and is transitive, so trees of items have a
  canonical form;
* the calls of a tree are those of the items in it, at any depth: `mem_callsOfTree`.
-/
import CallSearch.Excerpt
import CallSearch.Proofs.Tree.Normal

namespace CallSearch

set_option autoImplicit false

namespace ExcerptItem

/-! ## From the items of a body to its call -/

mutual

/-- What holds of a call if it holds of the items of its body holds of every item. -/
theorem leaves_induction {motive : ExcerptItem → Prop}
    (invoked : ∀ site, motive (.invoked site))
    (call : ∀ site context depth body, (∀ item ∈ body.leaves, motive item) →
      motive (.call site context depth body)) : (item : ExcerptItem) → motive item
  | .invoked site => invoked site
  | .call site context depth body =>
      call site context depth body (leaves_induction_tree invoked call body)

theorem leaves_induction_tree {motive : ExcerptItem → Prop}
    (invoked : ∀ site, motive (.invoked site))
    (call : ∀ site context depth body, (∀ item ∈ body.leaves, motive item) →
      motive (.call site context depth body)) :
    (tree : Tree ExcerptItem) → ∀ item ∈ tree.leaves, motive item
  | .leaf item, other, mem => by
      rw [Tree.leaves, List.mem_singleton] at mem
      rw [mem]
      exact leaves_induction invoked call item
  | .seq parts, other, mem => by
      rw [Tree.leaves] at mem
      exact leaves_induction_trees invoked call parts other mem
  | .alt parts, other, mem => by
      rw [Tree.leaves] at mem
      exact leaves_induction_trees invoked call parts other mem

theorem leaves_induction_trees {motive : ExcerptItem → Prop}
    (invoked : ∀ site, motive (.invoked site))
    (call : ∀ site context depth body, (∀ item ∈ body.leaves, motive item) →
      motive (.call site context depth body)) :
    (parts : List (Tree ExcerptItem)) → ∀ item ∈ Tree.leavesOfAll parts, motive item
  | [], other, mem => by simp [Tree.leavesOfAll] at mem
  | part :: rest, other, mem => by
      rw [Tree.leavesOfAll, List.mem_append] at mem
      rcases mem with mem | mem
      · exact leaves_induction_tree invoked call part other mem
      · exact leaves_induction_trees invoked call rest other mem

end

/-! ## The order of items -/

mutual

theorem order_self : (item : ExcerptItem) → item.order item = .eq
  | .invoked site => by
      rw [order]
      exact Std.ReflCmp.compare_self
  | .call site context depth body => by
      have sites : compare site site = .eq := Std.ReflCmp.compare_self
      have contexts : compare context context = .eq := Std.ReflCmp.compare_self
      have depths : compare depth depth = .eq := Std.ReflCmp.compare_self
      rw [order, sites, contexts, depths, orderTree_self body]
      rfl

theorem orderTree_self : (tree : Tree ExcerptItem) → orderTree tree tree = .eq
  | .leaf item => by rw [orderTree, order_self item]
  | .seq parts => by rw [orderTree, orderTrees_self parts]
  | .alt parts => by rw [orderTree, orderTrees_self parts]

theorem orderTrees_self : (parts : List (Tree ExcerptItem)) → orderTrees parts parts = .eq
  | [] => by rw [orderTrees]
  | part :: rest => by
      rw [orderTrees, orderTree_self part, orderTrees_self rest]
      rfl

end

mutual

theorem eq_of_order : (a b : ExcerptItem) → a.order b = .eq → a = b
  | .invoked site, .invoked site', h => by
      rw [order] at h
      rw [Std.LawfulEqOrd.eq_of_compare h]
  | .call site context depth body, .call site' context' depth' body', h => by
      rw [order, Ordering.then_eq_eq, Ordering.then_eq_eq, Ordering.then_eq_eq] at h
      obtain ⟨sites, contexts, depths, bodies⟩ := h
      rw [Std.LawfulEqOrd.eq_of_compare sites, Std.LawfulEqOrd.eq_of_compare contexts,
        Std.LawfulEqOrd.eq_of_compare depths, eq_of_orderTree body body' bodies]
  | .invoked _, .call .., h => by simp [order] at h
  | .call .., .invoked _, h => by simp [order] at h

theorem eq_of_orderTree : (a b : Tree ExcerptItem) → orderTree a b = .eq → a = b
  | .leaf a, .leaf b, h => by
      rw [orderTree] at h
      rw [eq_of_order a b h]
  | .seq as, .seq bs, h => by
      rw [orderTree] at h
      rw [eq_of_orderTrees as bs h]
  | .alt as, .alt bs, h => by
      rw [orderTree] at h
      rw [eq_of_orderTrees as bs h]
  | .leaf _, .seq _, h => by simp [orderTree] at h
  | .leaf _, .alt _, h => by simp [orderTree] at h
  | .seq _, .leaf _, h => by simp [orderTree] at h
  | .seq _, .alt _, h => by simp [orderTree] at h
  | .alt _, .leaf _, h => by simp [orderTree] at h
  | .alt _, .seq _, h => by simp [orderTree] at h

theorem eq_of_orderTrees : (as bs : List (Tree ExcerptItem)) → orderTrees as bs = .eq → as = bs
  | [], [], _ => rfl
  | [], _ :: _, h => by simp [orderTrees] at h
  | _ :: _, [], h => by simp [orderTrees] at h
  | a :: as, b :: bs, h => by
      rw [orderTrees, Ordering.then_eq_eq] at h
      rw [eq_of_orderTree a b h.1, eq_of_orderTrees as bs h.2]

end

instance : Std.LawfulEqOrd ExcerptItem where
  compare_self {item} := order_self item
  eq_of_compare {a b} h := eq_of_order a b h

mutual

/-- Bodies compare as trees do. -/
theorem orderTree_eq : (a b : Tree ExcerptItem) → orderTree a b = a.order b
  | .leaf a, b => by
      cases b with
      | leaf b =>
          rw [orderTree, Tree.order]
          rfl
      | seq | alt => rw [orderTree, Tree.order]
  | .seq as, b => by
      cases b with
      | seq bs => rw [orderTree, Tree.order, orderTrees_eq as bs]
      | leaf | alt => rw [orderTree, Tree.order]
  | .alt as, b => by
      cases b with
      | alt bs => rw [orderTree, Tree.order, orderTrees_eq as bs]
      | leaf | seq => rw [orderTree, Tree.order]

theorem orderTrees_eq : (as bs : List (Tree ExcerptItem)) → orderTrees as bs = Tree.orderAll as bs
  | [], bs => by cases bs <;> rw [orderTrees, Tree.orderAll]
  | a :: as, bs => by
      cases bs with
      | nil => rw [orderTrees, Tree.orderAll]
      | cons b bs => rw [orderTrees, Tree.orderAll, orderTree_eq a b, orderTrees_eq as bs]

end

theorem order_swap (a : ExcerptItem) : ∀ b, order b a = (order a b).swap := by
  induction a using leaves_induction with
  | invoked site =>
      intro b
      cases b with
      | invoked site' =>
          rw [order, order]
          exact Std.OrientedCmp.eq_swap
      | call => rw [order, order]; rfl
  | call site context depth body ih =>
      intro b
      cases b with
      | invoked => rw [order, order]; rfl
      | call site' context' depth' body' =>
          have sites : compare site' site = (compare site site').swap := Std.OrientedCmp.eq_swap
          have contexts : compare context' context = (compare context context').swap :=
            Std.OrientedCmp.eq_swap
          have depths : compare depth' depth = (compare depth depth').swap :=
            Std.OrientedCmp.eq_swap
          rw [order, order, orderTree_eq, orderTree_eq, Tree.order_swap body body' ih, sites,
            contexts, depths, Ordering.swap_then, Ordering.swap_then, Ordering.swap_then]

theorem order_lt_trans (a : ExcerptItem) :
    ∀ b c, order a b = .lt → order b c = .lt → order a c = .lt := by
  induction a using leaves_induction with
  | invoked site =>
      intro b c first second
      cases c with
      | call => rw [order]
      | invoked site'' =>
          cases b with
          | call => simp [order] at second
          | invoked site' =>
              rw [order] at first second ⊢
              exact Std.TransCmp.lt_trans first second
  | call site context depth body ih =>
      intro b c first second
      cases b with
      | invoked => simp [order] at first
      | call site' context' depth' body' =>
          cases c with
          | invoked => simp [order] at second
          | call site'' context'' depth'' body'' =>
              rw [order, orderTree_eq] at first second ⊢
              refine then_lt_trans (fun _ _ => Std.LawfulEqOrd.eq_of_compare) Std.TransCmp.lt_trans
                (then_lt_trans (fun _ _ => Std.LawfulEqOrd.eq_of_compare) Std.TransCmp.lt_trans
                  (then_lt_trans (fun _ _ => Std.LawfulEqOrd.eq_of_compare) Std.TransCmp.lt_trans
                    ?_)) first second
              exact Tree.order_lt_trans body body' body'' ih

instance : Std.TransOrd ExcerptItem :=
  transCmp_of_lt (fun a b => order_swap a b) eq_of_order order_lt_trans

/-! ## Items at any depth -/

mutual

/-- An item and all items below it. -/
def items : ExcerptItem → List ExcerptItem
  | .invoked site => [.invoked site]
  | .call site context depth body => .call site context depth body :: itemsOfTree body

/-- The items of a tree, at any depth. -/
def itemsOfTree : Tree ExcerptItem → List ExcerptItem
  | .leaf item => item.items
  | .seq parts => itemsOfTrees parts
  | .alt parts => itemsOfTrees parts

/-- The items of trees, at any depth. -/
def itemsOfTrees : List (Tree ExcerptItem) → List ExcerptItem
  | [] => []
  | part :: rest => itemsOfTree part ++ itemsOfTrees rest

end

mutual

theorem itemsOfTree_eq : (tree : Tree ExcerptItem) →
    itemsOfTree tree = tree.leaves.flatMap items
  | .leaf item => by simp [itemsOfTree, Tree.leaves]
  | .seq parts => by rw [itemsOfTree, Tree.leaves, itemsOfTrees_eq parts]
  | .alt parts => by rw [itemsOfTree, Tree.leaves, itemsOfTrees_eq parts]

theorem itemsOfTrees_eq : (parts : List (Tree ExcerptItem)) →
    itemsOfTrees parts = (Tree.leavesOfAll parts).flatMap items
  | [] => by simp [itemsOfTrees, Tree.leavesOfAll]
  | part :: rest => by
      rw [itemsOfTrees, Tree.leavesOfAll, List.flatMap_append, itemsOfTree_eq part,
        itemsOfTrees_eq rest]

end

theorem mem_itemsOfTree {tree : Tree ExcerptItem} {item : ExcerptItem} :
    item ∈ itemsOfTree tree ↔ ∃ leaf ∈ tree.leaves, item ∈ leaf.items := by
  rw [itemsOfTree_eq, List.mem_flatMap]

mutual

theorem callsOfTree_eq : (tree : Tree ExcerptItem) →
    callsOfTree tree = tree.leaves.flatMap calls
  | .leaf item => by simp [callsOfTree, Tree.leaves]
  | .seq parts => by rw [callsOfTree, Tree.leaves, callsOfTrees_eq parts]
  | .alt parts => by rw [callsOfTree, Tree.leaves, callsOfTrees_eq parts]

theorem callsOfTrees_eq : (parts : List (Tree ExcerptItem)) →
    callsOfTrees parts = (Tree.leavesOfAll parts).flatMap calls
  | [] => by simp [callsOfTrees, Tree.leavesOfAll]
  | part :: rest => by
      rw [callsOfTrees, Tree.leavesOfAll, List.flatMap_append, callsOfTree_eq part,
        callsOfTrees_eq rest]

end

/-- The call of an item. -/
def invocation : ExcerptItem → Invocation
  | .invoked site => site
  | .call site _ _ _ => site

theorem calls_eq (item : ExcerptItem) : item.calls = item.items.map invocation := by
  induction item using leaves_induction with
  | invoked site => rw [calls, items, List.map_singleton, invocation]
  | call site context depth body ih =>
      rw [calls, items, List.map_cons, invocation, callsOfTree_eq, itemsOfTree_eq, List.map_flatMap,
        List.flatMap_congr ih]

theorem mem_callsOfTree {tree : Tree ExcerptItem} {call : Invocation} :
    call ∈ callsOfTree tree ↔ ∃ item ∈ itemsOfTree tree, item.invocation = call := by
  rw [callsOfTree_eq, itemsOfTree_eq, List.flatMap_congr fun leaf _ => calls_eq leaf,
    ← List.map_flatMap, List.mem_map]

end ExcerptItem

end CallSearch
