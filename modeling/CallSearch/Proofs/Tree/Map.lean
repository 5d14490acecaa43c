/-
# CallSearch.Proofs.Tree.Map — renaming the leaves of a tree

The canonical form of a tree depends on its leaves by their order alone: a map that
compares leaves as they compare themselves may be applied before or after
normalizing (`normalize_map`).  Normalizing adds no leaf.
-/
import CallSearch.Proofs.Sorted
import CallSearch.Proofs.Tree.Expand

namespace CallSearch.Tree

set_option autoImplicit false
set_option linter.unusedSectionVars false

variable {α β γ : Type}

/-! ## Leaves of the canonical form -/

theorem mem_leaves_of_chain {parts : List (Tree α)} {x : α} (mem : x ∈ (chain parts).leaves) :
    x ∈ leavesOfAll parts := by
  rw [chain] at mem
  split at mem
  · simp [leaves, leavesOfAll] at mem
  · next found => rwa [leaves_single seq (by rw [leaves]), leavesOfAll_spliceSeq found] at mem

section

variable [Ord α]

theorem mem_leaves_of_choice {parts : List (Tree α)} {x : α} (mem : x ∈ (choice parts).leaves) :
    x ∈ leavesOfAll parts := by
  rw [choice, leaves_single alt (by rw [leaves]), mem_leavesOfAll] at mem
  obtain ⟨part, listed, here⟩ := mem
  have spliced := (List.mergeSort_perm _ _).mem_iff.1 (mem_of_mem_dropRepeats listed)
  exact leavesOfAll_spliceAlt parts ▸ mem_leavesOfAll.2 ⟨part, spliced, here⟩

mutual

/-- Normalizing adds no leaf. -/
theorem mem_leaves_of_normalize {x : α} : {tree : Tree α} → x ∈ tree.normalize.leaves →
    x ∈ tree.leaves
  | .leaf _, mem => by rwa [normalize] at mem
  | .seq parts, mem => by
      rw [normalize] at mem
      rw [leaves]
      exact mem_leavesOfAll_of_normalizeAll (mem_leaves_of_chain mem)
  | .alt parts, mem => by
      rw [normalize] at mem
      rw [leaves]
      exact mem_leavesOfAll_of_normalizeAll (mem_leaves_of_choice mem)

theorem mem_leavesOfAll_of_normalizeAll {x : α} : {parts : List (Tree α)} →
    x ∈ leavesOfAll (normalizeAll parts) → x ∈ leavesOfAll parts
  | [], mem => by rwa [normalizeAll] at mem
  | part :: rest, mem => by
      rw [normalizeAll, leavesOfAll, List.mem_append] at mem
      rw [leavesOfAll, List.mem_append]
      exact mem.imp mem_leaves_of_normalize mem_leavesOfAll_of_normalizeAll

end

end

/-! ## Maps and substitutions -/

theorem flatMapAll_eq_map (f : α → Tree β) (parts : List (Tree α)) :
    flatMapAll f parts = parts.map (flatMap f) := by
  induction parts with
  | nil => rw [flatMapAll, List.map_nil]
  | cons part rest ih => rw [flatMapAll, ih, List.map_cons]

@[simp]
theorem map_leaf (f : α → β) (item : α) : (leaf item).map f = leaf (f item) := by
  rw [map, flatMap]

@[simp]
theorem map_seq (f : α → β) (parts : List (Tree α)) : (seq parts).map f = seq (parts.map (map f)) := by
  rw [map, flatMap, flatMapAll_eq_map]
  rfl

@[simp]
theorem map_alt (f : α → β) (parts : List (Tree α)) : (alt parts).map f = alt (parts.map (map f)) := by
  rw [map, flatMap, flatMapAll_eq_map]
  rfl

mutual

theorem leaves_map (f : α → β) : (tree : Tree α) → (tree.map f).leaves = tree.leaves.map f
  | .leaf item => by simp [leaves]
  | .seq parts => by rw [map_seq, leaves, leaves, leavesOfAll_map f parts]
  | .alt parts => by rw [map_alt, leaves, leaves, leavesOfAll_map f parts]

theorem leavesOfAll_map (f : α → β) : (parts : List (Tree α)) →
    leavesOfAll (parts.map (map f)) = (leavesOfAll parts).map f
  | [] => by simp [leavesOfAll]
  | part :: rest => by
      rw [List.map_cons, leavesOfAll, leavesOfAll, List.map_append, leaves_map f part,
        leavesOfAll_map f rest]

end

mutual

theorem flatMap_congr {f g : α → Tree β} : {tree : Tree α} →
    (∀ item ∈ tree.leaves, f item = g item) → tree.flatMap f = tree.flatMap g
  | .leaf item, same => by
      rw [flatMap, flatMap]
      exact same item (by simp [leaves])
  | .seq parts, same => by
      rw [flatMap, flatMap, flatMapAll_congr (by simpa only [leaves] using same)]
  | .alt parts, same => by
      rw [flatMap, flatMap, flatMapAll_congr (by simpa only [leaves] using same)]

theorem flatMapAll_congr {f g : α → Tree β} : {parts : List (Tree α)} →
    (∀ item ∈ leavesOfAll parts, f item = g item) → flatMapAll f parts = flatMapAll g parts
  | [], _ => by rw [flatMapAll, flatMapAll]
  | part :: rest, same => by
      simp only [leavesOfAll, List.mem_append] at same
      rw [flatMapAll, flatMapAll, flatMap_congr fun item mem => same item (Or.inl mem),
        flatMapAll_congr fun item mem => same item (Or.inr mem)]

end

mutual

/-- Where every leaf is replaced by a tree that is known up to a map, so is the whole tree. -/
theorem Expands.map_eq {f : β → γ} {g : α → Tree γ} : {tree : Tree α} → {result : Tree β} →
    Expands (fun item part => part.map f = g item) tree result → result.map f = tree.flatMap g
  | _, _, .leaf same => by rw [flatMap, same]
  | _, _, .seq all => by rw [map_seq, flatMap, all.map_eq]
  | _, _, .alt all => by rw [map_alt, flatMap, all.map_eq]

theorem ExpandsAll.map_eq {f : β → γ} {g : α → Tree γ} : {parts : List (Tree α)} →
    {others : List (Tree β)} → ExpandsAll (fun item part => part.map f = g item) parts others →
      others.map (map f) = flatMapAll g parts
  | _, _, .nil => by rw [List.map_nil, flatMapAll]
  | _, _, .cons first rest => by rw [List.map_cons, flatMapAll, first.map_eq, rest.map_eq]

end

mutual

/-- Where a known tree stands in the place of every leaf, the whole tree is known. -/
theorem Expands.eq_flatMap {g : α → Tree β} : {tree : Tree α} → {result : Tree β} →
    Expands (fun item part => part = g item) tree result → result = tree.flatMap g
  | _, _, .leaf same => by rw [flatMap, same]
  | _, _, .seq all => by rw [flatMap, all.eq_flatMapAll]
  | _, _, .alt all => by rw [flatMap, all.eq_flatMapAll]

theorem ExpandsAll.eq_flatMapAll {g : α → Tree β} : {parts : List (Tree α)} →
    {others : List (Tree β)} → ExpandsAll (fun item part => part = g item) parts others →
      others = flatMapAll g parts
  | _, _, .nil => by rw [flatMapAll]
  | _, _, .cons first rest => by rw [flatMapAll, first.eq_flatMap, rest.eq_flatMapAll]

end

/-! ## Canonical forms of renamed trees -/

theorem map_single {f : α → β} {wrap : List (Tree α) → Tree α} {wrap' : List (Tree β) → Tree β}
    (wrapped : ∀ parts, (wrap parts).map f = wrap' (parts.map (map f))) (parts : List (Tree α)) :
    (single wrap parts).map f = single wrap' (parts.map (map f)) := by
  match parts with
  | [] => exact wrapped []
  | [part] => rfl
  | part :: other :: rest => exact wrapped (part :: other :: rest)

theorem segments_map (f : α → β) (part : Tree α) :
    (part.map f).segments = part.segments.map (List.map (map f)) := by
  match part with
  | .leaf item | .seq inner | .alt [] | .alt (first :: rest) => simp

theorem spliceSeq_map (f : α → β) (parts : List (Tree α)) :
    spliceSeq (parts.map (map f)) = (spliceSeq parts).map (List.map (map f)) := by
  induction parts with
  | nil => rfl
  | cons part rest ih =>
      rw [List.map_cons, spliceSeq_cons, spliceSeq_cons, segments_map, ih]
      cases part.segments <;> cases spliceSeq rest <;> simp

theorem map_chain (f : α → β) (parts : List (Tree α)) :
    (chain parts).map f = chain (parts.map (map f)) := by
  rw [chain, chain, spliceSeq_map]
  cases spliceSeq parts with
  | none => simp
  | some flat => exact map_single (map_seq f) flat

theorem branches_map (f : α → β) (part : Tree α) :
    (part.map f).branches = part.branches.map (map f) := by
  cases part <;> simp

theorem spliceAlt_map (f : α → β) (parts : List (Tree α)) :
    spliceAlt (parts.map (map f)) = (spliceAlt parts).map (map f) := by
  rw [spliceAlt_eq, spliceAlt_eq, List.flatMap_map, List.map_flatMap]
  simp only [branches_map]

section Order

variable [Ord α] [Ord β] {f : α → β} {P : α → Prop}
  (same : ∀ a, P a → ∀ b, P b → compare (f a) (f b) = compare a b)

include same

mutual

theorem order_map : (a b : Tree α) → (∀ x ∈ a.leaves, P x) → (∀ x ∈ b.leaves, P x) →
    (a.map f).order (b.map f) = a.order b
  | .leaf a, .leaf b, ha, hb => by
      rw [map_leaf, map_leaf, order, order]
      exact same a (ha a (by simp [leaves])) b (hb b (by simp [leaves]))
  | .seq as, .seq bs, ha, hb => by
      rw [map_seq, map_seq, order, order]
      exact orderAll_map as bs (by simpa only [leaves] using ha) (by simpa only [leaves] using hb)
  | .alt as, .alt bs, ha, hb => by
      rw [map_alt, map_alt, order, order]
      exact orderAll_map as bs (by simpa only [leaves] using ha) (by simpa only [leaves] using hb)
  | .leaf _, .seq _, _, _ => by simp [order]
  | .leaf _, .alt _, _, _ => by simp [order]
  | .seq _, .leaf _, _, _ => by simp [order]
  | .seq _, .alt _, _, _ => by simp [order]
  | .alt _, .leaf _, _, _ => by simp [order]
  | .alt _, .seq _, _, _ => by simp [order]

theorem orderAll_map : (as bs : List (Tree α)) → (∀ x ∈ leavesOfAll as, P x) →
    (∀ x ∈ leavesOfAll bs, P x) → orderAll (as.map (map f)) (bs.map (map f)) = orderAll as bs
  | [], [], _, _ => rfl
  | [], _ :: _, _, _ => by simp [orderAll]
  | _ :: _, [], _, _ => by simp [orderAll]
  | a :: as, b :: bs, ha, hb => by
      simp only [leavesOfAll, List.mem_append] at ha hb
      rw [List.map_cons, List.map_cons, orderAll, orderAll,
        order_map a b (fun x mem => ha x (Or.inl mem)) fun x mem => hb x (Or.inl mem),
        orderAll_map as bs (fun x mem => ha x (Or.inr mem)) fun x mem => hb x (Or.inr mem)]

end

theorem map_choice {parts : List (Tree α)} (all : ∀ x ∈ leavesOfAll parts, P x) :
    (choice parts).map f = choice (parts.map (map f)) := by
  have below : ∀ part ∈ spliceAlt parts, ∀ x ∈ part.leaves, P x := fun part mem x here =>
    all x (leavesOfAll_spliceAlt parts ▸ mem_leavesOfAll.2 ⟨part, mem, here⟩)
  rw [choice, choice, spliceAlt_map, map_single (map_alt f), map_sortUnique fun a memA b memB =>
    order_map same a b (below a memA) (below b memB)]

mutual

/-- Leaves may be renamed before normalizing or after, where the order of leaves stays the
same. -/
theorem normalize_map : {tree : Tree α} → (∀ x ∈ tree.leaves, P x) →
    (tree.map f).normalize = tree.normalize.map f
  | .leaf item, _ => by rw [map_leaf, normalize, normalize, map_leaf]
  | .seq parts, all => by
      rw [leaves] at all
      rw [map_seq, normalize, normalize, map_chain, normalizeAll_map all]
  | .alt parts, all => by
      rw [leaves] at all
      rw [map_alt, normalize, normalize, normalizeAll_map all,
        map_choice same fun x mem => all x (mem_leavesOfAll_of_normalizeAll mem)]

theorem normalizeAll_map : {parts : List (Tree α)} → (∀ x ∈ leavesOfAll parts, P x) →
    normalizeAll (parts.map (map f)) = (normalizeAll parts).map (map f)
  | [], _ => by rw [List.map_nil, normalizeAll, normalizeAll, List.map_nil]
  | part :: rest, all => by
      simp only [leavesOfAll, List.mem_append] at all
      rw [List.map_cons, normalizeAll, normalizeAll, List.map_cons,
        normalize_map fun x mem => all x (Or.inl mem),
        normalizeAll_map fun x mem => all x (Or.inr mem)]

end

end Order

end CallSearch.Tree
