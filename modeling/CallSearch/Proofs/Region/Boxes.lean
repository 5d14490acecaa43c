/-
# CallSearch.Proofs.Region.Boxes — boxes are closed and lose no code

A level is cut into intervals one behind the other (`spanStart`).  An interval of more
than one region holds both ends of every jump with one end in it (`spanEnd_cases`),
so it can become a box, and the jumps outside it stay outside.

* `flat_boxed`: taking the boxes apart gives the regions back;
* `closed_boxed`: every jump of the boxed regions stays on its level.
-/
import CallSearch.Proofs.Region.Run
import Mathlib.Order.Monotone.Basic

namespace CallSearch.Region

set_option autoImplicit false

/-! ## Regions of code -/

theorem flat_ofCode (code : TypedCode) : flat (ofCode code) = code := by
  induction code with
  | nil => rfl
  | cons instruction code ih =>
      match instruction with
      | .control op => simp [ofCode, flat, flatOne, ih]
      | .invoke call =>
          rw [ofCode]
          split
          · next calls regions same =>
            rw [same, flat, flatOne] at ih
            rw [flat, flatOne, List.map_cons, List.cons_append, ih]
          · simp [flat, flatOne, ih]

theorem box_not_mem_ofCode (code : TypedCode) (inner : List Region) :
    .box inner ∉ ofCode code := by
  induction code with
  | nil => exact List.not_mem_nil
  | cons instruction code ih =>
      match instruction with
      | .control op => simp [ofCode, ih]
      | .invoke call =>
          rw [ofCode]
          split
          · next calls regions same =>
            rw [same] at ih
            simpa using ih
          · simpa using ih

theorem flatOne_collapse (regions : List Region) : flatOne (collapse regions) = flat regions := by
  unfold collapse
  split
  · simp [flat]
  · rfl

theorem flat_map (f : List Region → Region) (parts : List (List Region))
    (same : ∀ part ∈ parts, flatOne (f part) = flat part) :
    flat (parts.map f) = flat parts.flatten := by
  induction parts with
  | nil => rfl
  | cons part parts ih =>
      rw [List.map_cons, flat, List.flatten_cons, flat_append, same part List.mem_cons_self,
        ih fun other mem => same other (List.mem_cons_of_mem _ mem)]

theorem control_mem_flat {op : Control} {level : List Region}
    (unboxed : ∀ inner, .box inner ∉ level) :
    .control op ∈ flat level ↔ .control op ∈ level := by
  rw [mem_flat]
  constructor
  · rintro ⟨region, mem, here⟩
    match region with
    | .block calls => simp [flatOne] at here
    | .box inner => exact absurd mem (unboxed inner)
    | .control other =>
        simp only [flatOne, List.mem_singleton, Instruction.control.injEq] at here
        exact here ▸ mem
  · intro mem
    exact ⟨_, mem, List.mem_singleton.2 rfl⟩

/-! ## Links -/

theorem labelIndex?_eq_some {name : String} {level : List Region} {index : Nat}
    (h : labelIndex? name level = some index) :
    level[index]? = some (.control (.label name)) := by
  induction level generalizing index with
  | nil => cases h
  | cons region rest ih =>
      rw [labelIndex?] at h
      split at h
      · next found =>
        cases h
        simpa using ih found
      · split at h
        · next here =>
          cases h
          unfold isLabel at here
          split at here
          · simpa using here
          · cases here
        · cases h

theorem exists_labelIndex? {name : String} {level : List Region}
    (h : .control (.label name) ∈ level) : ∃ index, labelIndex? name level = some index := by
  induction level with
  | nil => cases h
  | cons region rest ih =>
      rw [labelIndex?]
      cases found : labelIndex? name rest with
      | some index => exact ⟨index + 1, rfl⟩
      | none =>
          rcases List.mem_cons.1 h with rfl | h
          · exact ⟨0, by simp [isLabel]⟩
          · obtain ⟨index, same⟩ := ih h
            rw [found] at same
            cases same

theorem mem_jumps {level : List Region} {region : Region} {index : Nat} :
    index ∈ jumps level region ↔
      ∃ target ∈ region.targets, labelIndex? target level = some index := by
  simp [jumps]

theorem getD_links {level : List Region} {index : Nat} {region : Region}
    (here : level[index]? = some region) :
    (links level).getD index [] = jumps level region ++
      (((level.map (jumps level)).zipIdx.filter fun entry =>
        entry.1.contains index).map (·.2)) := by
  simp [links, List.getElem?_zipIdx, here]

theorem length_links (level : List Region) : (links level).length = level.length := by
  simp [links]

/-- A jump links its place to the label. -/
theorem mem_links_of_jump {level : List Region} {i j : Nat} {region : Region}
    (here : level[i]? = some region) (jump : j ∈ jumps level region) :
    j ∈ (links level).getD i [] := by
  rw [getD_links here]
  exact List.mem_append_left _ jump

/-- A jump links the label to its place. -/
theorem mem_links_of_jump_to {level : List Region} {i j : Nat} {region other : Region}
    (here : level[i]? = some region) (there : level[j]? = some other)
    (jump : i ∈ jumps level other) : j ∈ (links level).getD i [] := by
  rw [getD_links here]
  refine List.mem_append_right _ (List.mem_map.2 ⟨(jumps level other, j), ?_, rfl⟩)
  rw [List.mem_filter]
  exact ⟨by simp [List.mk_mem_zipIdx_iff_getElem?, there], List.contains_iff_mem.2 jump⟩

/-! ## Spans -/

theorem le_foldl_max (ends : List Nat) (reach : Nat) :
    reach ≤ ends.foldl max reach ∧ ∀ j ∈ ends, j ≤ ends.foldl max reach := by
  induction ends generalizing reach with
  | nil => simp
  | cons first ends ih =>
      obtain ⟨above, all⟩ := ih (max reach first)
      rw [List.foldl_cons]
      refine ⟨by omega, fun j mem => ?_⟩
      rcases List.mem_cons.1 mem with rfl | mem
      · omega
      · exact all j mem

/-- What a grown interval is: closed under links and not the whole level. -/
theorem growSpan_eq_some {links : List (List Nat)} {start steps reach stop result : Nat}
    (inside : ∀ i, start ≤ i → i < stop - 1 → ∀ j ∈ links.getD i [], start ≤ j ∧ j ≤ reach)
    (proper : start < stop) (h : growSpan links start steps reach stop = some result) :
    stop ≤ result ∧ result < stop + steps ∧ (start, result) ≠ (0, links.length) ∧
      ∀ i, start ≤ i → i < result → ∀ j ∈ links.getD i [], start ≤ j ∧ j < result := by
  induction steps generalizing reach stop with
  | zero => cases h
  | succ steps ih =>
      rw [growSpan] at h
      split at h
      · cases h
      · next notBefore =>
        obtain ⟨above, all⟩ := le_foldl_max (links.getD (stop - 1) []) reach
        -- With its last position the interval is still linked to `reach` at most.
        have inside' : ∀ i, start ≤ i → i < stop → ∀ j ∈ links.getD i [],
            start ≤ j ∧ j ≤ (links.getD (stop - 1) []).foldl max reach := by
          intro i low high j mem
          by_cases last : i = stop - 1
          · subst last
            refine ⟨?_, all j mem⟩
            simp only [List.any_eq_true, decide_eq_true_eq, not_exists, not_and,
              Nat.not_lt] at notBefore
            exact notBefore j mem
          · obtain ⟨low', high'⟩ := inside i low (by omega) j mem
            exact ⟨low', by omega⟩
        dsimp only at h
        split at h
        · next closed =>
          cases h
          simp only [Bool.and_eq_true, decide_eq_true_eq, bne_iff_ne] at closed
          refine ⟨Nat.le_refl _, by omega, closed.2, fun i low high j mem => ?_⟩
          obtain ⟨low', high'⟩ := inside' i low high j mem
          exact ⟨low', by omega⟩
        · obtain ⟨low, high, rest⟩ := ih (by simpa using inside') (by omega) h
          exact ⟨by omega, by omega, rest⟩

section Spans

variable (links : List (List Nat))

/-- An interval is a single position, or closed under links and not the whole level. -/
theorem spanEnd_cases (start : Nat) :
    spanEnd links start = start + 1 ∨
      (start + 1 < spanEnd links start ∧ spanEnd links start ≤ links.length ∧
        (start, spanEnd links start) ≠ (0, links.length) ∧
        ∀ i, start ≤ i → i < spanEnd links start → ∀ j ∈ links.getD i [],
          start ≤ j ∧ j < spanEnd links start) := by
  unfold spanEnd
  cases found : growSpan links start (links.length - start) start (start + 1) with
  | none => exact Or.inl rfl
  | some result =>
      obtain ⟨low, high, proper, closed⟩ :=
        growSpan_eq_some (fun i low high => by omega) (by omega) found
      rw [Option.getD_some]
      by_cases single : result = start + 1
      · exact Or.inl single
      · exact Or.inr ⟨by omega, by omega, proper, closed⟩

theorem lt_spanEnd (start : Nat) : start < spanEnd links start := by
  rcases spanEnd_cases links start with h | ⟨h, -⟩ <;> omega

theorem spanEnd_le {start : Nat} (inside : start < links.length) :
    spanEnd links start ≤ links.length := by
  rcases spanEnd_cases links start with h | ⟨-, h, -⟩ <;> omega

/-- Where the intervals of a level start. -/
def spanStart (index : Nat) : Nat := (spanEnd links)^[index] 0

theorem spanStart_succ (index : Nat) :
    spanStart links (index + 1) = spanEnd links (spanStart links index) :=
  Function.iterate_succ_apply' _ _ _

theorem spanStart_strictMono : StrictMono (spanStart links) :=
  strictMono_nat_of_lt_succ fun index => by
    rw [spanStart_succ]
    exact lt_spanEnd links _

/-- Two intervals that meet are the same. -/
theorem spanStart_unique {a b i : Nat} (lowA : spanStart links a ≤ i)
    (highA : i < spanEnd links (spanStart links a)) (lowB : spanStart links b ≤ i)
    (highB : i < spanEnd links (spanStart links b)) : a = b := by
  have mono := (spanStart_strictMono links).monotone
  rw [← spanStart_succ] at highA highB
  rcases Nat.lt_trichotomy a b with less | same | more
  · have := mono (show a + 1 ≤ b from less)
    omega
  · exact same
  · have := mono (show b + 1 ≤ a from more)
    omega

/-- The regions of an interval. -/
def spanAt (level : List Region) (start : Nat) : List Region :=
  (level.drop start).take (spanEnd links start - start)

/-- The intervals stand one behind the other. -/
theorem getElem?_cutSizes (level : List Region) (steps first offset : Nat)
    (enough : links.length ≤ spanStart links first + steps) :
    (cutSizes (spanSizes links steps (spanStart links first))
        (level.drop (spanStart links first)))[offset]? =
      if spanStart links (first + offset) < links.length then
        some (spanAt links level (spanStart links (first + offset)))
      else none := by
  have mono := (spanStart_strictMono links).monotone
  induction steps generalizing first offset with
  | zero =>
      have := mono (Nat.le_add_right first offset)
      rw [spanSizes, cutSizes, List.getElem?_nil, if_neg (by omega)]
  | succ steps ih =>
      rw [spanSizes]
      split
      · next inside =>
        have further := lt_spanEnd links (spanStart links first)
        have behind : (level.drop (spanStart links first)).drop
            (spanEnd links (spanStart links first) - spanStart links first) =
              level.drop (spanStart links (first + 1)) := by
          rw [List.drop_drop, spanStart_succ]
          congr 1
          omega
        rw [cutSizes, behind, ← spanStart_succ]
        cases offset with
        | zero =>
            rw [List.getElem?_cons_zero, if_pos (by exact inside), spanStart_succ]
            rfl
        | succ offset =>
            rw [List.getElem?_cons_succ, ih (first + 1) offset (by rw [spanStart_succ]; omega),
              Nat.succ_add_eq_add_succ]
      · next outside =>
        have := mono (Nat.le_add_right first offset)
        rw [cutSizes, List.getElem?_nil, if_neg (by omega)]

theorem flatten_cutSizes {level : List Region} (size : level.length = links.length)
    (steps start : Nat) (enough : links.length ≤ start + steps) :
    (cutSizes (spanSizes links steps start) (level.drop start)).flatten = level.drop start := by
  induction steps generalizing start with
  | zero =>
      rw [List.drop_eq_nil_of_le (by omega)]
      rfl
  | succ steps ih =>
      rw [spanSizes]
      split
      · next inside =>
        have further := lt_spanEnd links start
        have behind : (level.drop start).drop (spanEnd links start - start) =
            level.drop (spanEnd links start) := by
          rw [List.drop_drop]
          congr 1
          omega
        rw [cutSizes, List.flatten_cons, behind, ih _ (by omega), ← behind, List.take_append_drop]
      · next outside =>
        rw [List.drop_eq_nil_of_le (by omega)]
        rfl

end Spans

theorem flatten_spans (level : List Region) : (spans level).flatten = level :=
  flatten_cutSizes (links level) (length_links level).symm level.length 0
    (by rw [length_links]; omega)

theorem getElem?_spans (level : List Region) (index : Nat) :
    (spans level)[index]? = if spanStart (links level) index < level.length then
      some (spanAt (links level) level (spanStart (links level) index)) else none := by
  have all := getElem?_cutSizes (links level) level level.length 0 index
    (by rw [length_links]; omega)
  rwa [length_links, Nat.zero_add] at all

theorem mem_spans {level part : List Region} :
    part ∈ spans level ↔ ∃ index, spanStart (links level) index < level.length ∧
      part = spanAt (links level) level (spanStart (links level) index) := by
  rw [List.mem_iff_getElem?]
  simp only [getElem?_spans, Option.ite_none_right_eq_some, Option.some.injEq, eq_comm (a := part)]

/-- Every position is in an interval. -/
theorem exists_span (links : List (List Nat)) (position : Nat) :
    ∃ index, spanStart links index ≤ position ∧
      position < spanEnd links (spanStart links index) := by
  have unbounded : position < spanStart links (position + 1) :=
    Nat.lt_of_lt_of_le (Nat.lt_succ_self _) ((spanStart_strictMono links).id_le _)
  generalize position + 1 = bound at unbounded
  induction bound with
  | zero => exact absurd unbounded (Nat.not_lt_zero _)
  | succ index ih =>
      by_cases before : position < spanStart links index
      · exact ih before
      · exact ⟨index, by omega, by rwa [spanStart_succ] at unbounded⟩

theorem mem_spanAt {links : List (List Nat)} {level : List Region} {start : Nat}
    {region : Region} : region ∈ spanAt links level start ↔
      ∃ i, start ≤ i ∧ i < spanEnd links start ∧ level[i]? = some region := by
  rw [spanAt, List.mem_iff_getElem?]
  simp only [List.getElem?_take, List.getElem?_drop]
  constructor
  · rintro ⟨i, h⟩
    split at h
    · exact ⟨start + i, by omega, by omega, h⟩
    · cases h
  · rintro ⟨i, low, high, h⟩
    refine ⟨i - start, ?_⟩
    rw [if_pos (by omega), Nat.add_sub_cancel' low]
    exact h

theorem length_spanAt {level : List Region} {start : Nat} (inside : start < level.length) :
    (spanAt (links level) level start).length = spanEnd (links level) start - start := by
  have size := length_links level
  have bound := spanEnd_le (links level) (size.symm ▸ inside)
  rw [spanAt, List.length_take, List.length_drop]
  omega

/-- An interval of one region. -/
theorem spanAt_eq_singleton {links : List (List Nat)} {level : List Region} {start : Nat}
    {region : Region} (single : spanEnd links start = start + 1)
    (here : level[start]? = some region) : spanAt links level start = [region] := by
  obtain ⟨inside, rfl⟩ := List.getElem?_eq_some_iff.1 here
  rw [spanAt, single, Nat.add_sub_cancel_left, List.take_one, List.head?_drop, here]
  rfl

/-! ## Boxes -/

/-- The regions of a boxed level: regions that stand for themselves, and boxes. -/
theorem mem_boxedTo_succ {depth : Nat} {level : List Region} {region : Region}
    (h : region ∈ boxedTo (depth + 1) level) :
    [region] ∈ spans level ∨ ∃ part ∈ spans level, 2 ≤ part.length ∧
      region = collapse (boxedTo depth part) := by
  rw [boxedTo, List.mem_map] at h
  obtain ⟨part, mem, same⟩ := h
  have some : part ≠ [] := by
    rintro rfl
    obtain ⟨index, inside, same⟩ := mem_spans.1 mem
    have size := congrArg List.length same
    rw [length_spanAt inside] at size
    have := lt_spanEnd (links level) (spanStart (links level) index)
    simp only [List.length_nil] at size
    omega
  split at same
  · exact Or.inl (same ▸ mem)
  · next several =>
    refine Or.inr ⟨part, mem, ?_, same.symm⟩
    match part, some, several with
    | [], some, _ => exact absurd rfl some
    | [region], _, several => exact absurd rfl (several region)
    | _ :: _ :: _, _, _ => simp

theorem flat_boxedTo (depth : Nat) (level : List Region) :
    flat (boxedTo depth level) = flat level := by
  induction depth generalizing level with
  | zero => rfl
  | succ depth ih =>
      rw [boxedTo, flat_map, flatten_spans]
      intro part _
      split
      · simp [flat]
      · rw [flatOne_collapse, ih]

/-- A level of several regions is not one box. -/
theorem two_le_length_boxedTo (depth : Nat) {level : List Region} (several : 2 ≤ level.length) :
    2 ≤ (boxedTo depth level).length := by
  cases depth with
  | zero => exact several
  | succ depth =>
      rw [boxedTo, List.length_map]
      have whole := flatten_spans level
      match cut : spans level with
      | [] =>
          rw [cut] at whole
          rw [← whole] at several
          exact several
      | [part] =>
          -- The only interval would be the whole level, which no interval of several regions is.
          rw [cut, List.flatten_singleton] at whole
          have mem : part ∈ spans level := cut ▸ List.mem_singleton.2 rfl
          obtain ⟨index, inside, same⟩ := mem_spans.1 mem
          have size := length_spanAt inside
          rw [← same, whole] at size
          have cases := spanEnd_cases (links level) (spanStart (links level) index)
          have bound := spanEnd_le (links level) ((length_links level).symm ▸ inside)
          rw [length_links] at cases bound
          have zero : spanStart (links level) index = 0 := by omega
          rw [zero] at cases size
          rcases cases with single | ⟨-, -, proper, -⟩
          · omega
          · exact absurd (by rw [size, Nat.sub_zero]) proper
      | _ :: _ :: _ => simp

theorem collapse_boxedTo {depth : Nat} {level : List Region} (several : 2 ≤ level.length) :
    collapse (boxedTo depth level) = .box (boxedTo depth level) := by
  have size := two_le_length_boxedTo depth several
  match boxedTo depth level, size with
  | _ :: _ :: _, _ => rfl

/-- A region that is an interval stays as it is. -/
theorem getElem?_boxedTo_of_single (depth : Nat) {level : List Region} {index : Nat}
    {region : Region} (here : level[spanStart (links level) index]? = some region)
    (single : spanEnd (links level) (spanStart (links level) index) =
      spanStart (links level) index + 1) :
    (boxedTo (depth + 1) level)[index]? = some region := by
  have inside := (List.getElem?_eq_some_iff.1 here).1
  rw [boxedTo, List.getElem?_map, getElem?_spans, if_pos inside, spanAt_eq_singleton single here]
  rfl

/-- An interval of several regions becomes a box. -/
theorem getElem?_boxedTo_of_several (depth : Nat) {level : List Region} {index : Nat}
    (inside : spanStart (links level) index < level.length)
    (several : spanStart (links level) index + 1 <
      spanEnd (links level) (spanStart (links level) index)) :
    (boxedTo (depth + 1) level)[index]? =
      some (.box (boxedTo depth (spanAt (links level) level (spanStart (links level) index)))) := by
  have size := length_spanAt inside
  rw [boxedTo, List.getElem?_map, getElem?_spans, if_pos inside, Option.map_some]
  split
  · next region same =>
    rw [same, List.length_singleton] at size
    omega
  · rw [collapse_boxedTo (by omega)]

theorem length_boxedTo_le (depth : Nat) {level : List Region} {index : Nat}
    (past : level.length ≤ spanStart (links level) index) :
    (boxedTo (depth + 1) level).length ≤ index := by
  rw [boxedTo, List.length_map, ← List.getElem?_eq_none_iff, getElem?_spans,
    if_neg (Nat.not_lt.2 past)]

/-- A jump stays in its interval, or leads from a region that is an interval to another. -/
theorem interval_of_jump {level : List Region} {i j a b : Nat} {region : Region}
    (here : level[i]? = some region) (jump : j ∈ jumps level region)
    (lowA : spanStart (links level) a ≤ i)
    (highA : i < spanEnd (links level) (spanStart (links level) a))
    (lowB : spanStart (links level) b ≤ j)
    (highB : j < spanEnd (links level) (spanStart (links level) b)) :
    a = b ∨ spanEnd (links level) (spanStart (links level) a) = spanStart (links level) a + 1 ∧
      spanEnd (links level) (spanStart (links level) b) = spanStart (links level) b + 1 := by
  obtain ⟨target, -, found⟩ := mem_jumps.1 jump
  have linked := mem_links_of_jump here jump
  have linked' := mem_links_of_jump_to (labelIndex?_eq_some found) here jump
  rcases spanEnd_cases (links level) (spanStart (links level) a) with
    singleA | ⟨-, -, -, closed⟩
  · rcases spanEnd_cases (links level) (spanStart (links level) b) with
      singleB | ⟨-, -, -, closed⟩
    · exact Or.inr ⟨singleA, singleB⟩
    · obtain ⟨low, high⟩ := closed j lowB highB i linked'
      exact Or.inl (spanStart_unique _ lowA highA low high)
  · obtain ⟨low, high⟩ := closed i lowA highA j linked
    exact Or.inl (spanStart_unique _ low high lowB highB)

/-- Jumps of an interval stay in it. -/
theorem label_mem_spanAt {level : List Region} {index : Nat}
    (inside : spanStart (links level) index < level.length)
    (several : 2 ≤ (spanAt (links level) level (spanStart (links level) index)).length)
    (own : ∀ op, .control op ∈ level → ∀ target ∈ op.targets, .control (.label target) ∈ level)
    (op : Control) (mem : .control op ∈ spanAt (links level) level (spanStart (links level) index))
    (target : String) (jumps : target ∈ op.targets) :
    .control (.label target) ∈ spanAt (links level) level (spanStart (links level) index) := by
  rw [length_spanAt inside] at several
  obtain ⟨i, low, high, here⟩ := mem_spanAt.1 mem
  obtain ⟨j, found⟩ := exists_labelIndex? (own op (List.mem_of_getElem? here) target jumps)
  obtain ⟨other, low', high'⟩ := exists_span (links level) j
  rcases interval_of_jump here (mem_jumps.2 ⟨target, jumps, found⟩) low high low' high' with
    rfl | ⟨single, -⟩
  · exact mem_spanAt.2 ⟨j, low', high', labelIndex?_eq_some found⟩
  · omega

/-- Jumps outside of boxes stay outside. -/
theorem label_mem_spans {level : List Region}
    (own : ∀ op, .control op ∈ level → ∀ target ∈ op.targets, .control (.label target) ∈ level)
    {op : Control} (mem : [.control op] ∈ spans level) {target : String}
    (jumps : target ∈ op.targets) : [.control (.label target)] ∈ spans level := by
  obtain ⟨index, inside, same⟩ := mem_spans.1 mem
  have single : spanEnd (links level) (spanStart (links level) index) =
      spanStart (links level) index + 1 := by
    have size := length_spanAt inside
    rw [← same, List.length_singleton] at size
    omega
  obtain ⟨i, low, high, here⟩ := mem_spanAt.1 (same ▸ List.mem_singleton.2 rfl)
  obtain ⟨j, found⟩ := exists_labelIndex? (own op (List.mem_of_getElem? here) target jumps)
  have there := labelIndex?_eq_some found
  have bound := (List.getElem?_eq_some_iff.1 there).1
  obtain ⟨other, low', high'⟩ := exists_span (links level) j
  have single' : spanEnd (links level) (spanStart (links level) other) =
      spanStart (links level) other + 1 := by
    rcases interval_of_jump here (mem_jumps.2 ⟨target, jumps, found⟩) low high low' high' with
      rfl | ⟨-, single'⟩
    · exact single
    · exact single'
  refine mem_spans.2 ⟨other, by omega, (spanAt_eq_singleton single' ?_).symm⟩
  rwa [show spanStart (links level) other = j by omega]

theorem closed_boxedTo (depth : Nat) {level : List Region} (unboxed : ∀ inner, .box inner ∉ level)
    (own : ∀ op, .control op ∈ level → ∀ target ∈ op.targets, .control (.label target) ∈ level) :
    Closed (boxedTo depth level) := by
  induction depth generalizing level with
  | zero => exact .intro own fun inner mem => absurd mem (unboxed inner)
  | succ depth ih =>
      have sub : ∀ part ∈ spans level, part ⊆ level := fun part mem region here =>
        flatten_spans level ▸ List.mem_flatten.2 ⟨part, mem, here⟩
      refine .intro (fun op mem target jumps => ?_) (fun inner mem => ?_)
      · rcases mem_boxedTo_succ mem with single | ⟨part, -, several, same⟩
        · rw [boxedTo, List.mem_map]
          exact ⟨_, label_mem_spans own single jumps, rfl⟩
        · rw [collapse_boxedTo several] at same
          cases same
      · rcases mem_boxedTo_succ mem with single | ⟨part, cut, several, same⟩
        · exact absurd (sub _ single List.mem_cons_self) (unboxed inner)
        · rw [collapse_boxedTo several] at same
          cases same
          obtain ⟨index, inside, rfl⟩ := mem_spans.1 cut
          exact ih (fun inner here => unboxed inner (sub _ cut here))
            (label_mem_spanAt inside several own)

theorem flat_boxed (code : TypedCode) : flat (boxed (ofCode code)) = code :=
  (flat_boxedTo _ _).trans (flat_ofCode code)

theorem undefinedTarget?_eq_none {code : TypedCode} : undefinedTarget? code = none ↔
    ∀ instruction ∈ code, ∀ target ∈ instruction.targets, target ∈ Code.labels code := by
  rw [undefinedTarget?, List.find?_eq_none]
  simp only [List.mem_flatMap, Bool.not_eq_true', Bool.not_eq_false, List.any_eq_true, beq_iff_eq]
  constructor
  · intro defined instruction mem target jumps
    obtain ⟨other, mem', label⟩ := defined target ⟨instruction, mem, jumps⟩
    exact List.mem_filterMap.2 ⟨other, mem', label⟩
  · rintro defined target ⟨instruction, mem, jumps⟩
    exact List.mem_filterMap.1 (defined instruction mem target jumps)

/-- In boxed regions of code whose jumps have labels, every jump stays on its level. -/
theorem closed_boxed {code : TypedCode} (defined : undefinedTarget? code = none) :
    Closed (boxed (ofCode code)) := by
  have unboxed := box_not_mem_ofCode code
  refine closed_boxedTo _ unboxed fun op mem target jumps => ?_
  rw [← control_mem_flat unboxed, flat_ofCode] at mem ⊢
  exact Code.mem_labels.1 (undefinedTarget?_eq_none.1 defined _ mem target jumps)

end CallSearch.Region
