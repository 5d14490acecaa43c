/-
# CallSearch.Proofs.Code.MergeLabels — merging labels keeps the traces

A label in front of another label, or in front of a jump forward, is another name
for the place the next instruction leads to.  Merging drops such labels and sends
the jumps to them on.

The pass is first put in a form that follows the code from left to right
(`mergeLabels_eq`): which instructions are kept, and which label stands in for
which.  A run of the code and a run of the merged code are then at places that
correspond (`merged`), up to labels that were dropped.

* `traces_mergeLabels`: the merged code has the same traces;
* `JumpsForward.mergeLabels`: jumps still go forward if they did.
-/
import CallSearch.Proofs.Code.Chains
import CallSearch.Proofs.Code.Run

namespace CallSearch.Code

set_option autoImplicit false

open Relation

/-! ## The pass from left to right -/

/-- The label that the second of two instructions in a row makes stand in for the first. -/
def standIn? (code : TypedCode) :
    Instruction Invocation → Instruction Invocation → Option (String × String)
  | .control (.label source), .control (.label target) => some (source, target)
  | .control (.label source), .control (.branch target _) =>
      if precedes code source target then some (source, target) else none
  | _, _ => none

/-- The instructions that are kept. -/
def keptFrom (code : TypedCode) : TypedCode → TypedCode
  | [] => []
  | [instruction] => [instruction]
  | first :: second :: rest =>
      if (standIn? code first second).isSome then keptFrom code (second :: rest)
      else first :: keptFrom code (second :: rest)

/-- The labels that are dropped, each with the label that stands in for it. -/
def standIns (code : TypedCode) : TypedCode → List (String × String)
  | first :: second :: rest =>
      (standIn? code first second).toList ++ standIns code (second :: rest)
  | _ => []

theorem mergeStep_cons (code kept : TypedCode) (replaced : Table String String)
    (first second : Instruction Invocation) :
    mergeStep code ⟨first :: kept, replaced⟩ second =
      match standIn? code first second with
      | some (source, target) => ⟨second :: kept, replaced.insert source target⟩
      | none => ⟨second :: first :: kept, replaced⟩ := by
  unfold mergeStep standIn?
  split
  · next same => cases same; rfl
  · next same =>
    cases same
    split <;> simp [*]
  · next notLabels notBranch =>
    split
    · next found =>
      split at found
      · exact absurd rfl (notLabels _ _ _ rfl)
      · exact absurd rfl (notBranch _ _ _ _ rfl)
      · cases found
    · rfl

theorem foldl_mergeStep (code : TypedCode) (rest kept : TypedCode)
    (replaced : Table String String) (first : Instruction Invocation) :
    rest.foldl (mergeStep code) ⟨first :: kept, replaced⟩ =
      ⟨(keptFrom code (first :: rest)).reverse ++ kept,
        replaced.insertAll (standIns code (first :: rest))⟩ := by
  induction rest generalizing first kept replaced with
  | nil => rfl
  | cons second rest ih =>
      rw [List.foldl_cons, mergeStep_cons, keptFrom, standIns]
      cases standIn? code first second with
      | none =>
          simp only [ih, Option.isSome_none, Bool.false_eq_true, if_false, List.reverse_cons,
            List.append_assoc, List.singleton_append, Option.toList_none, List.nil_append]
      | some pair =>
          simp only [ih, Option.isSome_some, if_true, Option.toList_some, List.singleton_append]
          rfl

/-- The end of the chain of labels that stand in for a label. -/
def standInOf (code : TypedCode) (label : String) : String :=
  let replaced := Table.ofList (standIns code code)
  ((resolveChains replaced.keys replaced).get? label).getD label

/-- What merging makes of the part `rest` of the code. -/
def merged (code rest : TypedCode) : TypedCode :=
  (keptFrom code rest).map (redirectJumps (standInOf code))

/-- The pass in any order of the replaced labels. -/
theorem mergeLabelsBy_eq (arrange : List String → List String) (code : TypedCode) :
    mergeLabelsBy arrange code =
      let replaced := Table.ofList (standIns code code)
      (keptFrom code code).map (redirectJumps fun label =>
        ((resolveChains (arrange replaced.keys) replaced).get? label).getD label) := by
  cases hcode : code with
  | nil => rfl
  | cons first rest =>
      rw [mergeLabelsBy, List.foldl_cons]
      have start : mergeStep (first :: rest) ⟨[], ∅⟩ first = ⟨[first], ∅⟩ := rfl
      rw [start, foldl_mergeStep, List.append_nil, List.reverse_reverse]
      rfl

theorem mergeLabels_eq (code : TypedCode) : mergeLabels code = merged code code :=
  mergeLabelsBy_eq id code

/-! ## Kept instructions -/

theorem standIn?_eq_some {code : TypedCode} {first second : Instruction Invocation} {a b : String}
    (h : standIn? code first second = some (a, b)) :
    first = .control (.label a) ∧ (second = .control (.label b) ∨
      ∃ line, second = .control (.branch b line) ∧ precedes code a b = true) := by
  unfold standIn? at h
  split at h
  · cases h
    exact ⟨rfl, Or.inl rfl⟩
  · split at h
    · next line before =>
      cases h
      exact ⟨rfl, Or.inr ⟨_, rfl, before⟩⟩
    · cases h
  · cases h

/-- An instruction is kept, or it is a label with another label standing in for it. -/
theorem keptFrom_cons (code : TypedCode) (first : Instruction Invocation) (rest : TypedCode) :
    keptFrom code (first :: rest) = first :: keptFrom code rest ∨
      ∃ a b second more, first = .control (.label a) ∧ rest = second :: more ∧
        standIn? code first second = some (a, b) ∧
        keptFrom code (first :: rest) = keptFrom code rest := by
  cases rest with
  | nil => exact Or.inl rfl
  | cons second more =>
      rw [keptFrom]
      split
      · next dropped =>
        obtain ⟨⟨a, b⟩, found⟩ := Option.isSome_iff_exists.1 dropped
        exact Or.inr ⟨a, b, second, more, (standIn?_eq_some found).1, rfl, found, rfl⟩
      · exact Or.inl rfl

theorem keptFrom_sublist (code rest : TypedCode) : (keptFrom code rest).Sublist rest := by
  induction rest with
  | nil => exact List.Sublist.refl _
  | cons first rest ih =>
      rcases keptFrom_cons code first rest with kept | ⟨_, _, _, _, -, -, -, dropped⟩
      · rw [kept]
        exact ih.cons_cons first
      · rw [dropped]
        exact ih.cons first

theorem label?_redirectJumps (replace : String → String) (instruction : Instruction Invocation) :
    (redirectJumps replace instruction).label? = instruction.label? := by
  cases instruction with
  | invoke call => rfl
  | control op => cases op <;> rfl

theorem redirectJumps_eq_label {replace : String → String} {instruction : Instruction Invocation}
    {name : String} (h : redirectJumps replace instruction = .control (.label name)) :
    instruction = .control (.label name) := by
  cases instruction with
  | invoke call => cases h
  | control op =>
      cases op <;> simp only [redirectJumps, redirect, Instruction.control.injEq, reduceCtorEq] at h
      simpa using h

theorem targets_redirect (replace : String → String) (op : Control) :
    (redirect replace op).targets = op.targets.map replace := by
  cases op <;> rfl

theorem labels_map_redirectJumps (replace : String → String) (code : TypedCode) :
    labels (code.map (redirectJumps replace)) = labels code := by
  rw [labels, List.filterMap_map]
  exact List.filterMap_congr fun instruction _ => label?_redirectJumps replace instruction

theorem labels_merged (code rest : TypedCode) :
    labels (merged code rest) = labels (keptFrom code rest) :=
  labels_map_redirectJumps _ _

/-- Merging defines no new label. -/
theorem labels_merged_sublist (code rest : TypedCode) :
    (labels (merged code rest)).Sublist (labels rest) := by
  rw [labels_merged]
  exact (keptFrom_sublist code rest).filterMap _

theorem merged_cons (code : TypedCode) (first : Instruction Invocation) (rest : TypedCode) :
    merged code (first :: rest) = redirectJumps (standInOf code) first :: merged code rest ∨
      (∃ a, first = .control (.label a)) ∧ merged code (first :: rest) = merged code rest := by
  rcases keptFrom_cons code first rest with kept | ⟨a, _, _, _, same, -, -, dropped⟩
  · exact Or.inl (by rw [merged, kept, List.map_cons, merged])
  · exact Or.inr ⟨⟨a, same⟩, by rw [merged, dropped, merged]⟩

theorem merged_cons_of_label?_eq_none {code : TypedCode} {first : Instruction Invocation}
    (rest : TypedCode) (h : first.label? = none) :
    merged code (first :: rest) = redirectJumps (standInOf code) first :: merged code rest := by
  rcases merged_cons code first rest with kept | ⟨⟨a, rfl⟩, -⟩
  · exact kept
  · cases h

theorem merged_suffix (code : TypedCode) {rest u : TypedCode} (h : rest <:+ u) :
    merged code rest <:+ merged code u := by
  induction u with
  | nil => rw [List.suffix_nil.1 h]
  | cons first u ih =>
      rcases List.suffix_cons_iff.1 h with rfl | h
      · exact List.suffix_rfl
      · rcases merged_cons code first u with kept | ⟨-, dropped⟩
        · rw [kept]
          exact (ih h).trans (List.suffix_cons _ _)
        · rw [dropped]
          exact ih h

/-- Every place of the merged code comes from a place of the code. -/
theorem exists_of_merged_suffix {code u v : TypedCode} {instruction : Instruction Invocation}
    (h : instruction :: v <:+ merged code u) :
    ∃ first rest, first :: rest <:+ u ∧ redirectJumps (standInOf code) first = instruction ∧
      merged code rest = v ∧ merged code (first :: rest) = instruction :: v := by
  induction u with
  | nil =>
      have empty : merged code [] = [] := rfl
      rw [empty, List.suffix_nil] at h
      cases h
  | cons first u ih =>
      rcases merged_cons code first u with kept | ⟨-, dropped⟩
      · rw [kept, List.suffix_cons_iff] at h
        rcases h with same | h
        · cases same
          exact ⟨first, u, List.suffix_rfl, rfl, rfl, kept⟩
        · obtain ⟨other, rest, sub, found⟩ := ih h
          exact ⟨other, rest, sub.trans (List.suffix_cons _ _), found⟩
      · rw [dropped] at h
        obtain ⟨other, rest, sub, found⟩ := ih h
        exact ⟨other, rest, sub.trans (List.suffix_cons _ _), found⟩

theorem eq_nil_of_merged {code rest : TypedCode} (h : merged code rest = []) : rest = [] := by
  induction rest with
  | nil => rfl
  | cons first rest ih =>
      rcases keptFrom_cons code first rest with kept | ⟨_, _, second, more, -, rfl, -, dropped⟩
      · rw [merged, kept] at h
        cases h
      · rw [merged, dropped] at h
        exact absurd (ih h) (List.cons_ne_nil _ _)

/-- A run may start in front of the labels that were dropped. -/
theorem exists_of_merged_eq_cons {code rest v : TypedCode} {instruction : Instruction Invocation}
    (h : merged code rest = instruction :: v) :
    ∃ first more, redirectJumps (standInOf code) first = instruction ∧ merged code more = v ∧
      first :: more <:+ rest ∧ ∀ trace, Runs code (first :: more) trace → Runs code rest trace := by
  induction rest with
  | nil => cases h
  | cons first rest ih =>
      rcases merged_cons code first rest with kept | ⟨⟨a, rfl⟩, dropped⟩
      · rw [kept] at h
        cases h
        exact ⟨first, rest, rfl, rfl, List.suffix_rfl, fun _ run => run⟩
      · rw [dropped] at h
        obtain ⟨other, more, same, rest', sub, run⟩ := ih h
        exact ⟨other, more, same, rest', sub.trans (List.suffix_cons _ _),
          fun trace start => .label (run trace start)⟩

/-! ## Stand-ins -/

/-- The second label stands in for the first, which is dropped. -/
def Stands (code : TypedCode) (a b : String) : Prop := (a, b) ∈ standIns code code

theorem mem_standIns {code rest : TypedCode} {a b : String} :
    (a, b) ∈ standIns code rest ↔
      ∃ second more, .control (.label a) :: second :: more <:+ rest ∧
        standIn? code (.control (.label a)) second = some (a, b) := by
  induction rest with
  | nil => simp [standIns]
  | cons first rest ih =>
      cases rest with
      | nil => simp [standIns, List.suffix_cons_iff]
      | cons second rest =>
          rw [standIns, List.mem_append, Option.mem_toList, ih]
          constructor
          · rintro (found | ⟨next, more, sub, found⟩)
            · have same := (standIn?_eq_some found).1
              subst same
              exact ⟨second, rest, List.suffix_rfl, found⟩
            · exact ⟨next, more, sub.trans (List.suffix_cons _ _), found⟩
          · rintro ⟨next, more, sub, found⟩
            rcases List.suffix_cons_iff.1 sub with same | sub
            · cases same
              exact Or.inl found
            · exact Or.inr ⟨next, more, sub, found⟩

theorem standIns_keys_sublist (code rest : TypedCode) :
    ((standIns code rest).map Prod.fst).Sublist (labels rest) := by
  induction rest with
  | nil => exact List.Sublist.refl _
  | cons first rest ih =>
      cases rest with
      | nil => exact List.nil_sublist _
      | cons second rest =>
          rw [standIns]
          cases found : standIn? code first second with
          | none =>
              refine ih.trans ?_
              exact (List.sublist_cons_self first (second :: rest)).filterMap _
          | some pair =>
              obtain ⟨rfl, -⟩ := standIn?_eq_some (show _ = some (pair.1, pair.2) from found)
              exact ih.cons_cons pair.1

theorem findIdx?_defines_eq_none {name : String} {part : TypedCode} (h : name ∉ labels part) :
    part.findIdx? (defines name) = none := by
  rw [List.findIdx?_eq_none_iff]
  intro instruction mem
  rw [defines, beq_eq_false_iff_ne]
  exact fun found => h (List.mem_filterMap.2 ⟨instruction, mem, found⟩)

theorem exists_findIdx?_defines {name : String} {part : TypedCode} (h : name ∈ labels part) :
    ∃ i < part.length, part.findIdx? (defines name) = some i := by
  cases found : part.findIdx? (defines name) with
  | none =>
      rw [List.findIdx?_eq_none_iff] at found
      have mem := found _ (mem_labels.1 h)
      simp [defines, Instruction.label?] at mem
  | some i => exact ⟨i, (List.findIdx?_eq_some_iff_findIdx_eq.1 found).1, rfl⟩

section Distinct

variable {code : TypedCode} (distinct : (labels code).Nodup)

include distinct

theorem get?_standIns {a b : String} :
    (Table.ofList (standIns code code)).get? a = some b ↔ Stands code a b :=
  Table.get?_ofList ((standIns_keys_sublist code code).nodup distinct)

theorem stands_rightUnique : Relator.RightUnique (Stands code) := by
  intro a b c hb hc
  have same := ((get?_standIns distinct).2 hb).symm.trans ((get?_standIns distinct).2 hc)
  exact Option.some.inj same

/-- Which labels come after a label. -/
theorem precedes_iff {a b : String} {after : TypedCode}
    (h : .control (.label a) :: after <:+ code) :
    precedes code a b = true ↔ b ∈ labels after := by
  obtain ⟨before, rfl⟩ := h
  rw [labels_append, labels_label, List.nodup_append] at distinct
  obtain ⟨-, tail, apart⟩ := distinct
  rw [List.nodup_cons] at tail
  have ha : firstLabel? (before ++ .control (.label a) :: after) a = some before.length := by
    rw [firstLabel?, List.findIdx?_append,
      findIdx?_defines_eq_none fun mem => apart a mem a List.mem_cons_self rfl, List.findIdx?_cons]
    simp [defines, Instruction.label?]
  rw [precedes, ha]
  have hb : firstLabel? (before ++ .control (.label a) :: after) b =
      (before.findIdx? (defines b)).or
        (((Instruction.control (.label a) :: after).findIdx? (defines b)).map (· + before.length)) :=
    List.findIdx?_append
  rw [hb]
  -- The second label is before the first, is the first, comes after it or is nowhere.
  by_cases inBefore : b ∈ labels before
  · obtain ⟨i, small, found⟩ := exists_findIdx?_defines inBefore
    have notAfter : b ∉ labels after := fun mem =>
      apart b inBefore b (List.mem_cons_of_mem _ mem) rfl
    simp only [found, Option.some_or, notAfter, iff_false, decide_eq_true_eq]
    omega
  · rw [findIdx?_defines_eq_none inBefore, Option.none_or, List.findIdx?_cons]
    by_cases same : a = b
    · subst same
      simp [defines, Instruction.label?, tail.1]
    · have other : defines b (.control (.label a)) = false := by
        simpa [defines, Instruction.label?] using same
      rw [other]
      by_cases inAfter : b ∈ labels after
      · obtain ⟨i, -, found⟩ := exists_findIdx?_defines inAfter
        simp only [found, inAfter]
        simp
      · simp [findIdx?_defines_eq_none inAfter, inAfter]

/-- What a stand-in looks like in the code. -/
theorem Stands.cases {a b : String} (h : Stands code a b) :
    ∃ after, .control (.label a) :: after <:+ code ∧ b ∈ labels after ∧
      ((∃ more, after = .control (.label b) :: more) ∨
        ∃ line more, after = .control (.branch b line) :: more) := by
  obtain ⟨second, more, sub, found⟩ := mem_standIns.1 h
  refine ⟨second :: more, sub, ?_⟩
  obtain ⟨-, rfl | ⟨line, rfl, before⟩⟩ := standIn?_eq_some found
  · exact ⟨List.mem_cons_self, Or.inl ⟨more, rfl⟩⟩
  · exact ⟨(precedes_iff distinct sub).1 before, Or.inr ⟨line, more, rfl⟩⟩

theorem stands_further (a b : String) (h : Stands code a b) :
    (firstLabel? code a).getD 0 < (firstLabel? code b).getD 0 := by
  obtain ⟨after, sub, later, -⟩ := h.cases distinct
  have before := (precedes_iff distinct sub).2 later
  unfold precedes at before
  split at before
  · next i j hi hj => simpa [hi, hj] using before
  · cases before

theorem resolving_standIns : Resolving (Stands code) (Table.ofList (standIns code code)) where
  sound found := .single ((get?_standIns distinct).1 found)
  total h := by
    rw [(get?_standIns distinct).2 h]
    rfl

theorem standInOf_spec (label : String) :
    ReflTransGen (Stands code) label (standInOf code label) ∧
      ∀ c, ¬ Stands code (standInOf code label) c :=
  resolveChains_spec (stands_further distinct) (resolving_standIns distinct) (fun _ mem => mem)
    label

theorem standInOf_eq_of_stands {a b : String} (h : Stands code a b) :
    standInOf code a = standInOf code b := by
  obtain ⟨fromA, finalA⟩ := standInOf_spec distinct a
  obtain ⟨fromB, finalB⟩ := standInOf_spec distinct b
  exact eq_of_chain_ends (stands_rightUnique distinct) fromA finalA (ReflTransGen.head h fromB)
    finalB

theorem standInOf_eq_self {a : String} (h : ∀ b, ¬ Stands code a b) : standInOf code a = a := by
  rcases (standInOf_spec distinct a).1.cases_head with same | ⟨b, step, -⟩
  · exact same.symm
  · exact absurd step (h b)

/-- A label is dropped exactly when another label stands in for it. -/
theorem merged_label {a : String} {rest : TypedCode}
    (h : .control (.label a) :: rest <:+ code) :
    ((∃ b, Stands code a b) ∧ merged code (.control (.label a) :: rest) = merged code rest) ∨
      (∀ b, ¬ Stands code a b) ∧
        merged code (.control (.label a) :: rest) = .control (.label a) :: merged code rest := by
  by_cases dropped : ∃ b, Stands code a b
  · obtain ⟨b, stands⟩ := dropped
    refine Or.inl ⟨⟨b, stands⟩, ?_⟩
    obtain ⟨second, more, sub, found⟩ := mem_standIns.1 stands
    obtain rfl := label_unique distinct h sub
    rw [merged, keptFrom, found, merged]
    rfl
  · refine Or.inr ⟨fun b stands => dropped ⟨b, stands⟩, ?_⟩
    rcases keptFrom_cons code (.control (.label a)) rest with
      kept | ⟨_, b, second, more, same, rfl, found, -⟩
    · rw [merged, kept, List.map_cons]
      rfl
    · cases same
      exact absurd ⟨b, mem_standIns.2 ⟨second, more, h, found⟩⟩ dropped

/-! ## Runs of the merged code -/

/-- A run of the merged code from a label gets to the label that stands in for it. -/
theorem runs_standIn {a : String} {after : TypedCode} (sub : .control (.label a) :: after <:+ code)
    {trace : List Invocation}
    (run : Runs (merged code code) (merged code (.control (.label a) :: after)) trace) :
    ∃ rest, .control (.label (standInOf code a)) :: rest <:+ merged code code ∧
      Runs (merged code code) (.control (.label (standInOf code a)) :: rest) trace := by
  induction after generalizing a with
  | nil =>
      rcases merged_label distinct sub with ⟨⟨b, stands⟩, -⟩ | ⟨final, kept⟩
      · obtain ⟨after, sub', later, -⟩ := stands.cases distinct
        rw [← label_unique distinct sub sub'] at later
        cases later
      · rw [standInOf_eq_self distinct final]
        rw [kept] at run
        exact ⟨_, kept ▸ merged_suffix _ sub, run⟩
  | cons next after ih =>
      -- A dropped label is followed by the label that stands in for it, or by a jump there.
      rcases merged_label distinct sub with ⟨⟨b, stands⟩, dropped⟩ | ⟨final, kept⟩
      · rw [standInOf_eq_of_stands distinct stands]
        rw [dropped] at run
        obtain ⟨after', sub', -, shape⟩ := stands.cases distinct
        obtain rfl := label_unique distinct sub sub'
        rcases shape with ⟨more, same⟩ | ⟨line, more, same⟩
        · cases same
          exact ih (suffix_of_cons sub) run
        · cases same
          rw [merged_cons_of_label?_eq_none after rfl] at run
          exact run.of_branch
      · rw [standInOf_eq_self distinct final]
        rw [kept] at run
        exact ⟨_, kept ▸ merged_suffix _ sub, run⟩

/-- A run of the code from the label that stands in for a label is one from that label. -/
theorem runs_of_standIn {a b : String} (path : ReflTransGen (Stands code) a b)
    {after : TypedCode} (sub : .control (.label b) :: after <:+ code) {trace : List Invocation}
    (run : Runs code (.control (.label b) :: after) trace) :
    ∃ rest, .control (.label a) :: rest <:+ code ∧
      Runs code (.control (.label a) :: rest) trace := by
  induction path using ReflTransGen.head_induction_on with
  | refl => exact ⟨after, sub, run⟩
  | head stands _ ih =>
      obtain ⟨rest, subC, runC⟩ := ih
      obtain ⟨after', subA, -, shape⟩ := stands.cases distinct
      refine ⟨after', subA, .label ?_⟩
      rcases shape with ⟨more, rfl⟩ | ⟨line, more, rfl⟩
      · obtain rfl := label_unique distinct subC (suffix_of_cons subA)
        exact runC
      · exact .jump List.mem_cons_self subC runC

theorem runs_merged {rest : TypedCode} (sub : rest <:+ code) {trace : List Invocation}
    (run : Runs code rest trace) : Runs (merged code code) (merged code rest) trace := by
  induction run with
  | past => exact .past
  | ret =>
      rw [merged_cons_of_label?_eq_none _ rfl]
      exact .ret
  | throw =>
      rw [merged_cons_of_label?_eq_none _ rfl]
      exact .throw
  | invoke _ ih =>
      rw [merged_cons_of_label?_eq_none _ rfl]
      exact .invoke (ih (suffix_of_cons sub))
  | label _ ih =>
      have more := ih (suffix_of_cons sub)
      rcases merged_label distinct sub with ⟨-, dropped⟩ | ⟨-, kept⟩
      · rw [dropped]
        exact more
      · rw [kept]
        exact .label more
  | fall _ ih =>
      rw [merged_cons_of_label?_eq_none _ rfl]
      exact .fall (ih (suffix_of_cons sub))
  | jump mem found _ ih =>
      rw [merged_cons_of_label?_eq_none _ (label?_of_targets mem)]
      obtain ⟨after, found', more⟩ := runs_standIn distinct found (ih found)
      refine .jump ?_ found' more
      rw [targets_redirect]
      exact List.mem_map_of_mem mem

theorem runs_of_merged {rest v : TypedCode} (sub : rest <:+ code) (same : merged code rest = v)
    {trace : List Invocation} (run : Runs (merged code code) v trace) : Runs code rest trace := by
  induction run generalizing rest with
  | past =>
      rw [eq_nil_of_merged same]
      exact .past
  | ret =>
      obtain ⟨first, more, hfirst, -, -, start⟩ := exists_of_merged_eq_cons same
      apply start
      rcases first with call | (_ | _ | _ | _ | _ | _) <;> cases hfirst
      exact .ret
  | throw =>
      obtain ⟨first, more, hfirst, -, -, start⟩ := exists_of_merged_eq_cons same
      apply start
      rcases first with call | (_ | _ | _ | _ | _ | _) <;> cases hfirst
      exact .throw
  | invoke _ ih =>
      obtain ⟨first, more, hfirst, hmore, sub', start⟩ := exists_of_merged_eq_cons same
      apply start
      rcases first with call | op <;> cases hfirst
      exact .invoke (ih (suffix_of_cons (sub'.trans sub)) hmore)
  | label _ ih =>
      obtain ⟨first, more, hfirst, hmore, sub', start⟩ := exists_of_merged_eq_cons same
      apply start
      rw [redirectJumps_eq_label hfirst] at sub' ⊢
      exact .label (ih (suffix_of_cons (sub'.trans sub)) hmore)
  | fall _ ih =>
      obtain ⟨first, more, hfirst, hmore, sub', start⟩ := exists_of_merged_eq_cons same
      apply start
      rcases first with call | (_ | _ | _ | _ | _ | _) <;> cases hfirst
      exact .fall (ih (suffix_of_cons (sub'.trans sub)) hmore)
  | jump mem found _ ih =>
      obtain ⟨first, more, hfirst, -, -, start⟩ := exists_of_merged_eq_cons same
      apply start
      rcases first with call | op <;> cases hfirst
      rw [targets_redirect] at mem
      obtain ⟨target, listed, rfl⟩ := List.mem_map.1 mem
      obtain ⟨place, after, sub', hplace, -, there⟩ := exists_of_merged_suffix found
      obtain rfl := redirectJumps_eq_label hplace
      obtain ⟨rest', sub'', run⟩ :=
        runs_of_standIn distinct (standInOf_spec distinct target).1 sub' (ih sub' there)
      exact .jump listed sub'' run

/-- The labels that stand in for the labels of a part of the code are kept in that part. -/
theorem standInOf_mem_labels {rest : TypedCode} (sub : rest <:+ code) {label : String}
    (mem : label ∈ labels rest) : standInOf code label ∈ labels (merged code rest) := by
  obtain ⟨path, final⟩ := standInOf_spec distinct label
  generalize standInOf code label = last at path final
  induction path using ReflTransGen.head_induction_on with
  | refl =>
      obtain ⟨after, sub'⟩ := exists_suffix_of_mem (mem_labels.1 mem)
      rcases merged_label distinct (sub'.trans sub) with ⟨⟨b, stands⟩, -⟩ | ⟨-, kept⟩
      · exact absurd stands (final b)
      · have there := merged_suffix code sub'
        rw [kept] at there
        exact mem_labels.2 (mem_of_suffix there)
  | head stands _ ih =>
      obtain ⟨after, sub', later, -⟩ := stands.cases distinct
      obtain ⟨after', sub''⟩ := exists_suffix_of_mem (mem_labels.1 mem)
      obtain rfl := label_unique distinct sub' (sub''.trans sub)
      exact ih ((suffix_of_cons sub'').sublist.filterMap _ |>.subset later)

end Distinct

/-- Merging labels keeps the traces. -/
theorem traces_mergeLabels {code : TypedCode} (distinct : (labels code).Nodup) :
    traces (mergeLabels code) = traces code := by
  ext trace
  rw [mergeLabels_eq, mem_traces, mem_traces]
  constructor
  · exact runs_of_merged distinct List.suffix_rfl rfl
  · exact runs_merged distinct List.suffix_rfl

theorem nodup_labels_mergeLabels {code : TypedCode} (distinct : (labels code).Nodup) :
    (labels (mergeLabels code)).Nodup := by
  rw [mergeLabels_eq]
  exact (labels_merged_sublist code code).nodup distinct

/-- Merging labels keeps jumps going forward. -/
theorem JumpsForward.mergeLabels {code : TypedCode} (distinct : (labels code).Nodup)
    (forward : JumpsForward code) : JumpsForward (mergeLabels code) := by
  rw [mergeLabels_eq]
  intro op v sub target mem
  obtain ⟨first, rest, sub', hfirst, rfl, -⟩ := exists_of_merged_suffix sub
  rcases first with call | op' <;> cases hfirst
  rw [targets_redirect] at mem
  obtain ⟨source, listed, rfl⟩ := List.mem_map.1 mem
  exact standInOf_mem_labels distinct (suffix_of_cons sub') (forward op' rest sub' source listed)

end CallSearch.Code
