/-
# CallSearch.Proofs.Code.Tangles — labels of one name that replace each other

Nothing keeps code from defining a label twice.  A label may then be dropped at one
place and stand in for another label at another place, so that replacements run in a
cycle (`Tangled`).  The first label of a cycle that is resolved ends up as the one the
jumps go to (`standInBy_startWith`), and it may be one that is dropped everywhere.

Nothing else goes wrong.  Where no jump goes to a tangled label, a chain has one end,
which is kept (`standInBy_eq`, `standInBy_mem_labels`), so that the order of the
replaced labels shows exactly where a jump is tangled: `simplify_order_exact`.
-/
import CallSearch.Proofs.Region.Structured

namespace CallSearch.Code

set_option autoImplicit false

open Relation

/-- The label that stands in for a dropped label.  Where labels of that name are dropped at several
places, the last place counts. -/
def Replaces (code : TypedCode) : String → String → Prop :=
  Leads (Table.ofList (standIns code code))

/-- The replacements of a label lead to different labels that replace each other. -/
def Tangled (code : TypedCode) (label : String) : Prop :=
  ∃ b c, ReflTransGen (Replaces code) label b ∧ Replaces code b c ∧ b ≠ c ∧
    ReflTransGen (Replaces code) c b

/-- No jump goes to a tangled label. -/
def Untangled (code : TypedCode) : Prop :=
  ∀ target ∈ code.flatMap Instruction.targets, ¬ Tangled code target

/-- The label that jumps to a label are sent on to, when the replaced labels are resolved in the
order `arrange` gives them. -/
def standInBy (arrange : List String → List String) (code : TypedCode) (label : String) : String :=
  ((resolveChains (arrange (Table.ofList (standIns code code)).keys)
    (Table.ofList (standIns code code))).get? label).getD label

theorem mergeLabelsBy_eq_map (arrange : List String → List String) (code : TypedCode) :
    mergeLabelsBy arrange code =
      (keptFrom code code).map (redirectJumps (standInBy arrange code)) :=
  mergeLabelsBy_eq arrange code

/-! ## Where replacements lead -/

section Replaces

variable {code : TypedCode} {a b c label : String}

theorem replaces_rightUnique : Relator.RightUnique (Replaces code) := leads_rightUnique _

theorem Replaces.mem_standIns (h : Replaces code a b) : (a, b) ∈ standIns code code :=
  Table.mem_of_get?_ofList h

theorem precedes_self_ne_true : precedes code a a ≠ true := by
  unfold precedes
  split
  · next i j hi hj =>
    rw [Option.some.inj (hi.symm.trans hj), Ne, decide_eq_true_eq]
    exact Nat.lt_irrefl j
  · exact Bool.false_ne_true

/-- What stands in for a label is defined. -/
theorem Replaces.mem_labels (h : Replaces code a b) : b ∈ labels code := by
  obtain ⟨second, more, sub, found⟩ := Code.mem_standIns.1 h.mem_standIns
  obtain ⟨-, rfl | ⟨line, -, before⟩⟩ := standIn?_eq_some found
  · exact Code.mem_labels.2 (sub.subset (List.mem_cons_of_mem _ List.mem_cons_self))
  · by_contra undefined
    rw [precedes] at before
    rw [show firstLabel? code b = none from findIdx?_defines_eq_none undefined] at before
    split at before
    · next missing => cases missing
    · cases before

theorem mem_labels_of_chain (path : ReflTransGen (Replaces code) a b) (defined : a ∈ labels code) :
    b ∈ labels code := by
  cases path with
  | refl => exact defined
  | tail _ step => exact step.mem_labels

/-- An end of a chain that is not tangled is replaced by itself at most. -/
theorem eq_of_replaces_end (clean : ¬ Tangled code label)
    (path : ReflTransGen (Replaces code) label a) (ends : IsEnd (Replaces code) a)
    (step : Replaces code a b) : b = a := by
  rcases ends with dead | cycle
  · exact absurd step (dead b)
  · by_contra apart
    have back := chain_back replaces_rightUnique cycle (.single step)
    exact clean ⟨a, b, path, step, Ne.symm apart, back⟩

/-- A chain that is not tangled has one end. -/
theorem eq_of_untangled_ends (clean : ¬ Tangled code label)
    (toA : ReflTransGen (Replaces code) label a) (endA : IsEnd (Replaces code) a)
    (toB : ReflTransGen (Replaces code) label b) (endB : IsEnd (Replaces code) b) : a = b := by
  obtain ⟨there, back⟩ := ends_connected replaces_rightUnique toA endA toB endB
  rcases there.cases_head with same | ⟨next, step, -⟩
  · exact same
  · have self := eq_of_replaces_end clean toA endA step
    subst self
    exact (eq_of_replaces_self replaces_rightUnique step there).symm

/-- Where replacements lead further on, by some rank, no label is tangled. -/
theorem not_tangled_of_rank (rank : String → Nat)
    (further : ∀ a b, Replaces code a b → a ≠ b → rank a < rank b) : ¬ Tangled code label := by
  rintro ⟨b, c, -, step, apart, back⟩
  have rise : rank c ≤ rank b := by
    clear step apart
    induction back with
    | refl => exact Nat.le_refl _
    | @tail d e _ step ih =>
        by_cases same : d = e
        · rwa [← same]
        · exact ih.trans (Nat.le_of_lt (further d e step same))
  exact absurd (further b c step apart) (Nat.not_lt.2 rise)

theorem untangled_of_nodup (distinct : (labels code).Nodup) : Untangled code :=
  fun _ _ => not_tangled_of_rank (fun name => (firstLabel? code name).getD 0)
    fun a b step _ => stands_further distinct a b ((get?_standIns distinct).1 step)

end Replaces

/-! ## Kept labels -/

section Kept

variable {code : TypedCode} {label : String}

theorem standIns_suffix (code : TypedCode) {rest u : TypedCode} (sub : rest <:+ u) :
    standIns code rest <:+ standIns code u := by
  induction u with
  | nil => rw [List.suffix_nil.1 sub]
  | cons first u ih =>
      rcases List.suffix_cons_iff.1 sub with rfl | sub
      · exact List.suffix_rfl
      · cases u with
        | nil =>
            rw [List.suffix_nil.1 sub]
            exact List.nil_suffix
        | cons second u =>
            rw [standIns]
            exact (ih sub).trans (List.suffix_append _ _)

/-- The last place that defines a label. -/
theorem exists_last_label {rest : TypedCode} (defined : label ∈ labels rest) :
    ∃ after, .control (.label label) :: after <:+ rest ∧ label ∉ labels after := by
  induction rest with
  | nil => cases defined
  | cons first rest ih =>
      by_cases later : label ∈ labels rest
      · obtain ⟨after, sub, last⟩ := ih later
        exact ⟨after, sub.trans (List.suffix_cons _ _), last⟩
      · have here : .control (.label label) = first := by
          rcases List.mem_cons.1 (mem_labels.1 defined) with same | mem
          · exact same
          · exact absurd (mem_labels.2 mem) later
        exact ⟨rest, here ▸ List.suffix_rfl, later⟩

/-- A label is kept where it is defined last, unless another label replaces it. -/
theorem mem_labels_keptFrom (defined : label ∈ labels code)
    (final : ∀ other, Replaces code label other → other = label) :
    label ∈ labels (keptFrom code code) := by
  obtain ⟨after, sub, absent⟩ := exists_last_label defined
  have kept : label ∈ labels (merged code (.control (.label label) :: after)) := by
    rw [labels_merged]
    rcases keptFrom_cons code (.control (.label label)) after with kept | dropped
    · rw [kept, labels_label]
      exact List.mem_cons_self
    · obtain ⟨a, b, second, more, same, rfl, found, -⟩ := dropped
      cases same
      -- The replacement made here is the last one of the label, so it is the one that counts.
      have counts : Replaces code label b := by
        obtain ⟨front, hfront⟩ := standIns_suffix code sub
        have here : standIns code (.control (.label label) :: second :: more) =
            (label, b) :: standIns code (second :: more) := by
          rw [standIns, found]
          rfl
        rw [Replaces, Leads, ← hfront, here]
        refine Table.get?_ofList_of_last fun mem => absent ?_
        exact (standIns_keys_sublist code (second :: more)).subset mem
      obtain rfl := final b counts
      obtain ⟨-, rfl | ⟨line, -, before⟩⟩ := standIn?_eq_some found
      · exact absurd (mem_labels.2 List.mem_cons_self) absent
      · exact absurd before precedes_self_ne_true
  rw [← labels_merged]
  exact ((merged_suffix code sub).sublist.filterMap _).subset kept

end Kept

/-! ## The order of the replaced labels -/

section Order

variable (code : TypedCode) {arrange : List String → List String}
  (perm : ∀ names, (arrange names).Perm names)

include perm

theorem standInBy_ends (label : String) :
    ReflTransGen (Replaces code) label (standInBy arrange code label) ∧
      IsEnd (Replaces code) (standInBy arrange code label) :=
  resolveChains_ends (resolving_leads _)
    (fun found => Or.inl ((perm _).mem_iff.2 (Table.mem_keys_of_get? found))) label

variable {code}

/-- The order makes no difference to a label that is not tangled. -/
theorem standInBy_eq {label : String} (clean : ¬ Tangled code label) :
    standInBy arrange code label = standInBy id code label := by
  have inOrder (names : List String) : (id names).Perm names := .refl _
  obtain ⟨path, ends⟩ := standInBy_ends code perm label
  obtain ⟨path', ends'⟩ := standInBy_ends code inOrder label
  exact eq_of_untangled_ends clean path ends path' ends'

/-- The label that stands in for a label that is not tangled is kept. -/
theorem standInBy_mem_labels {label : String} (clean : ¬ Tangled code label)
    (defined : label ∈ labels code) :
    standInBy arrange code label ∈ labels (keptFrom code code) := by
  obtain ⟨path, ends⟩ := standInBy_ends code perm label
  exact mem_labels_keptFrom (mem_labels_of_chain path defined)
    fun other step => eq_of_replaces_end clean path ends step

end Order

/-- The order that starts with one of the labels. -/
def startWith (first : String) (names : List String) : List String :=
  if first ∈ names then first :: names.erase first else names

theorem startWith_perm (first : String) (names : List String) :
    (startWith first names).Perm names := by
  unfold startWith
  split
  · next mem => exact (List.perm_cons_erase mem).symm
  · exact .refl _

/-- The label of a cycle that is resolved first stands in for all labels that lead to it. -/
theorem standInBy_startWith {code : TypedCode} {label last next : String}
    (path : ReflTransGen (Replaces code) label last) (step : Replaces code last next)
    (back : ReflTransGen (Replaces code) next last) :
    standInBy (startWith last) code label = last := by
  have listed : last ∈ (Table.ofList (standIns code code)).keys := Table.mem_keys_of_get? step
  rw [standInBy, startWith, if_pos listed]
  refine resolveChains_of_cycle step back (fun key mem => ?_) path
  exact (List.perm_cons_erase listed).mem_iff.1 mem

/-! ## Simplified code -/

section Simplify

variable {code : TypedCode}

theorem redirectJumps_congr {replace replace' : String → String}
    {instruction : Instruction Invocation}
    (same : ∀ target ∈ instruction.targets, replace target = replace' target) :
    redirectJumps replace instruction = redirectJumps replace' instruction := by
  cases instruction with
  | invoke call => rfl
  | control op =>
      cases op with
      | condBranch target line => simp [redirectJumps, redirect, same target List.mem_cons_self]
      | branch target line => simp [redirectJumps, redirect, same target List.mem_cons_self]
      | multiBranch targets line =>
          have all : targets.map replace = targets.map replace' := List.map_congr_left same
          simp [redirectJumps, redirect, all]
      | _ => rfl

/-- Only labels are dropped. -/
theorem mem_keptFrom {rest : TypedCode} {instruction : Instruction Invocation}
    (mem : instruction ∈ rest) (notLabel : instruction.label? = none) :
    instruction ∈ keptFrom code rest := by
  induction rest with
  | nil => cases mem
  | cons first rest ih =>
      rcases keptFrom_cons code first rest with kept | ⟨a, _, _, _, same, -, -, dropped⟩
      · rw [kept]
        exact (List.mem_cons.1 mem).elim (fun here => here ▸ List.mem_cons_self)
          fun later => List.mem_cons_of_mem _ (ih later)
      · rw [dropped]
        rcases List.mem_cons.1 mem with rfl | later
        · rw [same] at notLabel
          cases notLabel
        · exact ih later

/-- The jumps to a label are all sent on, to the label that stands in for it. -/
theorem standInBy_eq_of_mergeLabelsBy_eq {arrange arrange' : List String → List String}
    (same : mergeLabelsBy arrange code = mergeLabelsBy arrange' code) {target : String}
    (jumps : target ∈ code.flatMap Instruction.targets) :
    standInBy arrange code target = standInBy arrange' code target := by
  obtain ⟨instruction, mem, listed⟩ := List.mem_flatMap.1 jumps
  have plain : instruction.label? = none := by
    cases instruction with
    | invoke call => rfl
    | control op => exact label?_of_targets listed
  have kept : instruction ∈ keptFrom code code := mem_keptFrom mem plain
  rw [mergeLabelsBy_eq_map, mergeLabelsBy_eq_map, List.map_inj_left] at same
  have targets := congrArg Instruction.targets (same instruction kept)
  rw [targets_redirectJumps, targets_redirectJumps, List.map_inj_left] at targets
  exact targets target listed

theorem mergeLabelsBy_eq_of_untangled (clean : Untangled code)
    {arrange : List String → List String} (perm : ∀ names, (arrange names).Perm names) :
    mergeLabelsBy arrange code = mergeLabels code := by
  rw [mergeLabels, mergeLabelsBy_eq_map, mergeLabelsBy_eq_map, List.map_inj_left]
  intro instruction mem
  refine redirectJumps_congr fun target listed => standInBy_eq perm (clean target ?_)
  exact List.mem_flatMap.2 ⟨instruction, (keptFrom_sublist code code).subset mem, listed⟩

theorem untangled_of_mergeLabelsBy_eq
    (same : ∀ arrange : List String → List String, (∀ names, (arrange names).Perm names) →
      mergeLabelsBy arrange code = mergeLabels code) : Untangled code := by
  rintro target jumps ⟨b, c, path, step, apart, back⟩
  have atB : standInBy (startWith b) code target = b := standInBy_startWith path step back
  obtain ⟨next, step', rest⟩ := TransGen.head'_iff.1 (TransGen.tail' back step)
  have atC : standInBy (startWith c) code target = c :=
    standInBy_startWith (path.tail step) step' rest
  have together := (same _ (startWith_perm b)).trans (same _ (startWith_perm c)).symm
  rw [← atB, ← atC] at apart
  exact apart (standInBy_eq_of_mergeLabelsBy_eq together jumps)

theorem defined_mergeLabels (clean : Untangled code) (defined : Defined code) :
    Defined (mergeLabels code) := by
  intro instruction mem target jumps
  rw [mergeLabels, mergeLabelsBy_eq_map] at mem ⊢
  obtain ⟨source, kept, rfl⟩ := List.mem_map.1 mem
  rw [targets_redirectJumps] at jumps
  obtain ⟨label, listed, rfl⟩ := List.mem_map.1 jumps
  have old := (keptFrom_sublist code code).subset kept
  rw [labels_map_redirectJumps]
  exact standInBy_mem_labels (fun _ => .refl _)
    (clean label (List.mem_flatMap.2 ⟨source, old, listed⟩)) (defined source old label listed)

/-- Of code that defines every label it jumps to, merging makes the same code in whatever order the
replaced labels are gone through exactly if no jump goes to a tangled label.  Then there is one
simplified code, it defines every label it jumps to, and it has regions.  Code that defines no label
twice is of this kind. -/
theorem simplify_order_exact (defined : Defined code) :
    ((∀ arrange : List String → List String, (∀ names, (arrange names).Perm names) →
        mergeLabelsBy arrange code = mergeLabels code) ↔ Untangled code) ∧
      (Untangled code →
        (∀ arrange : List String → List String, (∀ names, (arrange names).Perm names) →
          dropJumps (mergeLabelsBy arrange code) = simplify code) ∧
        Defined (simplify code) ∧
        ∀ method, ∃ regions, Region.structured method (simplify code) = .ok regions) ∧
      ((labels code).Nodup → Untangled code) := by
  refine ⟨⟨untangled_of_mergeLabelsBy_eq, fun clean _ perm => ?_⟩, fun clean => ?_,
    untangled_of_nodup⟩
  · exact mergeLabelsBy_eq_of_untangled clean perm
  · have closed : Defined (simplify code) := (defined_mergeLabels clean defined).dropJumps
    refine ⟨fun arrange perm => ?_, closed, fun method => Region.exists_structured_iff.2 closed⟩
    rw [mergeLabelsBy_eq_of_untangled clean perm, simplify]

/-- A label dropped for one that is repeated, and dropped once more in front of itself. -/
def sampleRepeated : TypedCode :=
  [.control (.label "a"), .control (.label "b"), .invoke (sampleCall "f"),
    .control (.condBranch "a" none), .invoke (sampleCall "g"), .control (.label "b"),
    .control (.label "b"), .control (.ret none)]

/-- Repeated labels alone do no harm. -/
theorem simplify_order_exact_sampleRepeated :
    ¬ (labels sampleRepeated).Nodup ∧ Defined sampleRepeated ∧ Untangled sampleRepeated ∧
      simplify sampleRepeated =
        [.control (.label "b"), .invoke (sampleCall "f"), .control (.condBranch "b" none),
          .invoke (sampleCall "g"), .control (.label "b"), .control (.ret none)] ∧
      dropJumps (mergeLabelsBy List.reverse sampleRepeated) = simplify sampleRepeated ∧
      Defined (simplify sampleRepeated) := by
  have further : ∀ entry ∈ (Table.ofList (standIns sampleRepeated sampleRepeated)).entries,
      entry.1 ≠ entry.2 → (firstLabel? sampleRepeated entry.1).getD 0 <
        (firstLabel? sampleRepeated entry.2).getD 0 := by decide
  have clean : Untangled sampleRepeated := fun _ _ =>
    not_tangled_of_rank (fun name => (firstLabel? sampleRepeated name).getD 0)
      fun a b step => further (a, b) (Table.get?_eq_some_iff.1 step)
  have defined : Defined sampleRepeated := by decide
  obtain ⟨-, once, -⟩ := simplify_order_exact defined
  obtain ⟨same, closed, -⟩ := once clean
  exact ⟨by decide, defined, clean, by decide, same List.reverse List.reverse_perm, closed⟩

/-- Two labels that replace each other, with a jump to the one that is dropped. -/
def sampleTangle : TypedCode :=
  [.control (.label "b"), .control (.label "a"), .control (.label "b"),
    .control (.condBranch "a" none), .control (.ret none)]

/-- With the replaced labels in order the jump goes to a label that is gone, and in reverse order it
does not. -/
theorem simplify_sampleTangle :
    Defined sampleTangle ∧
      dropJumps (mergeLabelsBy List.reverse sampleTangle) ≠ simplify sampleTangle ∧
      Defined (dropJumps (mergeLabelsBy List.reverse sampleTangle)) ∧
      Region.structured (sampleMethod "m") (simplify sampleTangle) =
        .error (.undefinedLabel (sampleMethod "m") "a") := by
  have result : simplify sampleTangle =
      [.control (.label "b"), .control (.condBranch "a" none), .control (.ret none)] := by decide
  refine ⟨by decide, by decide, by decide, ?_⟩
  rw [result]
  rfl

end Simplify

end CallSearch.Code
