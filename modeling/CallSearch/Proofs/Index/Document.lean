/-
# CallSearch.Proofs.Index.Document — the documents of an index

Every part of an index has a document that stores it (`Json.Stores`): methods, calls
with and without a place, call nodes with and without a context, trees, summaries and
their table.  Numbers must fit into the words they are stored in (`InWords`).
-/
import CallSearch.Index.Document
import CallSearch.Proofs.Json.Decode
import CallSearch.Proofs.Sorted
import CallSearch.Proofs.Table

namespace CallSearch

set_option autoImplicit false

open Json

/-! ## Numbers -/

/-- The number of a call fits into 64 bits, and its line into 32. -/
def Locator.InWords (locator : Locator) : Prop :=
  locator.ordinal < UInt64.size ∧ ∀ line ∈ locator.line, line < UInt32.size

instance (locator : Locator) : Decidable locator.InWords :=
  inferInstanceAs (Decidable (_ ∧ ∀ line ∈ locator.line, line < UInt32.size))

/-- The numbers of a call fit into their words. -/
def Invocation.InWords (call : Invocation) : Prop := ∀ locator ∈ call.locator, locator.InWords

instance (call : Invocation) : Decidable call.InWords :=
  inferInstanceAs (Decidable (∀ locator ∈ call.locator, locator.InWords))

/-- The numbers of a call node fit into their words, the number of its body into 64 bits. -/
def CallNode.InWords (node : CallNode) : Prop := node.call.InWords ∧ node.body < UInt64.size

instance (node : CallNode) : Decidable node.InWords :=
  inferInstanceAs (Decidable (node.call.InWords ∧ node.body < UInt64.size))

/-- The numbers of a leaf of a body fit into their words. -/
def CallItem.InWords : CallItem → Prop
  | .invoked site => site.InWords
  | .call node => node.InWords

instance : (item : CallItem) → Decidable item.InWords
  | .invoked site => inferInstanceAs (Decidable site.InWords)
  | .call node => inferInstanceAs (Decidable node.InWords)

/-- All numbers of a forest fit into their words. -/
def Forest.InWords (forest : Forest) : Prop :=
  (∀ root ∈ forest.roots, root.InWords) ∧
    ∀ body ∈ forest.bodies, ∀ item ∈ body.leaves, item.InWords

instance (forest : Forest) : Decidable forest.InWords :=
  inferInstanceAs (Decidable ((∀ root ∈ forest.roots, root.InWords) ∧
    ∀ body ∈ forest.bodies, ∀ item ∈ body.leaves, item.InWords))

/-! ## Methods and calls -/

theorem stores_texts (texts : List String) :
    Stores (list? str?) (.ofList .str texts) texts :=
  stores_list fun text _ => stores_str text

theorem Signature.stores (method : Signature) : Stores ofJson? method.toJson method where
  decoded := by
    have params := (stores_texts method.params).decoded
    rw [ofJson?, toJson, fields?_obj rfl (by decide)]
    simp [Fields.required, Fields.withDefault, str?, params]
  plain := by
    have params := (stores_texts method.params).plain
    simp [toJson, isPlain, areFieldsPlain, params]

theorem stores_methods (methods : List Signature) :
    Stores (list? Signature.ofJson?) (.ofList Signature.toJson methods) methods :=
  stores_list fun method _ => method.stores

theorem stores_context (context : Option Signature) :
    Stores (option? Signature.ofJson?) (.ofOption Signature.toJson context) context :=
  stores_option (fun method _ => method.stores) fun _ => Json.noConfusion

theorem CallKind.stores (kind : CallKind) : Stores ofJson? kind.toJson kind := by
  cases kind <;> exact ⟨rfl, rfl⟩

theorem Locator.stores {locator : Locator} (words : locator.InWords) :
    Stores ofJson? locator.toJson locator where
  decoded := by
    have method := locator.method.stores.decoded
    have ordinal := (stores_nat words.1).decoded
    have line := (stores_option (fun line mem => stores_nat32 (words.2 line mem))
      fun _ => Json.noConfusion).decoded
    rw [ofJson?, toJson, fields?_obj rfl (by decide)]
    simp [Fields.required, Fields.optional, Fields.withDefault, method, ordinal, line]
  plain := by
    have method := locator.method.stores.plain
    have line := (stores_option (fun line mem => stores_nat32 (words.2 line mem))
      fun _ => Json.noConfusion).plain
    simp [toJson, isPlain, areFieldsPlain, method, words.1, line]

theorem Invocation.stores {call : Invocation} (words : call.InWords) :
    Stores ofJson? call.toJson call where
  decoded := by
    have kind := call.kind.stores.decoded
    have callee := call.callee.stores.decoded
    have literals := (stores_texts call.literals).decoded
    have locator := (stores_option (fun locator mem => Locator.stores (words locator mem))
      fun _ => Json.noConfusion).decoded
    rw [ofJson?, toJson, fields?_obj rfl (by decide)]
    simp [Fields.required, Fields.optional, Fields.withDefault, kind, callee, literals, locator]
  plain := by
    have kind := call.kind.stores.plain
    have callee := call.callee.stores.plain
    have literals := (stores_texts call.literals).plain
    have locator := (stores_option (fun locator mem => Locator.stores (words locator mem))
      fun _ => Json.noConfusion).plain
    simp [toJson, isPlain, areFieldsPlain, kind, callee, literals, locator]

/-! ## Call forests -/

theorem NodeKey.stores (key : NodeKey) : Stores ofJson? key.toJson key where
  decoded := by
    have callee := key.callee.stores.decoded
    have context := (stores_context key.context).decoded
    rw [ofJson?, toJson, fields?_obj rfl (by decide)]
    simp [Fields.required, Fields.optional, Fields.withDefault, callee, context]
  plain := by
    have callee := key.callee.stores.plain
    have context := (stores_context key.context).plain
    simp [toJson, isPlain, areFieldsPlain, callee, context]

theorem CallNode.stores {node : CallNode} (words : node.InWords) :
    Stores ofJson? node.toJson node where
  decoded := by
    have call := (Invocation.stores words.1).decoded
    have context := (stores_context node.context).decoded
    have body := (stores_nat words.2).decoded
    rw [ofJson?, toJson, fields?_obj rfl (by decide)]
    simp [Fields.required, Fields.optional, Fields.withDefault, call, context, body]
  plain := by
    have call := (Invocation.stores words.1).plain
    have context := (stores_context node.context).plain
    simp [toJson, isPlain, areFieldsPlain, call, context, words.2]

theorem CallItem.stores {item : CallItem} (words : item.InWords) :
    Stores ofJson? item.toJson item where
  decoded := by
    cases item with
    | invoked site =>
        have contents := (Invocation.stores words).decoded
        simp [ofJson?, toJson, choice?, contents]
    | call node =>
        have contents := (CallNode.stores words).decoded
        simp [ofJson?, toJson, choice?, contents]
  plain := by
    cases item with
    | invoked site =>
        have contents := (Invocation.stores words).plain
        simp [toJson, isPlain, areFieldsPlain, contents]
    | call node =>
        have contents := (CallNode.stores words).plain
        simp [toJson, isPlain, areFieldsPlain, contents]

section Tree

variable {α : Type} {encode : α → Json} {decode : Json → Option α}

mutual

/-- The document of a tree stores it if the documents of the leaves store them. -/
theorem Tree.stores : ∀ {tree : Tree α},
    (∀ item ∈ tree.leaves, Stores decode (encode item) item) →
    Stores (Tree.ofJson? decode) (tree.toJson encode) tree
  | .leaf item, each => by
      have contents := each item (List.mem_singleton_self item)
      exact ⟨by simp [Tree.toJson, Tree.ofJson?, contents.decoded],
        by simp [Tree.toJson, isPlain, areFieldsPlain, contents.plain]⟩
  | .seq parts, each => by
      obtain ⟨decoded, plain⟩ := Tree.storesAll parts each
      exact ⟨by simp [Tree.toJson, Tree.ofJson?, decoded],
        by simp [Tree.toJson, isPlain, areFieldsPlain, plain]⟩
  | .alt parts, each => by
      obtain ⟨decoded, plain⟩ := Tree.storesAll parts each
      exact ⟨by simp [Tree.toJson, Tree.ofJson?, decoded],
        by simp [Tree.toJson, isPlain, areFieldsPlain, plain]⟩

theorem Tree.storesAll : ∀ parts : List (Tree α),
    (∀ item ∈ Tree.leavesOfAll parts, Stores decode (encode item) item) →
    Tree.ofJsonAll? decode (Tree.toJsonAll encode parts) = some parts ∧
      arePlain (Tree.toJsonAll encode parts) = true
  | [], _ => ⟨rfl, rfl⟩
  | part :: rest, each => by
      have first : Stores (Tree.ofJson? decode) (part.toJson encode) part :=
        Tree.stores fun item mem => each item (List.mem_append_left _ mem)
      obtain ⟨decoded, plain⟩ := Tree.storesAll rest fun item mem =>
        each item (List.mem_append_right _ mem)
      exact ⟨by simp [Tree.toJsonAll, Tree.ofJsonAll?, first.decoded, decoded],
        by simp [Tree.toJsonAll, arePlain, first.plain, plain]⟩

end

end Tree

theorem Forest.stores {forest : Forest} (words : forest.InWords) :
    Stores ofJson? forest.toJson forest where
  decoded := by
    have roots := (stores_list fun root mem => CallNode.stores (words.1 root mem)).decoded
    have bodies := (stores_list fun body mem => Tree.stores fun item leaf =>
      CallItem.stores (words.2 body mem item leaf)).decoded
    rw [ofJson?, toJson, fields?_obj rfl (by decide)]
    simp [Fields.required, roots, bodies]
  plain := by
    have roots := (stores_list fun root mem => CallNode.stores (words.1 root mem)).plain
    have bodies := (stores_list fun body mem => Tree.stores fun item leaf =>
      CallItem.stores (words.2 body mem item leaf)).plain
    simp [toJson, isPlain, areFieldsPlain, roots, bodies]

/-! ## Summaries -/

theorem SortedSet.ofList_toList {α : Type} [Ord α] [Std.TransOrd α] [Std.LawfulEqOrd α]
    (s : SortedSet α) : ofList s.toList = s :=
  SortedSet.ext (sortUnique_eq_self s.increasing)

theorem Summary.stores (summary : Summary) : Stores ofJson? summary.toJson summary where
  decoded := by
    have callees := (stores_methods summary.callees.toList).decoded
    have literals := (stores_texts summary.literals.toList).decoded
    rw [ofJson?, toJson, fields?_obj rfl (by decide)]
    simp [Fields.required, callees, literals, SortedSet.ofList_toList]
  plain := by
    have callees := (stores_methods summary.callees.toList).plain
    have literals := (stores_texts summary.literals.toList).plain
    simp [toJson, isPlain, areFieldsPlain, callees, literals]

theorem SummaryTable.stores_entry (entry : NodeKey × Summary) :
    Stores entryOfJson? (entryToJson entry) entry where
  decoded := by
    have key := entry.1.stores.decoded
    have summary := entry.2.stores.decoded
    rw [entryOfJson?, entryToJson, fields?_obj rfl (by decide)]
    simp [Fields.required, key, summary]
  plain := by
    have key := entry.1.stores.plain
    have summary := entry.2.stores.plain
    simp [entryToJson, isPlain, areFieldsPlain, key, summary]

theorem SummaryTable.stores (summaries : SummaryTable) :
    Stores ofJson? (toJson summaries) summaries where
  decoded := by
    have entries := (stores_list fun entry (_ : entry ∈ summaries.entries) =>
      stores_entry entry).decoded
    rw [ofJson?, toJson, entries]
    simp [Table.ofList_entries]
  plain := (stores_list fun entry (_ : entry ∈ summaries.entries) => stores_entry entry).plain

/-- The document of an index stores it. -/
theorem Index.stores {index : Index} (words : index.forest.InWords) :
    Stores ofJson? index.toJson index where
  decoded := by
    have entryPoints := (stores_methods index.entryPoints).decoded
    have forest := (Forest.stores words).decoded
    have summaries := (SummaryTable.stores index.summaries).decoded
    rw [ofJson?, toJson, fields?_obj rfl (by decide)]
    simp [Fields.required, entryPoints, forest, summaries]
  plain := by
    have entryPoints := (stores_methods index.entryPoints).plain
    have forest := (Forest.stores words).plain
    have summaries := (SummaryTable.stores index.summaries).plain
    simp [toJson, isPlain, areFieldsPlain, entryPoints, forest, summaries]

end CallSearch
