/-
# CallSearch.Proofs.Json.Reader — what was written is read back

The reader goes over the text of a value from left to right and stops where the text
ends, whatever follows it: a comma, a closing bracket or brace, or nothing
(`Follows`).  Values that hold no numbers but natural ones of 64 bits and nothing
unreadable (`isPlain`) are read back as they were (`parse?_compact`), if they do not
nest too deep (`depth`).
-/
import CallSearch.Json.Reader
import CallSearch.Json.Writer
import Mathlib.Data.List.TakeDrop

namespace CallSearch.Json

set_option autoImplicit false

/-! ## Values that can be read back -/

mutual

/-- How deep arrays and objects nest in a value. -/
def depth : Json → Nat
  | .arr items => depthOfAll items + 1
  | .obj fields => depthOfFields fields + 1
  | _ => 0

/-- How deep arrays and objects nest in some values. -/
def depthOfAll : List Json → Nat
  | [] => 0
  | item :: rest => max item.depth (depthOfAll rest)

/-- How deep arrays and objects nest in the values of some fields. -/
def depthOfFields : List (String × Json) → Nat
  | [] => 0
  | (_, value) :: rest => max value.depth (depthOfFields rest)

end

mutual

/-- Whether a value has a text it is read back from: its numbers are natural numbers of 64 bits,
and nothing in it is unreadable. -/
def isPlain : Json → Bool
  | .nat value => decide (value < UInt64.size)
  | .number _ => false
  | .arr items => arePlain items
  | .obj fields => areFieldsPlain fields
  | .unreadable => false
  | _ => true

/-- Whether all values of a list have texts they are read back from. -/
def arePlain : List Json → Bool
  | [] => true
  | item :: rest => item.isPlain && arePlain rest

/-- Whether the values of all fields have texts they are read back from. -/
def areFieldsPlain : List (String × Json) → Bool
  | [] => true
  | (_, value) :: rest => value.isPlain && areFieldsPlain rest

end

namespace Reader

/-- What may follow a value inside a document or at its end. -/
inductive Follows : List Char → Prop
  | done : Follows []
  | comma {rest : List Char} : Follows (',' :: rest)
  | bracket {rest : List Char} : Follows (']' :: rest)
  | brace {rest : List Char} : Follows ('}' :: rest)

/-! ## Numbers -/

/-- The digits of a number start with no zero. -/
theorem exists_toDigits_eq_cons {n : Nat} (pos : 0 < n) :
    ∃ c rest, Nat.toDigits 10 n = c :: rest ∧ c ≠ '0' := by
  induction n using Nat.strongRecOn with
  | _ n ih =>
      by_cases small : n < 10
      · have nonzero : ∀ digit < 10, 0 < digit → digit.digitChar ≠ '0' := by decide
        exact ⟨n.digitChar, [], Nat.toDigits_of_lt_base small, nonzero n small pos⟩
      · obtain ⟨c, rest, head, nonzero⟩ := ih (n / 10) (by omega) (by omega)
        refine ⟨c, rest ++ [(n % 10).digitChar], ?_, nonzero⟩
        rw [Nat.toDigits_of_base_le (by decide) (by omega), head]
        rfl

theorem digits?_toDigits (n : Nat) {rest : List Char} (follows : Follows rest) :
    digits? (Nat.toDigits 10 n ++ rest) = some (Nat.toDigits 10 n, rest) := by
  have all : ∀ c ∈ Nat.toDigits 10 n, c.isDigit = true :=
    fun c mem => Nat.isDigit_of_mem_toDigits (by decide) (by decide) mem
  have stop : rest.takeWhile Char.isDigit = [] ∧ rest.dropWhile Char.isDigit = rest := by
    cases follows <;> exact ⟨rfl, rfl⟩
  have span : (Nat.toDigits 10 n ++ rest).span Char.isDigit = (Nat.toDigits 10 n, rest) := by
    rw [List.span_eq_takeWhile_dropWhile, List.takeWhile_append_of_pos all,
      List.dropWhile_append_of_pos all, stop.1, stop.2, List.append_nil]
  rw [digits?, span]
  split
  · next none => exact absurd (congrArg Prod.fst none) Nat.toDigits_ne_nil
  · next same => rw [← same]

theorem integer?_toDigits (n : Nat) {rest : List Char} (follows : Follows rest) :
    integer? (Nat.toDigits 10 n ++ rest) = some (Nat.toDigits 10 n, rest) := by
  rw [integer?, digits?_toDigits n follows]
  simp only [Option.bind_eq_bind, Option.bind_some]
  split
  · next zero second more leading =>
    rcases Nat.eq_zero_or_pos n with rfl | pos
    · cases leading
    · obtain ⟨c, digits, head, nonzero⟩ := exists_toDigits_eq_cons pos
      rw [head] at leading
      cases leading
      exact absurd rfl nonzero
  · rfl

theorem decimal_toDigits (n : Nat) : decimal (Nat.toDigits 10 n) = n := by
  have same : decimal (Nat.toDigits 10 n) = Nat.ofDigitChars 10 (Nat.toDigits 10 n) 0 := by
    rw [decimal, Nat.ofDigitChars_eq_foldl]
    refine congrFun (congrFun (congrArg _ ?_) _) _
    funext value c
    rw [Nat.mul_comm, Decimal.digit]
  rw [same, Nat.ofDigitChars_ten_toDigits]

theorem toDigits_append_ne_cons (n : Nat) (rest more : List Char) {c : Char}
    (other : c.isDigit = false) : Nat.toDigits 10 n ++ rest ≠ c :: more := by
  intro same
  cases head : Nat.toDigits 10 n with
  | nil => exact Nat.toDigits_ne_nil head
  | cons first digits =>
      have digit : first.isDigit = true :=
        Nat.isDigit_of_mem_toDigits (by decide) (by decide) (head ▸ List.mem_cons_self)
      rw [head] at same
      cases same
      rw [digit] at other
      cases other

theorem number?_toDigits {n : Nat} (small : n < UInt64.size) {rest : List Char}
    (follows : Follows rest) : number? (Nat.toDigits 10 n ++ rest) = some (.nat n, rest) := by
  have whole : fraction? rest = some ([], rest) ∧ exponent? rest = some ((false, []), rest) := by
    cases follows <;> exact ⟨rfl, rfl⟩
  have value : numberOf false (Nat.toDigits 10 n) [] false [] = .nat n := by
    rw [numberOf, decimal_toDigits]
    simp [small]
  rw [number?]
  · simp only [integer?_toDigits n follows, whole.1, whole.2, value, Option.bind_eq_bind,
      Option.bind_some]
    rfl
  · exact fun more => toDigits_append_ne_cons n rest more rfl

/-! ## Strings -/

theorem hexDigit?_hexDigit {n : Nat} (small : n < 16) : hexDigit? (Writer.hexDigit n) = some n := by
  have all : ∀ n < 16, hexDigit? (Writer.hexDigit n) = some n := by decide
  exact all n small

/-- One escaped character is read back. -/
theorem stringBody?_escape (fuel : Nat) (read rest : List Char) (c : Char) :
    stringBody? (fuel + 1) (some read) (Writer.escape c ++ rest) =
      stringBody? fuel (some (c :: read)) rest := by
  unfold Writer.escape
  split
  · rfl
  · rfl
  · rfl
  · rfl
  · rfl
  · rfl
  · rfl
  · split
    · next control =>
      have high : c.toNat / 16 < 16 := by omega
      have low : c.toNat % 16 < 16 := by omega
      have unit : (((0 * 16 + 0) * 16 + c.toNat / 16) * 16 + c.toNat % 16) = c.toNat := by omega
      have zero : hexDigit? '0' = some 0 := by decide
      simp only [List.cons_append, List.nil_append]
      rw [stringBody?, unicodeEscape?, hexUnit?, zero, hexDigit?_hexDigit high,
        hexDigit?_hexDigit low]
      simp only [Option.bind_eq_bind, Option.bind_some, Option.pure_def, unit]
      rw [if_neg (by omega), if_neg (by omega)]
      simp
    · next notQuote notBackslash _ _ _ _ _ plain =>
      have raw : ¬ (decide (c.toNat < 0x20) || c == '\\') = true := by
        simp only [Bool.or_eq_true, decide_eq_true_eq, beq_iff_eq]
        rintro (control | escaped)
        · exact plain control
        · exact notBackslash escaped
      rw [List.singleton_append, stringBody?, if_neg raw]
      · rfl
      · exact notQuote
      · exact fun more escaped _ => notBackslash escaped
      · exact fun letter more escaped _ => notBackslash escaped

theorem stringBody?_escaped (chars : List Char) {fuel : Nat} (read rest : List Char)
    (enough : chars.length < fuel) :
    stringBody? fuel (some read) (chars.flatMap Writer.escape ++ '"' :: rest) =
      some (some (chars.reverse ++ read), rest) := by
  induction chars generalizing fuel read with
  | nil =>
      obtain ⟨steps, rfl⟩ := Nat.exists_eq_add_of_lt enough
      rfl
  | cons c chars ih =>
      obtain ⟨steps, rfl⟩ : ∃ steps, fuel = steps + 1 := ⟨fuel - 1, by omega⟩
      rw [List.flatMap_cons, List.append_assoc, stringBody?_escape,
        ih (c :: read) (by rw [List.length_cons] at enough; omega), List.reverse_cons,
        List.append_assoc]
      rfl

theorem length_le_length_escaped (chars : List Char) :
    chars.length ≤ (chars.flatMap Writer.escape).length := by
  have nonempty (c : Char) : 1 ≤ (Writer.escape c).length := by
    unfold Writer.escape
    repeat' split
    all_goals exact Nat.le_add_left _ _
  induction chars with
  | nil => exact Nat.le_refl _
  | cons c chars ih =>
      rw [List.flatMap_cons, List.length_append, List.length_cons]
      have := nonempty c
      omega

theorem toList_quoted (text : String) :
    (Writer.quoted text).toList = '"' :: (text.toList.flatMap Writer.escape ++ ['"']) := by
  rw [Writer.quoted, String.toList_ofList]
  rfl

/-- A string is read back after its opening quote. -/
theorem string?_escaped (text : String) {fuel : Nat} (rest : List Char)
    (enough : (Writer.quoted text).toList.length ≤ fuel) :
    string? fuel (text.toList.flatMap Writer.escape ++ '"' :: rest) = some (some text, rest) := by
  have longer := length_le_length_escaped text.toList
  rw [toList_quoted, List.length_cons, List.length_append, List.length_singleton] at enough
  rw [string?, stringBody?_escaped text.toList [] rest (by omega)]
  simp

/-! ## Values -/

theorem skipBlanks_cons {c : Char} {rest : List Char} (plain : isBlank c = false) :
    skipBlanks (c :: rest) = c :: rest := by
  rw [skipBlanks, List.dropWhile_cons, plain]
  rfl

theorem compactItems_eq (items : List Json) : compactItems items = items.map compact := by
  induction items with
  | nil => rfl
  | cons item rest ih => rw [compactItems, ih, List.map_cons]

/-- The text of a field. -/
def fieldText (field : String × Json) : List Char :=
  (Writer.quoted field.1).toList ++ ':' :: field.2.compact.toList

theorem fieldText_append (name : String) (value : Json) (rest : List Char) :
    fieldText (name, value) ++ rest = '"' ::
      (name.toList.flatMap Writer.escape ++ '"' :: ':' :: (value.compact.toList ++ rest)) := by
  rw [fieldText, toList_quoted]
  simp

theorem length_fieldText (name : String) (value : Json) :
    (fieldText (name, value)).length =
      (Writer.quoted name).toList.length + value.compact.toList.length + 1 := by
  simp only [fieldText, List.length_append, List.length_cons]
  omega

theorem compactFields_eq (fields : List (String × Json)) :
    (compactFields fields).map String.toList = fields.map fieldText := by
  induction fields with
  | nil => rfl
  | cons field rest ih =>
      rw [compactFields, List.map_cons, ih, List.map_cons, fieldText]
      simp

theorem toList_compact_arr (items : List Json) : (compact (.arr items)).toList =
    '[' :: (List.intercalate [','] (items.map fun item => item.compact.toList) ++ [']']) := by
  rw [compact, compactItems_eq]
  simp [String.toList_intercalate, Function.comp_def]

theorem toList_compact_obj (fields : List (String × Json)) : (compact (.obj fields)).toList =
    '{' :: (List.intercalate [','] (fields.map fieldText) ++ ['}']) := by
  rw [compact]
  simp [String.toList_intercalate, compactFields_eq]

/-- The text of a value starts with no blank, and with no closing bracket. -/
theorem exists_compact_eq_cons : ∀ {value : Json}, value.isPlain = true →
    ∃ c more, value.compact.toList = c :: more ∧ isBlank c = false ∧ c ≠ ']'
  | .null, _ => ⟨'n', _, rfl, rfl, by decide⟩
  | .bool true, _ => ⟨'t', _, rfl, rfl, by decide⟩
  | .bool false, _ => ⟨'f', _, rfl, rfl, by decide⟩
  | .str text, _ => ⟨'"', _, by rw [compact, toList_quoted], rfl, by decide⟩
  | .arr items, _ => ⟨'[', _, toList_compact_arr items, rfl, by decide⟩
  | .obj fields, _ => ⟨'{', _, toList_compact_obj fields, rfl, by decide⟩
  | .nat n, _ => by
      rw [compact, Nat.toList_repr]
      have apart {c : Char} (other : c.isDigit = false) (more : List Char) :
          Nat.toDigits 10 n ≠ c :: more := by
        have := toDigits_append_ne_cons n [] more other
        rwa [List.append_nil] at this
      cases head : Nat.toDigits 10 n with
      | nil => exact absurd head Nat.toDigits_ne_nil
      | cons c more =>
          refine ⟨c, more, rfl, ?_, ?_⟩
          · by_contra blank
            simp only [isBlank, Bool.not_eq_false, Bool.or_eq_true, beq_iff_eq] at blank
            rcases blank with ((rfl | rfl) | rfl) | rfl
            all_goals exact apart rfl more head
          · rintro rfl
            exact apart rfl more head

/-- A number is read where a value stands: its first digit starts no other value. -/
theorem value?_toDigits {n : Nat} (small : n < UInt64.size) (steps depth : Nat) {rest : List Char}
    (follows : Follows rest) :
    value? (steps + 1) depth (Nat.toDigits 10 n ++ rest) = some (.nat n, rest) := by
  have apart {c : Char} (other : c.isDigit = false) (more : List Char) :
      Nat.toDigits 10 n ++ rest ≠ c :: more := toDigits_append_ne_cons n rest more other
  have start : skipBlanks (Nat.toDigits 10 n ++ rest) = Nat.toDigits 10 n ++ rest := by
    have isPlain : (Json.nat n).isPlain = true := decide_eq_true small
    obtain ⟨c, more, head, visible, -⟩ := exists_compact_eq_cons isPlain
    rw [compact, Nat.toList_repr] at head
    rw [head, List.cons_append, skipBlanks_cons visible]
  rw [value?, start]
  split
  · next none => exact absurd (List.append_eq_nil_iff.1 none).1 Nat.toDigits_ne_nil
  · next same => exact absurd same (apart rfl _)
  · next same => exact absurd same (apart rfl _)
  · next same => exact absurd same (apart rfl _)
  · next same => exact absurd same (apart rfl _)
  · next same => exact absurd same (apart rfl _)
  · next same => exact absurd same (apart rfl _)
  · exact number?_toDigits small follows

theorem objectOf_eq (fields : List (String × Json)) :
    objectOf (fields.map fun field => (some field.1, field.2)) = .obj fields := by
  have all : (fields.map fun field => (some field.1, field.2)).mapM
      (fun field : Option String × Json => field.1.map fun name => (name, field.2)) =
      some fields := by
    induction fields with
    | nil => rfl
    | cons field rest ih =>
        rw [List.map_cons, List.mapM_cons, ih]
        rfl
  rw [objectOf, all]

/-- The texts of some items with commas between them start as the text of the first. -/
theorem exists_intercalate_eq_cons {first : Json} (plain : first.isPlain = true)
    (items : List Json) (rest : List Char) : ∃ c more,
      List.intercalate [','] ((first :: items).map fun item => item.compact.toList) ++ rest =
        c :: more ∧ isBlank c = false ∧ c ≠ ']' := by
  obtain ⟨c, more, head, visible, notClosing⟩ := exists_compact_eq_cons plain
  cases items with
  | nil =>
      rw [List.map_singleton, List.intercalate_singleton, head]
      exact ⟨c, _, rfl, visible, notClosing⟩
  | cons second items =>
      rw [List.map_cons, List.map_cons, List.intercalate_cons_cons, head]
      exact ⟨c, _, rfl, visible, notClosing⟩

theorem exists_intercalate_fields_eq_cons (first : String × Json) (fields : List (String × Json))
    (rest : List Char) : ∃ more,
      List.intercalate [','] ((first :: fields).map fieldText) ++ rest = '"' :: more := by
  obtain ⟨name, value⟩ := first
  cases fields with
  | nil =>
      rw [List.map_singleton, List.intercalate_singleton, fieldText_append]
      exact ⟨_, rfl⟩
  | cons second fields =>
      rw [List.map_cons, List.map_cons, List.intercalate_cons_cons, List.append_assoc,
        List.append_assoc, fieldText_append]
      exact ⟨_, rfl⟩

/-- Reading fields from the text of the first, the value of which is read back. -/
theorem fields?_fieldText {name : String} {value : Json} {steps depth : Nat} {rest : List Char}
    (enough : (Writer.quoted name).toList.length ≤ steps + 1)
    (read : value? steps depth (value.compact.toList ++ rest) = some (value, rest)) :
    fields? (steps + 1) depth (fieldText (name, value) ++ rest) =
      match skipBlanks rest with
      | '}' :: rest => some ([(some name, value)], rest)
      | ',' :: rest =>
          (fields? steps depth rest).bind fun (fields, rest) =>
            some ((some name, value) :: fields, rest)
      | _ => none := by
  have colon : skipBlanks (':' :: (value.compact.toList ++ rest)) =
      ':' :: (value.compact.toList ++ rest) := skipBlanks_cons rfl
  rw [fieldText_append, fields?, skipBlanks_cons rfl]
  simp only [string?_escaped name _ enough, Option.bind_eq_bind, Option.bind_some, colon, read]
  rfl

mutual

/-- A value is read back from its text, whatever follows. -/
theorem value?_compact : ∀ (value : Json) (steps depth : Nat) (rest : List Char),
    value.isPlain = true → value.depth ≤ depth → value.compact.toList.length ≤ steps →
    Follows rest → value? (steps + 1) depth (value.compact.toList ++ rest) = some (value, rest)
  | .null => fun _ _ _ _ _ _ _ => rfl
  | .bool true => fun _ _ _ _ _ _ _ => rfl
  | .bool false => fun _ _ _ _ _ _ _ => rfl
  | .nat n => by
      intro steps depth rest plain _ _ follows
      rw [compact, Nat.toList_repr]
      exact value?_toDigits (of_decide_eq_true plain) steps depth follows
  | .str text => by
      intro steps depth rest _ _ enough _
      rw [compact] at enough ⊢
      have body := string?_escaped text rest (Nat.le_succ_of_le enough)
      rw [toList_quoted, List.cons_append, List.append_assoc, value?, skipBlanks_cons rfl]
      exact congrArg (Option.bind · _) body
  | .arr items => by
      intro steps depth rest plain shallow enough _
      rw [Json.depth] at shallow
      obtain ⟨depth, rfl⟩ : ∃ inner, depth = inner + 1 := ⟨depth - 1, by omega⟩
      rw [Nat.add_le_add_iff_right] at shallow
      rw [toList_compact_arr] at enough ⊢
      simp only [List.length_cons, List.length_append] at enough
      obtain ⟨steps, rfl⟩ : ∃ fewer, steps = fewer + 1 := ⟨steps - 1, by omega⟩
      rw [List.cons_append, List.append_assoc, List.singleton_append, value?, skipBlanks_cons rfl]
      cases items with
      | nil => rfl
      | cons first items =>
          have inside := items?_compact (first :: items) steps depth rest (List.cons_ne_nil _ _)
            plain shallow (by omega)
          obtain ⟨c, more, head, visible, notClosing⟩ := exists_intercalate_eq_cons
            (Bool.and_eq_true_iff.1 plain).1 items (']' :: rest)
          rw [head] at inside ⊢
          simp only [skipBlanks_cons visible]
          split
          · next closing => exact absurd (List.cons.inj closing).1 notClosing
          · rw [inside]
            rfl
  | .obj fields => by
      intro steps depth rest plain shallow enough _
      rw [Json.depth] at shallow
      obtain ⟨depth, rfl⟩ : ∃ inner, depth = inner + 1 := ⟨depth - 1, by omega⟩
      rw [Nat.add_le_add_iff_right] at shallow
      rw [toList_compact_obj] at enough ⊢
      simp only [List.length_cons, List.length_append] at enough
      obtain ⟨steps, rfl⟩ : ∃ fewer, steps = fewer + 1 := ⟨steps - 1, by omega⟩
      rw [List.cons_append, List.append_assoc, List.singleton_append, value?, skipBlanks_cons rfl]
      cases fields with
      | nil => rfl
      | cons first fields =>
          have inside := fields?_compact (first :: fields) steps depth rest (List.cons_ne_nil _ _)
            plain shallow (by omega)
          obtain ⟨more, head⟩ := exists_intercalate_fields_eq_cons first fields ('}' :: rest)
          have start : skipBlanks ('"' :: more) = '"' :: more := skipBlanks_cons rfl
          rw [head] at inside ⊢
          simp only [start]
          show (Reader.fields? (steps + 1) depth ('"' :: more)).bind _ = _
          rw [inside]
          exact congrArg (fun value => some (value, rest)) (objectOf_eq (first :: fields))
  | .number _ => fun _ _ _ plain => by cases plain
  | .unreadable => fun _ _ _ plain => by cases plain

/-- Items are read back up to the closing bracket. -/
theorem items?_compact : ∀ (items : List Json) (steps depth : Nat) (rest : List Char),
    items ≠ [] → arePlain items = true → depthOfAll items ≤ depth →
    (List.intercalate [','] (items.map fun item => item.compact.toList)).length < steps →
    items? (steps + 1) depth (List.intercalate [','] (items.map fun item => item.compact.toList) ++
      ']' :: rest) = some (items, rest)
  | [] => fun _ _ _ nonempty => absurd rfl nonempty
  | [item] => by
      intro steps depth rest _ plain shallow enough
      obtain ⟨steps, rfl⟩ : ∃ fewer, steps = fewer + 1 := ⟨steps - 1, by omega⟩
      rw [arePlain, arePlain, Bool.and_true] at plain
      rw [depthOfAll, depthOfAll, Nat.max_zero] at shallow
      rw [List.map_singleton, List.intercalate_singleton] at enough ⊢
      rw [items?, value?_compact item steps depth _ plain shallow (by omega) .bracket]
      rfl
  | item :: second :: more => by
      intro steps depth rest _ plain shallow enough
      obtain ⟨steps, rfl⟩ : ∃ fewer, steps = fewer + 1 := ⟨steps - 1, by omega⟩
      rw [arePlain, Bool.and_eq_true_iff] at plain
      rw [depthOfAll, Nat.max_le] at shallow
      rw [List.map_cons, List.map_cons, List.intercalate_cons_cons] at enough ⊢
      simp only [List.length_append, List.length_singleton] at enough
      have later := items?_compact (second :: more) steps depth rest (List.cons_ne_nil _ _) plain.2
        shallow.2 (by rw [List.map_cons]; omega)
      rw [List.map_cons] at later
      rw [List.append_assoc, List.append_assoc, List.singleton_append, items?,
        value?_compact item steps depth _ plain.1 shallow.1 (by omega) .comma]
      exact congrArg (Option.bind · _) later

/-- Fields are read back up to the closing brace. -/
theorem fields?_compact : ∀ (fields : List (String × Json)) (steps depth : Nat) (rest : List Char),
    fields ≠ [] → areFieldsPlain fields = true → depthOfFields fields ≤ depth →
    (List.intercalate [','] (fields.map fieldText)).length < steps →
    fields? (steps + 1) depth (List.intercalate [','] (fields.map fieldText) ++ '}' :: rest) =
      some (fields.map fun field => (some field.1, field.2), rest)
  | [] => fun _ _ _ nonempty => absurd rfl nonempty
  | [(name, value)] => by
      intro steps depth rest _ plain shallow enough
      obtain ⟨steps, rfl⟩ : ∃ fewer, steps = fewer + 1 := ⟨steps - 1, by omega⟩
      rw [areFieldsPlain, areFieldsPlain, Bool.and_true] at plain
      rw [depthOfFields, depthOfFields, Nat.max_zero] at shallow
      rw [List.map_singleton, List.intercalate_singleton] at enough ⊢
      rw [length_fieldText] at enough
      rw [fields?_fieldText (by omega)
        (value?_compact value steps depth _ plain shallow (by omega) .brace)]
      rfl
  | (name, value) :: second :: more => by
      intro steps depth rest _ plain shallow enough
      obtain ⟨steps, rfl⟩ : ∃ fewer, steps = fewer + 1 := ⟨steps - 1, by omega⟩
      rw [areFieldsPlain, Bool.and_eq_true_iff] at plain
      rw [depthOfFields, Nat.max_le] at shallow
      rw [List.map_cons, List.map_cons, List.intercalate_cons_cons] at enough ⊢
      simp only [List.length_append, List.length_singleton, length_fieldText] at enough
      have later := fields?_compact (second :: more) steps depth rest (List.cons_ne_nil _ _) plain.2
        shallow.2 (by rw [List.map_cons]; omega)
      rw [List.map_cons] at later
      rw [List.append_assoc, List.append_assoc, List.singleton_append, fields?_fieldText (by omega)
        (value?_compact value steps depth _ plain.1 shallow.1 (by omega) .comma)]
      exact congrArg (Option.bind · _) later

end

end Reader

/-- A value without numbers other than natural ones of 64 bits and without unreadable parts is what
its text writes, if it nests no deeper than what can be read. -/
theorem parse?_compact {value : Json} (plain : value.isPlain = true)
    (shallow : value.depth ≤ maxDepth) : parse? value.compact = some value := by
  have read := Reader.value?_compact value (2 * value.compact.toList.length + 1) maxDepth [] plain
    shallow (by omega) .done
  rw [List.append_nil] at read
  rw [parse?, read]
  rfl

end CallSearch.Json
