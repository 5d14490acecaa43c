/-
# CallSearch.Regex.Parser — how regular expressions are written

`Regex.parse?` reads the usual notation: alternatives and concatenations of
characters, `.`, bracketed classes, groups and escapes, each followed by any number
of repetition operators.

Groups may carry flags, and a group of flags alone changes the flags up to the end
of the group around it, across alternatives.  Look-around, references to groups and
escapes of other letters and digits are refused, and so are expressions that nest
deeper than `Regex.maxDepth` or whose automata are too large, unless they stand for
a few words only.

Every step consumes a character, so the parser is given as many steps as the text
has characters.
-/
import CallSearch.Json.Reader
import CallSearch.Regex.Automaton
import CallSearch.Regex.Property
import CallSearch.Regex.Words

namespace CallSearch.Regex

set_option autoImplicit false

/-- How deep an expression may nest. -/
def maxDepth : Nat := 250

/-- The flags in force at some place. -/
structure Flags where
  ignoreCase : Bool := false
  /-- Whether `^` and `$` also hold at the ends of lines. -/
  multiLine : Bool := false
  /-- Whether `.` matches the end of a line. -/
  dotAll : Bool := false
  unicode : Bool := true
  /-- Whether blanks and comments are ignored. -/
  verbose : Bool := false
  /-- Whether lines may end in a carriage return. -/
  crlf : Bool := false
  /-- Whether repetitions prefer few matches unless they are marked. -/
  swapGreed : Bool := false
deriving DecidableEq, Inhabited

namespace Flags

/-- Set the flag with a given letter. -/
def set? (flags : Flags) (value : Bool) : Char → Option Flags
  | 'i' => some { flags with ignoreCase := value }
  | 'm' => some { flags with multiLine := value }
  | 's' => some { flags with dotAll := value }
  | 'u' => some { flags with unicode := value }
  | 'x' => some { flags with verbose := value }
  | 'R' => some { flags with crlf := value }
  | 'U' => some { flags with swapGreed := value }
  | _ => none

/-- Drop blanks and comments; a comment runs from `#` to the end of its line. -/
def dropIgnored : Bool → List Char → List Char
  | _, [] => []
  | true, c :: rest => dropIgnored (c != '\n') rest
  | false, c :: rest =>
      if Text.isBlank c then dropIgnored false rest
      else if c == '#' then dropIgnored true rest
      else c :: rest

theorem length_dropIgnored_le (comment : Bool) (cs : List Char) :
    (dropIgnored comment cs).length ≤ cs.length := by
  induction cs generalizing comment with
  | nil => cases comment <;> simp [dropIgnored]
  | cons c rest ih =>
    cases comment with
    | true => exact Nat.le_succ_of_le (ih _)
    | false =>
      rw [dropIgnored]
      split
      · exact Nat.le_succ_of_le (ih false)
      · split
        · exact Nat.le_succ_of_le (ih true)
        · exact Nat.le_refl _

/-- Drop what the flags say to ignore. -/
def skip (flags : Flags) (cs : List Char) : List Char :=
  if flags.verbose then dropIgnored false cs else cs

theorem length_skip_le (flags : Flags) (cs : List Char) :
    (flags.skip cs).length ≤ cs.length := by
  rw [skip]
  split
  · exact length_dropIgnored_le false cs
  · exact Nat.le_refl _

/-- What is left after a character and what the flags say to ignore is shorter. -/
theorem length_skip_lt (flags : Flags) (c : Char) (rest : List Char) :
    (flags.skip rest).length < (c :: rest).length :=
  Nat.lt_succ_of_le (length_skip_le flags rest)

/-- Add what differs by case, if case is ignored. -/
def fold (flags : Flags) (set : CharSet) : CharSet :=
  if !flags.ignoreCase then set
  else if flags.unicode then set.folded
  else set.asciiFolded

/-- A set as a part of an expression.  Without Unicode a set must stay within ASCII. -/
def checked? (flags : Flags) (set : CharSet) : Option CharSet :=
  if flags.unicode || set.isAscii then some set else none

/-- The set of a bracketed class with some contents. -/
def bracketed? (flags : Flags) (negated : Bool) (contents : CharSet) : Option CharSet :=
  let folded := flags.fold contents
  flags.checked? (if negated then folded.complement else folded)

/-- The set of `.`. -/
def dot? (flags : Flags) : Option CharSet :=
  if !flags.unicode then none
  else if flags.dotAll then some .all
  else if flags.crlf then some (CharSet.ofPoints [0xA, 0xD]).complement
  else some (CharSet.single 0xA).complement

/-- The condition of `^`. -/
def lineStart (flags : Flags) : Look :=
  if flags.multiLine then .lineStart flags.crlf else .textStart

/-- The condition of `$`. -/
def lineEnd (flags : Flags) : Look := if flags.multiLine then .lineEnd flags.crlf else .textEnd

end Flags

/-- What a single character or escape stands for. -/
inductive Atom where
  /-- A character; `byte` if it is written by the two digits of a byte. -/
  | literal (point : Nat) (byte : Bool)
  | set (set : CharSet)
  | look (condition : Look)

namespace Parser

/-! ## Numbers -/

/-- Whether a number is a code point of a character. -/
def isScalar (point : Nat) : Bool := point < 0xD800 || (0xE000 ≤ point && point < 0x110000)

/-- A given number of hexadecimal digits. -/
def fixedHex? (flags : Flags) : Nat → Nat → List Char → Option (Nat × List Char)
  | 0, value, cs => some (value, cs)
  | _ + 1, _, [] => none
  | count + 1, value, c :: rest => do
      let digit ← Json.Reader.hexDigit? c
      fixedHex? flags count (value * 16 + digit) (flags.skip rest)

/-- Hexadecimal digits up to a closing brace, at least one. -/
def bracedHex? (flags : Flags) (value : Option Nat) : List Char → Option (Nat × List Char)
  | [] => none
  | c :: rest =>
      if c == '}' then value.map fun value => (value, flags.skip rest)
      else do
        let digit ← Json.Reader.hexDigit? c
        bracedHex? flags (some (value.getD 0 * 16 + digit)) (flags.skip rest)
termination_by cs => cs.length
decreasing_by exact flags.length_skip_lt c rest

/-- The character of an escape in hexadecimal, in braces or with a fixed number of digits. -/
def hexEscape? (flags : Flags) (digits : Nat) (cs : List Char) : Option (Atom × List Char) := do
  let (point, byte, rest) ←
    match flags.skip cs with
    | '{' :: rest => do
        let (point, rest) ← bracedHex? flags none (flags.skip rest)
        pure (point, false, rest)
    | cs => do
        let (point, rest) ← fixedHex? flags digits 0 cs
        pure (point, digits == 2, rest)
  if isScalar point then return (.literal point byte, rest) else none

/-- Decimal digits; what the flags ignore may stand between them. -/
def decimalDigits (flags : Flags) : List Char → List Char × List Char
  | [] => ([], [])
  | c :: rest =>
      if c.isDigit then
        let (digits, rest) := decimalDigits flags (flags.skip rest)
        (c :: digits, rest)
      else ([], c :: rest)
termination_by cs => cs.length
decreasing_by exact flags.length_skip_lt c rest

/-- A decimal number of at most 32 bits with blanks around it. -/
def decimal? (flags : Flags) (cs : List Char) : Option (Nat × List Char) :=
  let (digits, rest) := decimalDigits flags (cs.dropWhile Text.isBlank)
  let value := digits.foldl (fun value c => value * 10 + (c.toNat - '0'.toNat)) 0
  if digits.isEmpty || UInt32.size ≤ value then none
  else some (value, flags.skip (rest.dropWhile Text.isBlank))

/-- The bounds of a repetition after its opening brace: `n`, `n,` or `n,m` with `n ≤ m`. -/
def bounds? (flags : Flags) (cs : List Char) : Option (Nat × Option Nat × List Char) := do
  let (least, rest) ← decimal? flags (flags.skip cs)
  match rest with
  | '}' :: rest => return (least, some least, rest)
  | ',' :: rest =>
      match flags.skip rest with
      | '}' :: rest => return (least, none, rest)
      | rest =>
          let (most, rest) ← decimal? flags rest
          match rest with
          | '}' :: rest => if least ≤ most then return (least, some most, rest) else none
          | _ => none
  | _ => none

/-! ## Escapes -/

/-- A class named by a letter, or its complement. -/
def letterClass? (flags : Flags) (negated : Bool) (unicode ascii : CharSet) (rest : List Char) :
    Option (Atom × List Char) := do
  let set := if flags.unicode then unicode else ascii
  return (.set (← flags.checked? (if negated then set.complement else set)), rest)

/-- The name in braces after its opening brace; what the flags ignore may stand in it. -/
def bracedName? (flags : Flags) : List Char → Option (List Char × List Char)
  | [] => none
  | c :: rest =>
      if c == '}' then some ([], rest)
      else do
        let (name, rest) ← bracedName? flags (flags.skip rest)
        return (c :: name, rest)
termination_by cs => cs.length
decreasing_by exact flags.length_skip_lt c rest

/-- What stands before and after the first place of a mark. -/
def divide? (mark : List Char) : List Char → Option (List Char × List Char)
  | [] => none
  | c :: rest =>
      if mark.isPrefixOf (c :: rest) then some ([], (c :: rest).drop mark.length)
      else (divide? mark rest).map fun (before, after) => (c :: before, after)

/-- The set that a name in braces stands for, and whether its complement is meant.  A property
and its value are divided by `!=`, `:` or `=`, the first of these that is there, and `!=` means
the complement. -/
def namedSet? (name : List Char) : Option (CharSet × Bool) :=
  match divide? ['!', '='] name with
  | some (property, value) => (Property.valued? property value).map fun set => (set, true)
  | none =>
      match divide? [':'] name <|> divide? ['='] name with
      | some (property, value) => (Property.valued? property value).map fun set => (set, false)
      | none => (Property.named? name).map fun set => (set, false)

/-- A class named by a property, or its complement: a letter, or a name in braces. -/
def propertyClass? (flags : Flags) (negated : Bool) (cs : List Char) :
    Option (Atom × List Char) := do
  let ((set, otherwise), rest) ←
    match flags.skip cs with
    | [] => none
    | '{' :: rest => do
        let (name, rest) ← bracedName? flags (flags.skip rest)
        pure (← namedSet? name, rest)
    | '\\' :: _ => none
    | c :: rest => do pure ((← Property.named? [c], false), rest)
  if flags.unicode then
    let set := flags.fold set
    return (.set (if negated != otherwise then set.complement else set), rest)
  else none

/-- The name of a special word boundary. -/
def wordEdge? : String → Option WordEdge
  | "start" => some .start
  | "end" => some .finish
  | "start-half" => some .startHalf
  | "end-half" => some .finishHalf
  | _ => none

/-- Letters and dashes; what the flags ignore may stand between them. -/
def edgeName (flags : Flags) : List Char → List Char × List Char
  | [] => ([], [])
  | c :: rest =>
      if c.isAlpha || c == '-' then
        let (name, rest) := edgeName flags (flags.skip rest)
        (c :: name, rest)
      else ([], c :: rest)
termination_by cs => cs.length
decreasing_by exact flags.length_skip_lt c rest

/-- A word boundary, which may name a special one in braces.  Braces that hold no name belong
to a repetition. -/
def wordBoundary? (flags : Flags) (cs : List Char) : Option (Atom × List Char) :=
  match cs with
  | '{' :: rest =>
      match flags.skip rest with
      | [] => none
      | rest =>
          match edgeName flags rest with
          | ([], _) => some (.look (.word flags.unicode .boundary), cs)
          | (name, '}' :: rest) => do
              return (.look (.word flags.unicode (← wordEdge? (String.ofList name))), rest)
          | _ => none
  | _ => some (.look (.word flags.unicode .boundary), cs)

/-- Whether a backslash before a character makes it stand for itself. -/
def isEscapable (c : Char) : Bool := c.toNat < 0x80 && !c.isAlphanum && c != '<' && c != '>'

/-- An escape after its backslash. -/
def escape? (flags : Flags) : List Char → Option (Atom × List Char)
  | [] => none
  | c :: rest =>
      match c with
      | 'x' => hexEscape? flags 2 rest
      | 'u' => hexEscape? flags 4 rest
      | 'U' => hexEscape? flags 8 rest
      | 'd' => letterClass? flags false .digit .asciiDigit rest
      | 'D' => letterClass? flags true .digit .asciiDigit rest
      | 's' => letterClass? flags false .blank .asciiBlank rest
      | 'S' => letterClass? flags true .blank .asciiBlank rest
      | 'w' => letterClass? flags false .word .asciiWord rest
      | 'W' => letterClass? flags true .word .asciiWord rest
      | 'p' => propertyClass? flags false rest
      | 'P' => propertyClass? flags true rest
      | 'a' => some (.literal 0x07 false, rest)
      | 'f' => some (.literal 0x0C false, rest)
      | 't' => some (.literal 0x09 false, rest)
      | 'n' => some (.literal 0x0A false, rest)
      | 'r' => some (.literal 0x0D false, rest)
      | 'v' => some (.literal 0x0B false, rest)
      | 'A' => some (.look .textStart, rest)
      | 'z' => some (.look .textEnd, rest)
      | 'b' => wordBoundary? flags rest
      | 'B' => some (.look (.word flags.unicode .notBoundary), rest)
      | '<' => some (.look (.word flags.unicode .start), rest)
      | '>' => some (.look (.word flags.unicode .finish), rest)
      | c => if isEscapable c then some (.literal c.toNat false, rest) else none

/-! ## Bracketed classes -/

/-- The set of a character in a class. -/
def literalSet? (flags : Flags) (point : Nat) : Option CharSet :=
  if flags.unicode || point < 0x80 then some (.single point) else none

/-- A character or escape in a class. -/
def classAtom? (flags : Flags) : List Char → Option (Atom × List Char)
  | [] => none
  | '\\' :: rest => escape? flags rest
  | c :: rest => some (.literal c.toNat false, rest)

/-- A range, or a single character or escape.  A dash before `]` or another dash makes no
range. -/
def classRange? (flags : Flags) (cs : List Char) : Option (CharSet × List Char) := do
  let (first, rest) ← classAtom? flags cs
  let alone : Option (CharSet × List Char) :=
    match first with
    | .literal point _ => do return (← literalSet? flags point, flags.skip rest)
    | .set set => some (set, flags.skip rest)
    | .look _ => none
  match flags.skip rest with
  | [] => none
  | '-' :: following =>
      match flags.skip following with
      | [] => none
      | ']' :: _ => alone
      | '-' :: _ => alone
      | following => do
          let (last, rest) ← classAtom? flags following
          match first, last with
          | .literal low _, .literal high _ =>
              let _ ← literalSet? flags low
              let _ ← literalSet? flags high
              if low ≤ high then return (⟨[(low, high)]⟩, rest) else none
          | _, _ => none
  | _ => alone

/-- A class of ASCII by its name, after its opening bracket. -/
def namedClass? (flags : Flags) (cs : List Char) : Option (Option CharSet × List Char) :=
  match cs with
  | ':' :: rest =>
      let (negated, rest) :=
        match rest with
        | '^' :: rest => (true, rest)
        | rest => (false, rest)
      match rest.span (· != ':') with
      | (name, ':' :: ']' :: rest) =>
          (CharSet.asciiNamed? (String.ofList name)).map fun set =>
            (flags.bracketed? negated set, rest)
      | _ => none
  | _ => none

/-- Dashes at the head of a class. -/
def leadingDashes (flags : Flags) : List Char → Nat × List Char
  | '-' :: rest =>
      let (count, rest) := leadingDashes flags (flags.skip rest)
      (count + 1, rest)
  | cs => (0, cs)
termination_by cs => cs.length
decreasing_by exact flags.length_skip_lt '-' rest

/-- A set as it is written, with the depth of what is nested in it. -/
structure Operand where
  set : CharSet
  depth : Nat := 0

/-- What stands side by side in a class. -/
structure Items where
  set : CharSet := .none
  count : Nat := 0
  /-- The depth of the deepest item. -/
  depth : Nat := 0

/-- Add an item. -/
def Items.add (items : Items) (item : Operand) : Items :=
  ⟨items.set ∪ item.set, items.count + 1, max items.depth item.depth⟩

/-- Items as one operand; two or more are nested in it. -/
def Items.operand (items : Items) : Operand :=
  ⟨items.set, if 2 ≤ items.count then items.depth + 1 else items.depth⟩

/-- The head of a class after its opening bracket: whether it is negated, and the dashes or
the bracket that stand for themselves there. -/
def classHead (flags : Flags) (cs : List Char) : Bool × Items × List Char :=
  let (negated, cs) :=
    match flags.skip cs with
    | '^' :: rest => (true, flags.skip rest)
    | cs => (false, cs)
  match leadingDashes flags cs with
  | (0, ']' :: rest) => (negated, { set := .single ']'.toNat, count := 1 }, rest)
  | (0, rest) => (negated, {}, rest)
  | (count, rest) => (negated, { set := .single '-'.toNat, count }, rest)

/-- The rest of a class up to its closing bracket.  `items` holds what was read since the last
set operation and `complete` puts it together with what stands before that. -/
def classRest? (flags : Flags) :
    Nat → (Operand → Operand) → Items → List Char → Option (Operand × List Char)
  | 0, _, _, _ => none
  | fuel + 1, complete, items, cs =>
      let operate (op : CharSet → CharSet → CharSet) (rest : List Char) :=
        let left := complete items.operand
        let leftSet := flags.fold left.set
        let complete (right : Operand) : Operand :=
          ⟨op leftSet (flags.fold right.set), max left.depth right.depth + 1⟩
        classRest? flags fuel complete {} rest
      match flags.skip cs with
      | [] => none
      | ']' :: rest => some (complete items.operand, rest)
      | '&' :: '&' :: rest => operate .inter rest
      | '-' :: '-' :: rest => operate .diff rest
      | '~' :: '~' :: rest => operate .symDiff rest
      | '[' :: rest =>
          match namedClass? flags rest with
          | some (set, rest) => do classRest? flags fuel complete (items.add ⟨← set, 0⟩) rest
          | none => do
              let (negated, head, rest) := classHead flags rest
              let (inner, rest) ← classRest? flags fuel id head rest
              let set ← flags.bracketed? negated inner.set
              if maxDepth ≤ inner.depth then none
              else classRest? flags fuel complete (items.add ⟨set, inner.depth + 1⟩) rest
      | cs => do
          let (set, rest) ← classRange? flags cs
          classRest? flags fuel complete (items.add ⟨set, 0⟩) rest

/-- A bracketed class after its opening bracket. -/
def class? (flags : Flags) (fuel : Nat) (cs : List Char) : Option (Operand × List Char) := do
  let (negated, head, rest) := classHead flags cs
  let (inner, rest) ← classRest? flags fuel id head rest
  return (⟨← flags.bracketed? negated inner.set, inner.depth + 1⟩, rest)

/-! ## Groups -/

/-- What an opening parenthesis begins. -/
inductive Opening where
  /-- Flags for the rest of the group around it. -/
  | directive (flags : Flags)
  /-- A group with its flags. -/
  | group (flags : Flags)
  /-- A numbered group with its flags and, if it has one, its name. -/
  | numbered (flags : Flags) (name : Option String)

/-- Flags up to the end of their list.  `seen` holds what was read, last first; nothing stands
there twice, and a dash before the end turns nothing off. -/
def flagList? (seen : List Char) (flags : Flags) : List Char → Option (Opening × List Char)
  | [] => none
  | ':' :: rest => if seen.head? = some '-' then none else some (.group flags, rest)
  | ')' :: rest =>
      if seen.isEmpty || seen.head? = some '-' then none else some (.directive flags, rest)
  | c :: rest =>
      if seen.contains c then none
      else if c == '-' then flagList? ('-' :: seen) flags rest
      else do flagList? (c :: seen) (← flags.set? (!seen.contains '-') c) rest

/-- Whether a group may have a name. -/
def isGroupName : List Char → Bool
  | [] => false
  | first :: rest =>
      (first == '_' || first.isAlpha)
        && rest.all fun c => c == '_' || c == '.' || c == '[' || c == ']' || c.isAlphanum

/-- A group whose name comes next. -/
def namedGroup? (flags : Flags) (cs : List Char) : Option (Opening × List Char) :=
  match cs.span (· != '>') with
  | (name, '>' :: rest) =>
      if isGroupName name then some (.numbered flags (some (String.ofList name)), rest) else none
  | _ => none

/-- What follows an opening parenthesis. -/
def opening? (flags : Flags) (cs : List Char) : Option (Opening × List Char) :=
  match flags.skip cs with
  | '?' :: '=' :: _ => none
  | '?' :: '!' :: _ => none
  | '?' :: '<' :: '=' :: _ => none
  | '?' :: '<' :: '!' :: _ => none
  | '?' :: 'P' :: '<' :: rest => namedGroup? flags rest
  | '?' :: '<' :: rest => namedGroup? flags rest
  | '?' :: rest => flagList? [] flags rest
  | cs => some (.numbered flags none, cs)

/-! ## Expressions -/

/-- The numbered groups that were opened so far. -/
structure Groups where
  count : Nat := 0
  names : List String := []

/-- Open a group, the name of which must be new. -/
def Groups.open? (groups : Groups) (name : Option String) : Option Groups :=
  if name.any groups.names.contains then none
  else some ⟨groups.count + 1, name.toList ++ groups.names⟩

/-- An expression as it is written, with the depth of what is nested in it. -/
structure Part where
  regex : Regex
  depth : Nat := 0
  /-- Whether it may be repeated; flags may not. -/
  repeatable : Bool := true

/-- An atom as an expression. -/
def atom? (flags : Flags) : Atom → Option Regex
  | .literal point byte =>
      if !flags.unicode && byte && 0x80 ≤ point then none
      else some (ofSet (flags.fold (.single point)))
  | .set set => some (ofSet set)
  | .look condition => some (.look condition)

/-- Repeat the part read last.  A mark after the operator reverses what is preferred. -/
def repeat? (flags : Flags) (least : Nat) (most : Option Nat) (parts : List Part)
    (rest : List Char) : Option (List Part × List Char) :=
  let (marked, rest) :=
    match rest with
    | '?' :: rest => (true, rest)
    | rest => (false, rest)
  match parts with
  | [] => none
  | part :: parts =>
      if part.repeatable && part.depth < maxDepth then
        some (⟨part.regex.repeated least most (marked == flags.swapGreed), part.depth + 1, true⟩
          :: parts, rest)
      else none

/-- A bare character, escape or class. -/
def single? (flags : Flags) (fuel : Nat) : List Char → Option (Part × List Char)
  | [] => none
  | '[' :: rest => do
      let (operand, rest) ← class? flags fuel rest
      return ({ regex := ofSet operand.set, depth := operand.depth }, rest)
  | '\\' :: rest => do
      let (atom, rest) ← escape? flags rest
      return ({ regex := ← atom? flags atom }, rest)
  | '.' :: rest => do return ({ regex := ofSet (← flags.dot?) }, rest)
  | '^' :: rest => some ({ regex := .look flags.lineStart }, rest)
  | '$' :: rest => some ({ regex := .look flags.lineEnd }, rest)
  | c :: rest => do return ({ regex := ← atom? flags (.literal c.toNat false) }, rest)

/-- Put parts that were read last first together; two or more are nested in what they form. -/
def together (form : List Regex → Regex) : List Part → Part
  | [part] => { part with repeatable := true }
  | parts =>
      let deepest := (parts.map (·.depth)).foldl max 0
      { regex := form (parts.reverse.map (·.regex))
        depth := if parts.isEmpty then 0 else deepest + 1 }

/-- Finish the current one of some alternatives. -/
def finish (branches parts : List Part) : List Part := together concat parts :: branches

/-- Alternatives up to a closing parenthesis or the end.  `branches` holds the finished
alternatives and `parts` those of the current one, last first. -/
def alternatives? : Nat → Flags → Groups → List Part → List Part → List Char →
    Option (Part × Groups × List Char)
  | 0, _, _, _, _, _ => none
  | fuel + 1, flags, groups, branches, parts, cs =>
      let repeated (least : Nat) (most : Option Nat) (rest : List Char) := do
        let (parts, rest) ← repeat? flags least most parts rest
        alternatives? fuel flags groups branches parts rest
      let enclosed (inner : Flags) (opened : Groups) (form : Regex → Regex)
          (rest : List Char) := do
        let (body, groups, rest) ← alternatives? fuel inner opened [] [] rest
        match rest with
        | ')' :: rest =>
            let part : Part := { regex := form body.regex, depth := body.depth + 1 }
            if maxDepth < part.depth then none
            else alternatives? fuel flags groups branches (part :: parts) rest
        | _ => none
      match flags.skip cs with
      | [] => some (together alternate (finish branches parts), groups, [])
      | ')' :: rest => some (together alternate (finish branches parts), groups, ')' :: rest)
      | '|' :: rest => alternatives? fuel flags groups (finish branches parts) [] rest
      | '(' :: rest => do
          match ← opening? flags rest with
          | (.directive flags, rest) =>
              let part : Part := { regex := .empty, repeatable := false }
              alternatives? fuel flags groups branches (part :: parts) rest
          | (.group inner, rest) => enclosed inner groups id rest
          | (.numbered inner name, rest) => do
              let opened ← groups.open? name
              enclosed inner opened (.group opened.count) rest
      | '?' :: rest => repeated 0 (some 1) rest
      | '*' :: rest => repeated 0 none rest
      | '+' :: rest => repeated 1 none rest
      | '{' :: rest => do
          let (least, most, rest) ← bounds? flags rest
          repeated least most (flags.skip rest)
      | cs => do
          let (part, rest) ← single? flags fuel cs
          alternatives? fuel flags groups branches (part :: parts) rest

end Parser

/-- The regular expression a text writes. -/
def parse? (ignoreCase : Bool) (text : String) : Option Regex := do
  let cs := text.toList
  let (part, _, rest) ← Parser.alternatives? (cs.length + 1) { ignoreCase } {} [] [] cs
  let fits := Words.areSearchable part.regex || Automaton.fits part.regex
  if rest.isEmpty && part.depth ≤ maxDepth && fits then return part.regex else none

end CallSearch.Regex
