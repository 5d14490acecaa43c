/-
# CallSearch.Regex — regular expressions and what they match

A regular expression is matched by positions: `Regex.reach` maps the positions a
match may start at to the positions it may end at.  A text matches when some
position reaches some position, so a match may stand anywhere in it.

Positions never decrease along a match.  After more repetitions than the text has
positions a repetition has stood still once, so repeating it more often changes
nothing, and every repetition can be cut off there.

`Regex.concat`, `Regex.alternate`, `Regex.ofSet` and `Regex.repeated` put expressions
together in a simplified form: nothing stands in a concatenation without need,
neighbouring literals are one literal, and alternatives share what they begin with.
The form decides how much room the automaton of an expression takes.
-/
import CallSearch.Text.CharSet

namespace CallSearch

set_option autoImplicit false

/-- Where a position must lie between word characters and others. -/
inductive WordEdge where
  | boundary
  | notBoundary
  | start
  | finish
  /-- No word character before. -/
  | startHalf
  /-- No word character after. -/
  | finishHalf
deriving DecidableEq, Inhabited

/-- A condition on a position, by the characters around it. -/
inductive Look where
  | textStart
  | textEnd
  /-- The start of a line; with `crlf` a line may end in a carriage return. -/
  | lineStart (crlf : Bool)
  /-- The end of a line. -/
  | lineEnd (crlf : Bool)
  /-- An edge of a word of Unicode or of ASCII. -/
  | word (unicode : Bool) (edge : WordEdge)
deriving DecidableEq, Inhabited

namespace Look

/-- Whether the character beside a position is a word character. -/
def isWordAt (unicode : Bool) (beside : Option Char) : Bool :=
  match beside with
  | none => false
  | some c => (if unicode then CharSet.word else CharSet.asciiWord).contains c.toNat

/-- Whether the edge condition holds for word characters before and after. -/
def edgeHolds (before after : Bool) : WordEdge → Bool
  | .boundary => before != after
  | .notBoundary => before == after
  | .start => !before && after
  | .finish => before && !after
  | .startHalf => !before
  | .finishHalf => !after

/-- Whether a condition holds between two characters; at an end of the text there is none. -/
def holds (before after : Option Char) : Look → Bool
  | .textStart => before.isNone
  | .textEnd => after.isNone
  | .lineStart false => before.isNone || before == some '\n'
  | .lineStart true =>
      before.isNone || before == some '\n' || (before == some '\r' && after != some '\n')
  | .lineEnd false => after.isNone || after == some '\n'
  | .lineEnd true =>
      after.isNone || after == some '\r' || (after == some '\n' && before != some '\r')
  | .word unicode edge => edgeHolds (isWordAt unicode before) (isWordAt unicode after) edge

end Look

/-- A regular expression. -/
inductive Regex where
  /-- Matches nothing at all, at every position. -/
  | empty
  /-- Some characters, one after another. -/
  | literal (chars : List Char)
  /-- Any one character of a set. -/
  | oneOf (set : CharSet)
  | look (condition : Look)
  /-- A numbered group. -/
  | group (index : Nat) (body : Regex)
  /-- At least `least` and, if there is a bound, at most `most` times.  A greedy repetition
  prefers many matches. -/
  | times (body : Regex) (least : Nat) (most : Option Nat) (greedy : Bool)
  /-- All parts, one after another. -/
  | cat (parts : List Regex)
  /-- Any of the parts. -/
  | alt (parts : List Regex)
deriving Inhabited

namespace Regex

mutual

/-- Whether two expressions are written alike. -/
def same : Regex → Regex → Bool
  | .empty, .empty => true
  | .literal chars, .literal others => chars == others
  | .oneOf set, .oneOf other => set == other
  | .look condition, .look other => condition == other
  | .group index body, .group other otherBody => index == other && body.same otherBody
  | .times body least most greedy, .times other otherLeast otherMost otherGreedy =>
      least == otherLeast && most == otherMost && greedy == otherGreedy && body.same other
  | .cat parts, .cat others => sameAll parts others
  | .alt parts, .alt others => sameAll parts others
  | _, _ => false

/-- Whether expressions are written alike, one by one. -/
def sameAll : List Regex → List Regex → Bool
  | [], [] => true
  | part :: rest, other :: others => part.same other && sameAll rest others
  | _, _ => false

end

mutual

/-- Whether an expression matches no character whatever the text is. -/
def isZeroWidth : Regex → Bool
  | .empty => true
  | .literal chars => chars.isEmpty
  | .oneOf _ => false
  | .look _ => true
  | .group _ body => body.isZeroWidth
  | .times body _ most _ => most.isSome && body.isZeroWidth
  | .cat parts => areZeroWidth parts
  | .alt parts => areZeroWidth parts

/-- Whether expressions match no character whatever the text is. -/
def areZeroWidth : List Regex → Bool
  | [] => true
  | part :: rest => part.isZeroWidth && areZeroWidth rest

end

mutual

/-- The number of expressions within an expression. -/
def weight : Regex → Nat
  | .empty => 1
  | .literal _ => 1
  | .oneOf _ => 1
  | .look _ => 1
  | .group _ body => body.weight + 1
  | .times body _ _ _ => body.weight + 1
  | .cat parts => weightOfAll parts + 1
  | .alt parts => weightOfAll parts + 1

/-- The number of expressions within some expressions. -/
def weightOfAll : List Regex → Nat
  | [] => 0
  | part :: rest => part.weight + weightOfAll rest

end

/-! ## Building expressions -/

/-- Any one character of a set; the only one is a literal. -/
def ofSet (set : CharSet) : Regex :=
  match set.ranges with
  | [(first, last)] => if first = last then .literal [Char.ofNat first] else .oneOf set
  | _ => .oneOf set

/-- The parts an expression adds to a concatenation. -/
def catParts : Regex → List Regex
  | .empty => []
  | .cat parts => parts
  | part => [part]

/-- Make one literal of neighbouring literals. -/
def joinLiterals : List Regex → List Regex
  | [] => []
  | .literal chars :: rest =>
      match joinLiterals rest with
      | .literal others :: rest => .literal (chars ++ others) :: rest
      | rest => .literal chars :: rest
  | part :: rest => part :: joinLiterals rest

/-- All parts, one after another. -/
def concat (parts : List Regex) : Regex :=
  match joinLiterals (parts.flatMap catParts) with
  | [] => .empty
  | [part] => part
  | parts => .cat parts

/-- The parts an expression adds to alternatives. -/
def altParts : Regex → List Regex
  | .alt parts => parts
  | part => [part]

/-- The set of the characters that parts stand for, if each is a single character. -/
def charsOf? (parts : List Regex) : Option CharSet :=
  let point? : Regex → Option Nat
    | .literal [c] => some c.toNat
    | _ => none
  (parts.mapM point?).map CharSet.ofPoints

/-- What belongs to one of the parts, if each is a set. -/
def setsOf? (parts : List Regex) : Option CharSet :=
  let set? : Regex → Option CharSet
    | .oneOf set => some set
    | _ => none
  (parts.mapM set?).map CharSet.unionAll

/-- What two lists of parts begin with. -/
def sharedHead : List Regex → List Regex → List Regex
  | part :: rest, other :: others => if part.same other then part :: sharedHead rest others else []
  | _, _ => []

/-- What alternatives begin with, if each is a concatenation. -/
def commonHead : List Regex → List Regex
  | [] => []
  | [.cat parts] => parts
  | .cat parts :: rest => sharedHead parts (commonHead rest)
  | _ => []

/-- Any of some parts.  Characters and sets become one set, and what the parts begin with stands
before what is left of them.  With every such step an expression loses a part, so there are no
more steps than expressions. -/
def alternateWithin : Nat → List Regex → Regex
  | 0, parts => .alt parts
  | fuel + 1, parts =>
      match parts.flatMap altParts with
      | [] => .oneOf .none
      | [part] => part
      | parts =>
          match charsOf? parts <|> setsOf? parts with
          | some set => ofSet set
          | none =>
              match commonHead parts with
              | [] => .alt parts
              | head =>
                  let rests := parts.map fun part => concat (part.catParts.drop head.length)
                  concat (head ++ [alternateWithin fuel rests])

/-- Any of some parts. -/
def alternate (parts : List Regex) : Regex := alternateWithin (weightOfAll parts + 1) parts

/-- Repeat an expression.  What matches no character need not be repeated twice. -/
def repeated (body : Regex) (least : Nat) (most : Option Nat) (greedy : Bool) : Regex :=
  let (least, most) :=
    if body.isZeroWidth then (min least 1, some (min (most.getD 1) 1)) else (least, most)
  if least = 0 ∧ most = some 0 then .empty
  else if least = 1 ∧ most = some 1 then body
  else .times body least most greedy

/-! ## Matching -/

/-- Repeat a step on positions exactly a number of times. -/
def iterate (step : List Nat → List Nat) : Nat → List Nat → List Nat
  | 0, positions => positions
  | count + 1, positions => if positions.isEmpty then [] else iterate step count (step positions)

/-- Mark positions.  The second part holds those that were not marked before, each once. -/
def mark (marks : Array Bool) (positions : List Nat) : Array Bool × List Nat :=
  positions.foldl
    (fun (marks, fresh) position =>
      if marks.getD position false then (marks, fresh)
      else (marks.setIfInBounds position true, position :: fresh))
    (marks, [])

/-- No position of a text is marked. -/
def unmarked (text : Array Char) : Array Bool := Array.replicate (text.size + 1) false

/-- What is reached from a frontier by at most a number of steps, together with what was
reached before, which is marked. -/
def spread (step : List Nat → List Nat) : Nat → Array Bool → List Nat → List Nat → List Nat
  | 0, _, reached, _ => reached
  | count + 1, marks, reached, frontier =>
      let (marks, fresh) := mark marks (step frontier)
      if fresh.isEmpty then reached else spread step count marks (fresh ++ reached) fresh

/-- The position after some characters that stand at a position. -/
def after? (text : Array Char) : List Char → Nat → Option Nat
  | [], position => some position
  | c :: rest, position =>
      if text[position]? = some c then after? text rest (position + 1) else none

mutual

/-- The positions where a match from one of the given positions may end. -/
def reach (text : Array Char) : Regex → List Nat → List Nat
  | .empty, positions => positions
  | .literal chars, positions => positions.filterMap (after? text chars)
  | .oneOf set, positions => positions.filterMap fun position =>
      match text[position]? with
      | some c => if set.contains c.toNat then some (position + 1) else none
      | none => none
  | .look condition, positions => positions.filter fun position =>
      condition.holds (if position = 0 then none else text[position - 1]?) text[position]?
  | .group _ body, positions => body.reach text positions
  | .times body least most _, positions =>
      let enough := text.size + 1
      let started := iterate (body.reach text) (min least enough) positions
      let further :=
        match most with
        | none => enough
        | some most => min (most - least) enough
      let (marks, started) := mark (unmarked text) started
      spread (body.reach text) further marks started started
  | .cat parts, positions => reachThrough text parts positions
  | .alt parts, positions => (mark (unmarked text) (reachByAny text parts positions)).2

/-- The positions where a match of all parts, one after another, may end. -/
def reachThrough (text : Array Char) : List Regex → List Nat → List Nat
  | [], positions => positions
  | part :: rest, positions => reachThrough text rest (part.reach text positions)

/-- The positions where a match of one of the parts may end. -/
def reachByAny (text : Array Char) : List Regex → List Nat → List Nat
  | [], _ => []
  | part :: rest, positions => part.reach text positions ++ reachByAny text rest positions

end

/-- Whether a text holds a match. -/
def isMatch (regex : Regex) (text : String) : Bool :=
  let chars := text.toList.toArray
  !(regex.reach chars (List.range (chars.size + 1))).isEmpty

end Regex

end CallSearch
