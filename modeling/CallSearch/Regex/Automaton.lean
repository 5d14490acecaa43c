/-
# CallSearch.Regex.Automaton — how large the automaton of an expression is

An expression is matched by an automaton on bytes that reads a text forward, and by
one that reads it backward.  Here the automata are not built, but measured:
`Automaton.fits` says whether both stay within `Automaton.maxBytes`.

A repetition holds a copy of its body for every match it counts, so an expression of
few characters may be too large.  `Blueprint.ofRegex` is the plan of an automaton, in
which copies are counted, and `Blueprint.size` lays the states out one after another.
Only sets beyond ASCII need to be laid out one by one: their states are shared by the
byte sequences of the set, and which are shared depends on the numbers of the states.
-/
import CallSearch.Regex
import CallSearch.Text.ByteSequence
import Std.Data.HashMap

namespace CallSearch.Regex.Automaton

set_option autoImplicit false

open Text (ByteSequence)

/-- The way an automaton reads a text. -/
inductive Direction where
  | forward
  | backward
deriving DecidableEq, Inhabited

/-- The number of states laid out so far, and the bytes they hold for their transitions. -/
structure Size where
  states : Nat := 0
  extra : Nat := 0
deriving DecidableEq, Inhabited

namespace Size

/-- The bytes that an automaton takes. -/
def bytes (size : Size) : Nat := 32 * size.states + size.extra

/-- Lay out states. -/
def add (size : Size) (states extra : Nat) : Size := ⟨size.states + states, size.extra + extra⟩

end Size

/-- How many bytes an automaton may take. -/
def maxBytes : Nat := 10 * 1024 * 1024

/-! ## Shared states -/

/-- States that are known by what they hold.  A slot remembers one state only, so a state may
be laid out twice. -/
structure Shared where
  size : Size
  /-- What the state in a slot holds, and its number. -/
  slots : Std.HashMap Nat (List Nat × Nat) := {}

namespace Shared

/-- Mix numbers into one of 64 bits. -/
def mix (numbers : List Nat) : UInt64 :=
  numbers.foldl (fun mixed number => (mixed ^^^ number.toUInt64) * 1099511628211)
    14695981039346656037

/-- Lay out a state and remember it in a slot. -/
def insert (shared : Shared) (slot : Nat) (content : List Nat) (extra : Nat) : Nat × Shared :=
  let fresh := shared.size.states
  (fresh, ⟨shared.size.add 1 extra, shared.slots.insert slot (content, fresh)⟩)

/-- The state that holds some numbers, laid out if no slot knows it. -/
def state (shared : Shared) (slots : Nat) (content : List Nat) (extra : Nat) : Nat × Shared :=
  let slot := (mix content).toNat % slots
  match shared.slots[slot]? with
  | some (known, number) =>
      if known == content then (number, shared) else shared.insert slot content extra
  | none => shared.insert slot content extra

end Shared

/-! ## Sets backward -/

/-- Lay out the states of a sequence, each of which leads to the one before it. -/
def addBackward : Shared → Nat → ByteSequence → Shared
  | shared, _, [] => shared
  | shared, target, (low, high) :: rest =>
      let (number, shared) := shared.state 1000 [target, low, high] 0
      addBackward shared number rest

/-- Lay out a set for reading backward: a state that leads to every sequence, one where all end,
and the states of the sequences. -/
def setBackward (sequences : List ByteSequence) (size : Size) : Size :=
  let shared := sequences.foldl (fun shared sequence =>
    addBackward shared (size.states + 1) sequence) { size := size.add 2 0 }
  shared.size.add 0 (4 * sequences.length)

/-! ## Sets forward -/

/-- A state that is not laid out yet. -/
structure Pending where
  /-- Its transitions in order, each as first and last byte and the number of a state. -/
  transitions : List Nat
  /-- The bytes of its last transition, of which the state is not known yet. -/
  last : Option (Nat × Nat)
deriving DecidableEq, Inhabited

/-- End the last transition at a state. -/
def Pending.close (node : Pending) (target : Nat) : Pending :=
  match node.last with
  | some (low, high) => ⟨node.transitions ++ [low, high, target], none⟩
  | none => node

/-- The state of a pending one whose transitions all end. -/
def Pending.state (node : Pending) (shared : Shared) : Nat × Shared :=
  shared.state 10000 node.transitions (8 * (node.transitions.length / 3))

/-- Lay out a number of pending states, deepest first; the deepest ends at `target`.  The one
above them stays pending. -/
def layOut : Nat → Nat → Shared → List Pending → Shared × List Pending
  | _, _, shared, [] => (shared, [])
  | 0, target, shared, node :: above => (shared, node.close target :: above)
  | count + 1, target, shared, node :: above =>
      let (number, shared) := (node.close target).state shared
      layOut count number shared above

/-- How many places of a sequence pending states, given from the start, have in common. -/
def sharedPlaces : ByteSequence → List Pending → Nat
  | range :: rest, node :: below =>
      if node.last = some range then sharedPlaces rest below + 1 else 0
  | _, _ => 0

/-- Pending states for a sequence from the place on where it leaves the ones that are there. -/
def follow : ByteSequence → List Pending → List Pending
  | first :: rest, node :: above =>
      rest.foldl (fun nodes range => ⟨[], some range⟩ :: nodes)
        ({ node with last := some first } :: above)
  | _, nodes => nodes

/-- Add a sequence to the pending states, deepest first. -/
def addForward (target : Nat) (laid : Shared × List Pending) (sequence : ByteSequence) :
    Shared × List Pending :=
  let (shared, nodes) := laid
  let places := sharedPlaces sequence nodes.reverse
  let (shared, nodes) := layOut (nodes.length - 1 - places) target shared nodes
  (shared, follow (sequence.drop places) nodes)

/-- Lay out a set for reading forward: a state where all sequences end, and states that they
share at their ends. -/
def setForward (sequences : List ByteSequence) (size : Size) : Size :=
  let target := size.states
  let (shared, nodes) :=
    sequences.foldl (addForward target) ({ size := size.add 1 0 }, [⟨[], none⟩])
  (layOut nodes.length target shared nodes).1.size

/-! ## Literals -/

/-- The words that begin with a byte, without it. -/
def wordsAfter (byte : UInt8) (words : List (List UInt8)) : List (List UInt8) :=
  words.filterMap fun
    | first :: rest => if first = byte then some rest else none
    | [] => none

/-- Divide words at the empty ones. -/
def divideAtEmpty : List (List UInt8) → List (List (List UInt8))
  | [] => [[]]
  | word :: rest =>
      match word, divideAtEmpty rest with
      | [], parts => [] :: parts
      | word, part :: parts => (word :: part) :: parts
      | word, [] => [[word]]

/-- The size of a tree of words: words share what they begin with, and a word that goes on
after another one has ended shares nothing with those before.  `depth` bounds the length of
the words. -/
def treeSize : Nat → List (List UInt8) → Size
  | 0, _ => {}
  | depth + 1, words =>
      if words.all (·.isEmpty) then {}
      else
        let parts := divideAtEmpty words
        let ends := parts.length - 1 - (((parts.takeWhile (·.isEmpty)).length) - 1)
        let sizes := parts.map fun part =>
          let bytes := (part.filterMap List.head?).eraseDups
          let own : Size :=
            if bytes.isEmpty then {} else ⟨1, if bytes.length = 1 then 4 else 8 * bytes.length + 4⟩
          bytes.foldl (fun size byte =>
            let inner := treeSize depth (wordsAfter byte part)
            size.add inner.states inner.extra) own
        sizes.foldl (fun size part => size.add part.states part.extra) ⟨1, 4 * ends⟩

/-! ## Plans -/

/-- The plan of an automaton. -/
inductive Blueprint where
  /-- A number of states with the bytes of their transitions. -/
  | states (count extra : Nat)
  /-- A set beyond ASCII. -/
  | set (sequences : List ByteSequence)
  /-- All parts, one after another. -/
  | row (parts : List Blueprint)
  | copies (count : Nat) (body : Blueprint)
deriving Inhabited

namespace Blueprint

/-- The size of a plan without sets. -/
def plain? : Blueprint → Option Size
  | .states count extra => some ⟨count, extra⟩
  | _ => none

/-- All parts, one after another. -/
def ofParts (parts : List Blueprint) : Blueprint :=
  match parts.mapM plain? with
  | some sizes =>
      let size := sizes.foldl (fun size part => size.add part.states part.extra) ({} : Size)
      .states size.states size.extra
  | none => .row parts

/-- Copies of a plan. -/
def ofCopies (count : Nat) : Blueprint → Blueprint
  | .states single extra => .states (count * single) (count * extra)
  | body => .copies count body

/-- A state that leads to two others. -/
def fork : Blueprint := .states 1 8

/-- A state that leads to another without reading a byte. -/
def step : Blueprint := .states 1 0

/-- The plan of a repetition of a body that reads a byte at least, or not always. -/
def repetition (body : Blueprint) (reads : Bool) (least : Nat) : Option Nat → Blueprint
  | none =>
      if least = 0 then
        if reads then ofParts [fork, body] else ofParts [body, fork, fork, step]
      else ofParts [ofCopies least body, fork]
  | some most =>
      if least = 0 ∧ most = 1 then ofParts [fork, body, step]
      else
        let first := if least = 0 then step else ofCopies least body
        if least = most then first
        else ofParts [first, step, ofCopies (most - least) (ofParts [fork, body])]

/-- The plan of alternatives. -/
def alternatives (parts : List Blueprint) : Blueprint :=
  ofParts (parts.take 2 ++ .states 2 (4 * parts.length) :: parts.drop 2)

end Blueprint

/-- The bytes of a literal. -/
def bytesOf (chars : List Char) : List UInt8 := chars.flatMap String.utf8EncodeChar

/-- The bytes of parts that are all literals. -/
def literals? (parts : List Regex) : Option (List (List UInt8)) :=
  let bytes? : Regex → Option (List UInt8)
    | .literal chars => some (bytesOf chars)
    | _ => none
  parts.mapM bytes?

/-- The plan of literals as a tree of their bytes in the order of reading, and a state where all
end. -/
def literalTree (direction : Direction) (words : List (List UInt8)) : Blueprint :=
  let words := if direction = .forward then words else words.map List.reverse
  let size := treeSize ((words.map List.length).foldl max 0 + 1) words
  .states (size.states + 1) size.extra

mutual

/-- The least number of characters that an expression matches, if it holds no empty set. -/
def leastLength? : Regex → Option Nat
  | .empty => some 0
  | .literal chars => some chars.length
  | .oneOf set => if set.ranges.isEmpty then none else some 1
  | .look _ => some 0
  | .group _ body => leastLength? body
  | .times body least _ _ => (leastLength? body).map (· * least)
  | .cat parts => (leastLengths? parts).map fun lengths => lengths.foldr (· + ·) 0
  | .alt parts => (leastLengths? parts).map fun lengths => lengths.min?.getD 0

/-- The least numbers of characters that expressions match. -/
def leastLengths? : List Regex → Option (List Nat)
  | [] => some []
  | part :: rest => do return (← leastLength? part) :: (← leastLengths? rest)

end

mutual

/-- The plan of an expression. -/
def plan (direction : Direction) : Regex → Blueprint
  | .empty => .step
  | .literal chars => .states (bytesOf chars).length 0
  | .oneOf set =>
      if set.isAscii then .states 2 (8 * set.ranges.length) else .set (ByteSequence.ofSet set)
  | .look _ => .step
  | .group _ body =>
      if direction = .forward then .ofParts [.step, plan direction body, .step]
      else plan direction body
  | .times body least most _ =>
      .repetition (plan direction body) ((leastLength? body).any (0 < ·)) least most
  | .cat parts =>
      let parts := plans direction parts
      .ofParts (if direction = .forward then parts else parts.reverse)
  | .alt parts =>
      match literals? parts with
      | some words => literalTree direction words
      | none => .alternatives (plans direction parts)

/-- The plans of some expressions. -/
def plans (direction : Direction) : List Regex → List Blueprint
  | [] => []
  | part :: rest => plan direction part :: plans direction rest

end

mutual

/-- Whether every match of an expression begins, or read backward ends, where a condition
holds. -/
def isAnchored (direction : Direction) (condition : Look) : Regex → Bool
  | .look other => other == condition
  | .group _ body => isAnchored direction condition body
  | .times body least _ _ => 0 < least && isAnchored direction condition body
  | .cat parts => isCatAnchored direction condition parts
  | .alt parts => areAnchored direction condition parts
  | _ => false

/-- Whether every match of all parts, one after another, is anchored: what stands between the
end and the condition matches no character. -/
def isCatAnchored (direction : Direction) (condition : Look) : List Regex → Bool
  | [] => false
  | part :: rest =>
      match direction with
      | .forward =>
          isAnchored direction condition part
            || (part.isZeroWidth && isCatAnchored direction condition rest)
      | .backward =>
          isCatAnchored direction condition rest
            || (areZeroWidth rest && isAnchored direction condition part)

/-- Whether every match of each part is anchored. -/
def areAnchored (direction : Direction) (condition : Look) : List Regex → Bool
  | [] => true
  | part :: rest => isAnchored direction condition part && areAnchored direction condition rest

end

/-- The plan of an automaton for an expression: unless every match is anchored it first passes
over bytes, and in the end it matches.  Reading forward it notes where the match begins and
ends. -/
def Blueprint.ofRegex (direction : Direction) (regex : Regex) : Blueprint :=
  let condition := if direction = .forward then Look.textStart else Look.textEnd
  let start := if isAnchored direction condition regex then step else .states 3 16
  ofParts [start, plan direction (.group 0 regex), step]

/-! ## Laying out plans -/

/-- Repeat a step on a size, as long as it is within the bound. -/
def repeatWithin (step : Size → Size) : Nat → Size → Size
  | 0, size => size
  | count + 1, size =>
      if size.bytes ≤ maxBytes then repeatWithin step count (step size) else size

mutual

/-- Lay out a plan after what is laid out.  Beyond the bound nothing more is laid out. -/
def Blueprint.layOut (direction : Direction) : Blueprint → Size → Size
  | .states count extra, size => size.add count extra
  | .set sequences, size =>
      if direction = .forward then setForward sequences size else setBackward sequences size
  | .row parts, size => Blueprint.layOutAll direction parts size
  | .copies count body, size => repeatWithin (body.layOut direction) count size

/-- Lay out plans, one after another. -/
def Blueprint.layOutAll (direction : Direction) : List Blueprint → Size → Size
  | [], size => size
  | part :: rest, size =>
      let size := part.layOut direction size
      if size.bytes ≤ maxBytes then Blueprint.layOutAll direction rest size else size

end

/-- The size of an automaton for an expression, exact unless it is beyond the bound. -/
def size (direction : Direction) (regex : Regex) : Size :=
  (Blueprint.ofRegex direction regex).layOut direction {}

/-- Whether the automata for an expression are within the bound. -/
def fits (regex : Regex) : Bool :=
  (size .forward regex).bytes ≤ maxBytes && (size .backward regex).bytes ≤ maxBytes

end CallSearch.Regex.Automaton
