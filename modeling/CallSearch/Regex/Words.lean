/-
# CallSearch.Regex.Words — expressions that stand for a few words

An expression without conditions and groups may stand for finitely many words.
`Words.words?` finds them, in bytes, as long as they are few and short.  Such an
expression is searched for word by word, so it needs no automaton and
`Words.areSearchable` spares it the bound on the size of one.

What matches nothing contributes no word, however often it is repeated.
-/
import CallSearch.Regex

namespace CallSearch.Regex.Words

set_option autoImplicit false

/-- A word in bytes. -/
abbrev Word := List UInt8

/-- How many characters a set may have. -/
def maxChars : Nat := 10

/-- How often a word may be repeated. -/
def maxTimes : Nat := 10

/-- How many bytes a word may have. -/
def maxBytes : Nat := 100

/-- How many words there may be on the way. -/
def maxWords : Nat := 250

/-- How many words may be searched for. -/
def maxSearched : Nat := 10

/-- Words within the bounds. -/
def bounded? (words : List Word) : Option (List Word) :=
  if words.length ≤ maxWords && words.all (·.length ≤ maxBytes) then some words else none

/-- Every word of one list before every word of another. -/
def cross? (words others : List Word) : Option (List Word) :=
  if words.length * others.length ≤ maxWords then
    bounded? (words.flatMap fun word => others.map (word ++ ·))
  else none

/-- The words of a number of repetitions. -/
def power? (words : List Word) : Nat → Option (List Word)
  | 0 => some [[]]
  | count + 1 => do cross? (← power? words count) words

/-- The characters of a small set. -/
def charsOf? (set : CharSet) : Option (List Char) :=
  let count := (set.ranges.map fun range => range.2 - range.1 + 1).foldr (· + ·) 0
  if count ≤ maxChars then
    some (set.ranges.flatMap fun range =>
      (List.range (range.2 - range.1 + 1)).map fun index => Char.ofNat (range.1 + index))
  else none

mutual

/-- The words an expression stands for. -/
def words? : Regex → Option (List Word)
  | .empty => some [[]]
  | .literal chars => bounded? [chars.flatMap String.utf8EncodeChar]
  | .oneOf set => (charsOf? set).map fun chars => chars.map String.utf8EncodeChar
  | .look _ => none
  | .group _ _ => none
  | .times body least most _ => do
      let words ← words? body
      if least = 0 then
        if words.isEmpty || most = some 1 then bounded? (words ++ [[]]) else none
      else if words.isEmpty then some []
      else if most = some least && least ≤ maxTimes then power? words least
      else none
  | .cat parts => wordsInRow? [[]] parts
  | .alt parts => wordsOfAny? parts

/-- The words of all parts, one after another, each after some words.  Nothing follows what
matches nothing. -/
def wordsInRow? : List Word → List Regex → Option (List Word)
  | words, [] => some words
  | [], _ :: _ => some []
  | word :: words, part :: rest => do
      wordsInRow? (← cross? (word :: words) (← words? part)) rest

/-- The words of any of the parts. -/
def wordsOfAny? : List Regex → Option (List Word)
  | [] => some []
  | part :: rest => do bounded? ((← words? part) ++ (← wordsOfAny? rest))

end

/-- Whether words are few, none is empty, and not all begin alike. -/
def areFew (words : List Word) : Bool :=
  let words := words.eraseDups
  match words with
  | [] => false
  | [word] => !word.isEmpty
  | word :: others =>
      words.length ≤ maxSearched && words.all (!·.isEmpty)
        && others.any fun other => other.head? != word.head?

/-- Whether an expression is searched for word by word. -/
def areSearchable (regex : Regex) : Bool := (words? regex).any areFew

end CallSearch.Regex.Words
