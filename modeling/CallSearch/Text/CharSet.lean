/-
# CallSearch.Text.CharSet — sets of characters

A character set is a list of closed ranges of code points in increasing order that
neither overlap nor touch, so equal sets are equal lists.  `CharSet.contains` says
which code points belong to it.

The surrogates `D800` to `DFFF` are no characters.  A range may run across them, and
the character after `D7FF` is `E000`.
-/
import CallSearch.Text.CaseFolding
import CallSearch.Text.CharClass

namespace CallSearch

set_option autoImplicit false

/-- A set of characters. -/
structure CharSet where
  ranges : List (Nat × Nat)
deriving DecidableEq, Inhabited

namespace CharSet

/-- Whether a code point belongs to a set. -/
def contains (set : CharSet) (point : Nat) : Bool := Text.inRanges point set.ranges

/-- No character. -/
def none : CharSet := ⟨[]⟩

/-- Every character. -/
def all : CharSet := ⟨[(0, 0x10FFFF)]⟩

/-- One character. -/
def single (point : Nat) : CharSet := ⟨[(point, point)]⟩

/-- Join ranges with increasing starts where they overlap or touch.  `current` is the range
that may still grow. -/
def joinFrom (current : Nat × Nat) : List (Nat × Nat) → List (Nat × Nat)
  | [] => [current]
  | next :: rest =>
      if next.1 ≤ current.2 + 1 then joinFrom (current.1, max current.2 next.2) rest
      else current :: joinFrom next rest

/-- Join ranges with increasing starts where they overlap or touch. -/
def join : List (Nat × Nat) → List (Nat × Nat)
  | [] => []
  | first :: rest => joinFrom first rest

/-- The set of some ranges in any order. -/
def ofRanges (ranges : List (Nat × Nat)) : CharSet :=
  ⟨join (ranges.mergeSort fun a b => a.1 ≤ b.1)⟩

/-- The set of some characters. -/
def ofPoints (points : List Nat) : CharSet := ofRanges (points.map fun point => (point, point))

/-- The set of some runs in increasing order. -/
def ofRuns (runs : List Text.Run) : CharSet := ⟨join (runs.flatMap Text.Run.ranges)⟩

/-- What belongs to one of two sets. -/
def union (a b : CharSet) : CharSet := ⟨join (a.ranges.merge b.ranges fun a b => a.1 ≤ b.1)⟩

instance : Union CharSet := ⟨union⟩

/-- What belongs to one of some sets. -/
def unionAll (sets : List CharSet) : CharSet := sets.foldl union none

/-- The next character. -/
def next (point : Nat) : Nat := if point = 0xD7FF then 0xE000 else point + 1

/-- The character before. -/
def previous (point : Nat) : Nat := if point = 0xE000 then 0xD7FF else point - 1

/-- What two ranges have in common. -/
def interRange? (a b : Nat × Nat) : Option (Nat × Nat) :=
  if max a.1 b.1 ≤ min a.2 b.2 then some (max a.1 b.1, min a.2 b.2) else Option.none

/-- The ranges that belong to two lists of ranges. -/
def interRanges : List (Nat × Nat) → List (Nat × Nat) → List (Nat × Nat)
  | a :: as, b :: bs =>
      (interRange? a b).toList
        ++ if a.2 < b.2 then interRanges as (b :: bs) else interRanges (a :: as) bs
  | _, _ => []
termination_by as bs => as.length + bs.length

/-- What belongs to both of two sets. -/
def inter (a b : CharSet) : CharSet := ⟨interRanges a.ranges b.ranges⟩

/-- What is left of a range without some ranges in increasing order. -/
def subtract (range : Nat × Nat) : List (Nat × Nat) → List (Nat × Nat)
  | [] => [range]
  | hole :: rest =>
      if hole.2 < range.1 then subtract range rest
      else if range.2 < hole.1 then [range]
      else
        (if range.1 < hole.1 then [(range.1, previous hole.1)] else [])
          ++ if hole.2 < range.2 then subtract (next hole.2, range.2) rest else []

/-- What belongs to the first of two sets only. -/
def diff (a b : CharSet) : CharSet := ⟨a.ranges.flatMap fun range => subtract range b.ranges⟩

/-- What belongs to exactly one of two sets. -/
def symDiff (a b : CharSet) : CharSet := (a.union b).diff (a.inter b)

/-- The gap from one character to another.  Between ranges that meet around the surrogates the
gap consists of the two ends. -/
def gap (first last : Nat) : Nat × Nat := (min first last, max first last)

/-- The gaps after a range that ends at `high`. -/
def gapsAfter (high : Nat) : List (Nat × Nat) → List (Nat × Nat)
  | [] => if high < 0x10FFFF then [gap (next high) 0x10FFFF] else []
  | range :: rest => gap (next high) (previous range.1) :: gapsAfter range.2 rest

/-- What does not belong to a set. -/
def complement (set : CharSet) : CharSet :=
  match set.ranges with
  | [] => all
  | range :: rest =>
      ⟨(if 0 < range.1 then [(0, previous range.1)] else []) ++ gapsAfter range.2 rest⟩

/-- Whether every member is an ASCII character. -/
def isAscii (set : CharSet) : Bool := set.ranges.all fun range => range.2 < 0x80

/-- The members of a set and what differs from one of them only by case. -/
def folded (set : CharSet) : CharSet :=
  let folds := Text.foldPairs
  let reached := ofPoints (folds.filterMap fun fold =>
    if set.contains fold.1 || set.contains fold.2 then some fold.2 else Option.none)
  set ∪ reached ∪ ofPoints (folds.filterMap fun fold =>
    if reached.contains fold.2 then some fold.1 else Option.none)

/-- The ASCII letter with the other case, and the code point itself. -/
def asciiVariants (point : Nat) : List Nat :=
  if 0x41 ≤ point ∧ point ≤ 0x5A then [point, point + 0x20]
  else if 0x61 ≤ point ∧ point ≤ 0x7A then [point, point - 0x20]
  else [point]

/-- The ASCII characters of a set and what differs from one of them only by case. -/
def asciiFolded (set : CharSet) : CharSet :=
  set ∪ ofPoints (((List.range 0x80).filter set.contains).flatMap asciiVariants)

/-- The decimal digits of all scripts. -/
def digit : CharSet := ⟨Text.digitRanges⟩

/-- The blanks. -/
def blank : CharSet := ⟨Text.blankRanges⟩

/-- The word characters. -/
def word : CharSet := ⟨Text.wordRanges⟩

/-- The digits of ASCII. -/
def asciiDigit : CharSet := ⟨[(0x30, 0x39)]⟩

/-- The blanks of ASCII. -/
def asciiBlank : CharSet := ⟨[(0x9, 0xD), (0x20, 0x20)]⟩

/-- The word characters of ASCII. -/
def asciiWord : CharSet := ⟨[(0x30, 0x39), (0x41, 0x5A), (0x5F, 0x5F), (0x61, 0x7A)]⟩

/-- The classes of ASCII that a bracketed class may name, as in `[:alpha:]`. -/
def asciiNamed? : String → Option CharSet
  | "alnum" => some ⟨[(0x30, 0x39), (0x41, 0x5A), (0x61, 0x7A)]⟩
  | "alpha" => some ⟨[(0x41, 0x5A), (0x61, 0x7A)]⟩
  | "ascii" => some ⟨[(0x0, 0x7F)]⟩
  | "blank" => some ⟨[(0x9, 0x9), (0x20, 0x20)]⟩
  | "cntrl" => some ⟨[(0x0, 0x1F), (0x7F, 0x7F)]⟩
  | "digit" => some asciiDigit
  | "graph" => some ⟨[(0x21, 0x7E)]⟩
  | "lower" => some ⟨[(0x61, 0x7A)]⟩
  | "print" => some ⟨[(0x20, 0x7E)]⟩
  | "punct" => some ⟨[(0x21, 0x2F), (0x3A, 0x40), (0x5B, 0x60), (0x7B, 0x7E)]⟩
  | "space" => some asciiBlank
  | "upper" => some ⟨[(0x41, 0x5A)]⟩
  | "word" => some asciiWord
  | "xdigit" => some ⟨[(0x30, 0x39), (0x41, 0x46), (0x61, 0x66)]⟩
  | _ => Option.none

end CharSet

end CallSearch
