/-
# CallSearch.Text.ByteSequence — ranges of characters in bytes

In UTF-8 a character takes one to four bytes.  A range of characters divides into
parts whose characters take the same number of bytes and differ from each other in
any way within a range of bytes at each place.  Such a part is a sequence of ranges
of bytes, and `ByteSequence.ofSet` lists the sequences of a set.
-/
import CallSearch.Text.CharSet

namespace CallSearch.Text

set_option autoImplicit false

/-- A range of bytes at each place. -/
abbrev ByteSequence := List (Nat × Nat)

namespace ByteSequence

/-- The bytes of a character. -/
def utf8 (point : Nat) : List Nat :=
  (String.utf8EncodeChar (Char.ofNat point)).map UInt8.toNat

/-- The last character of the first part where a range has to be divided: the characters take
different numbers of bytes, or the range begins or ends within a block of characters that have
all but their last bytes in common. -/
def divide? (low high : Nat) : Option Nat :=
  match [0x7F, 0x7FF, 0xFFFF].find? fun last => low ≤ last && last < high with
  | some last => some last
  | none =>
      if high ≤ 0x7F then none
      else [0x40, 0x1000, 0x40000].findSome? fun block =>
        if low / block = high / block then none
        else if low % block ≠ 0 then some (low / block * block + (block - 1))
        else if high % block ≠ block - 1 then some (high / block * block - 1)
        else none

/-- The sequences of a range of characters. -/
def ofRange (low high : Nat) : List ByteSequence :=
  match divide? low high with
  | none => [(utf8 low).zip (utf8 high)]
  | some last =>
      if low ≤ last ∧ last < high then ofRange low last ++ ofRange (last + 1) high else []
termination_by high - low

/-- A range without the surrogates in it. -/
def withoutSurrogates (range : Nat × Nat) : List (Nat × Nat) :=
  if range.1 < 0xE000 ∧ 0xD7FF < range.2 then
    [(range.1, 0xD7FF), (0xE000, range.2)].filter fun part => part.1 ≤ part.2
  else [range]

/-- The sequences of a set of characters. -/
def ofSet (set : CharSet) : List ByteSequence :=
  (set.ranges.flatMap withoutSurrogates).flatMap fun range => ofRange range.1 range.2

end ByteSequence

end CallSearch.Text
