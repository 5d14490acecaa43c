/-
# CallSearch.Json.Number — numbers that are too large

A number that is no natural number of 64 bits is read as a binary fraction of double
precision.  `Json.Decimal.isFinite` says whether it is within the range of those.

Of the digits only those count that fit into 64 bits; the other ones before the point
raise the exponent, and those after it are dropped.  The rest is rounded to 53 bits and
multiplied by a power of ten, which is rounded as well.
-/

namespace CallSearch.Json

set_option autoImplicit false

/-- Round a natural number to 53 binary digits, a half to the even neighbour. -/
def roundToDouble (value : Nat) : Nat :=
  let unit := Nat.pow 2 (value.log2 + 1 - 53)
  let quotient := value / unit
  let twice := 2 * (value % unit)
  let up := unit < twice || (twice == unit && quotient % 2 == 1)
  (if up then quotient + 1 else quotient) * unit

/-- The least product that rounds to more than the greatest double. -/
def doubleOverflow : Nat := Nat.pow 2 1024 - Nat.pow 2 970

/-- A decimal number by its digits: those before and after the point, and those of the
exponent. -/
structure Decimal where
  whole : List Char
  fraction : List Char
  exponent : Int

namespace Decimal

/-- The value of a decimal digit. -/
def digit (c : Char) : Nat := c.toNat - '0'.toNat

/-- Take digits over into a number as long as it fits into 64 bits.  The second part is what
was not taken over. -/
def absorb (value : Nat) : List Char → Nat × List Char
  | [] => (value, [])
  | c :: rest =>
      let longer := value * 10 + digit c
      if longer < UInt64.size then absorb longer rest else (value, c :: rest)

/-- The digits that count as one number, and the power of ten they are multiplied by. -/
def scaled (decimal : Decimal) : Nat × Int :=
  let (value, left) := absorb 0 decimal.whole
  let (value, dropped) := absorb value decimal.fraction
  (value, decimal.exponent + left.length - (decimal.fraction.length - dropped.length : Nat))

/-- Whether a number is within the range of doubles. -/
def isFinite (decimal : Decimal) : Bool :=
  match decimal.scaled with
  | (0, _) => true
  | (_, .negSucc _) => true
  | (value, .ofNat exponent) =>
      decide (exponent ≤ 308)
        && decide (roundToDouble value * roundToDouble (Nat.pow 10 exponent) < doubleOverflow)

end Decimal

end CallSearch.Json
