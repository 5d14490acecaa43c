/-
# CallSearch.Json.Reader — reading a document

`Json.parse?` reads a whole text as one value.  Blanks are space, tab, line feed
and carriage return; there are no comments, no trailing commas and no byte order
mark; a string has no raw control character.

Well formed but not readable are a string in which a surrogate stands alone, an
object with such a name, a number beyond the range of doubles, and what nests deeper
than `Json.maxDepth` arrays and objects.  `Json.parseWhole?` refuses a document that
holds such a value.

Reading goes from left to right through the characters.  Every step consumes a
character, so the reader is given as many steps as the text has characters.
-/
import CallSearch.Json
import CallSearch.Json.Number

namespace CallSearch.Json

set_option autoImplicit false

/-- How deep readable arrays and objects nest. -/
def maxDepth : Nat := 127

namespace Reader

def isBlank (c : Char) : Bool := c == ' ' || c == '\t' || c == '\n' || c == '\r'

def skipBlanks (cs : List Char) : List Char := cs.dropWhile isBlank

/-- The value of a hexadecimal digit of either case. -/
def hexDigit? (c : Char) : Option Nat :=
  if '0' ≤ c && c ≤ '9' then some (c.toNat - '0'.toNat)
  else if 'a' ≤ c && c ≤ 'f' then some (c.toNat - 'a'.toNat + 10)
  else if 'A' ≤ c && c ≤ 'F' then some (c.toNat - 'A'.toNat + 10)
  else none

/-- Four hexadecimal digits. -/
def hexUnit? : List Char → Option (Nat × List Char)
  | a :: b :: c :: d :: rest => do
      let a ← hexDigit? a
      let b ← hexDigit? b
      let c ← hexDigit? c
      let d ← hexDigit? d
      return (((a * 16 + b) * 16 + c) * 16 + d, rest)
  | _ => none

/-- The character of a `\u` escape whose digits come next; a surrogate that stands alone is
none.  A high surrogate takes the escape of its low surrogate along. -/
def unicodeEscape? (cs : List Char) : Option (Option Char × List Char) := do
  let (unit, rest) ← hexUnit? cs
  if 0xD800 ≤ unit ∧ unit < 0xDC00 then
    match rest with
    | '\\' :: 'u' :: following =>
        let (low, following) ← hexUnit? following
        if 0xDC00 ≤ low ∧ low < 0xE000 then
          let point := 0x10000 + (unit - 0xD800) * 0x400 + (low - 0xDC00)
          return (some (Char.ofNat point), following)
        else return (none, rest)
    | _ => return (none, rest)
  else if 0xDC00 ≤ unit ∧ unit < 0xE000 then return (none, rest)
  else return (some (Char.ofNat unit), rest)

/-- The character that stands for itself after a backslash, by the escape's letter. -/
def simpleEscape? : Char → Option Char
  | '"' => some '"'
  | '\\' => some '\\'
  | '/' => some '/'
  | 'b' => some '\x08'
  | 'f' => some '\x0c'
  | 'n' => some '\n'
  | 'r' => some '\r'
  | 't' => some '\t'
  | _ => none

/-- The characters of a string after its opening quote, newest first, with what follows the
closing quote.  There are none if the string is no text. -/
def stringBody? : Nat → Option (List Char) → List Char → Option (Option (List Char) × List Char)
  | 0, _, _ => none
  | _ + 1, _, [] => none
  | _ + 1, read, '"' :: rest => some (read, rest)
  | fuel + 1, read, '\\' :: 'u' :: rest => do
      let (c, rest) ← unicodeEscape? rest
      stringBody? fuel (read.bind fun read => c.map (· :: read)) rest
  | fuel + 1, read, '\\' :: letter :: rest => do
      let c ← simpleEscape? letter
      stringBody? fuel (read.map (c :: ·)) rest
  | fuel + 1, read, c :: rest =>
      if c.toNat < 0x20 || c == '\\' then none else stringBody? fuel (read.map (c :: ·)) rest

/-- A string after its opening quote, if it is a text. -/
def string? (fuel : Nat) (cs : List Char) : Option (Option String × List Char) := do
  let (read, rest) ← stringBody? fuel (some []) cs
  return (read.map fun read => String.ofList read.reverse, rest)

/-- The digits at the head of a text; there must be one. -/
def digits? (cs : List Char) : Option (List Char × List Char) :=
  match cs.span Char.isDigit with
  | ([], _) => none
  | (digits, rest) => some (digits, rest)

/-- The integer part of a number: no digit follows a leading zero. -/
def integer? (cs : List Char) : Option (List Char × List Char) := do
  let (digits, rest) ← digits? cs
  match digits with
  | '0' :: _ :: _ => none
  | _ => return (digits, rest)

/-- The digits of the fraction of a number, if there is one. -/
def fraction? : List Char → Option (List Char × List Char)
  | '.' :: rest => digits? rest
  | cs => some ([], cs)

/-- The natural number a list of decimal digits writes. -/
def decimal (digits : List Char) : Nat :=
  digits.foldl (fun value c => value * 10 + Decimal.digit c) 0

/-- The sign and the digits of the exponent of a number, if there is one. -/
def exponent? : List Char → Option ((Bool × List Char) × List Char)
  | c :: rest =>
      if c == 'e' || c == 'E' then do
        let (negative, rest) :=
          match rest with
          | '+' :: rest => (false, rest)
          | '-' :: rest => (true, rest)
          | rest => (false, rest)
        let (digits, rest) ← digits? rest
        return ((negative, digits), rest)
      else some ((false, []), c :: rest)
  | [] => some ((false, []), [])

/-- A number by its parts: sign, digits before and after the point, sign and digits of the
exponent. -/
def numberOf (negative : Bool) (whole fraction : List Char) (lowered : Bool)
    (exponent : List Char) : Json :=
  let sign (negative : Bool) : List Char := if negative then ['-'] else []
  let power : Int := if lowered then -(decimal exponent : Int) else decimal exponent
  if !negative && fraction.isEmpty && exponent.isEmpty && decimal whole < UInt64.size then
    .nat (decimal whole)
  else if (Decimal.mk whole fraction power).isFinite then
    let point := if fraction.isEmpty then [] else '.' :: fraction
    let raised := if exponent.isEmpty then [] else 'e' :: sign lowered ++ exponent
    .number (String.ofList (sign negative ++ whole ++ point ++ raised))
  else .unreadable

/-- A number, with or without a sign. -/
def number? (cs : List Char) : Option (Json × List Char) := do
  let (negative, unsigned) :=
    match cs with
    | '-' :: rest => (true, rest)
    | cs => (false, cs)
  let (whole, rest) ← integer? unsigned
  let (fraction, rest) ← fraction? rest
  let ((lowered, exponent), rest) ← exponent? rest
  return (numberOf negative whole fraction lowered exponent, rest)

/-- What follows a given word. -/
def word? (word : List Char) (cs : List Char) : Option (List Char) :=
  if word.isPrefixOf cs then some (cs.drop word.length) else none

/-- What comes next when a value is passed over. -/
inductive Expected where
  | value
  | name
  /-- A comma or the end of what is open. -/
  | next

/-- Pass over a value, or the rest of one.  `opened` says of the arrays and objects that are
open, innermost first, whether they are objects. -/
def skip? : Nat → Expected → List Bool → List Char → Option (List Char)
  | 0, _, _, _ => none
  | _ + 1, .next, [], cs => some cs
  | fuel + 1, .next, isObject :: opened, cs =>
      match skipBlanks cs with
      | ',' :: rest => skip? fuel (if isObject then .name else .value) (isObject :: opened) rest
      | ']' :: rest => if isObject then none else skip? fuel .next opened rest
      | '}' :: rest => if isObject then skip? fuel .next opened rest else none
      | _ => none
  | fuel + 1, .name, opened, cs =>
      match skipBlanks cs with
      | '"' :: rest => do
          let (_, rest) ← string? (fuel + 1) rest
          match skipBlanks rest with
          | ':' :: rest => skip? fuel .value opened rest
          | _ => none
      | _ => none
  | fuel + 1, .value, opened, cs =>
      match skipBlanks cs with
      | [] => none
      | '"' :: rest => do
          let (_, rest) ← string? (fuel + 1) rest
          skip? fuel .next opened rest
      | '[' :: rest =>
          match skipBlanks rest with
          | ']' :: rest => skip? fuel .next opened rest
          | rest => skip? fuel .value (false :: opened) rest
      | '{' :: rest =>
          match skipBlanks rest with
          | '}' :: rest => skip? fuel .next opened rest
          | rest => skip? fuel .name (true :: opened) rest
      | 'n' :: rest => do skip? fuel .next opened (← word? "ull".toList rest)
      | 't' :: rest => do skip? fuel .next opened (← word? "rue".toList rest)
      | 'f' :: rest => do skip? fuel .next opened (← word? "alse".toList rest)
      | cs => do
          let (_, rest) ← number? cs
          skip? fuel .next opened rest

/-- The object of some fields, the names of which must be texts. -/
def objectOf (fields : List (Option String × Json)) : Json :=
  match fields.mapM fun field => field.1.map fun name => (name, field.2) with
  | some fields => .obj fields
  | none => .unreadable

mutual

/-- One value, of which at most `depth` arrays and objects deep can be read. -/
def value? : Nat → Nat → List Char → Option (Json × List Char)
  | 0, _, _ => none
  | fuel + 1, depth, cs =>
      match skipBlanks cs with
      | [] => none
      | '"' :: rest => do
          let (text, rest) ← string? (fuel + 1) rest
          return ((text.map .str).getD .unreadable, rest)
      | '[' :: rest =>
          match depth with
          | 0 => do return (.unreadable, ← skip? (fuel + 1) .value [] ('[' :: rest))
          | depth + 1 =>
              match skipBlanks rest with
              | ']' :: rest => some (.arr [], rest)
              | rest => do
                  let (items, rest) ← items? fuel depth rest
                  return (.arr items, rest)
      | '{' :: rest =>
          match depth with
          | 0 => do return (.unreadable, ← skip? (fuel + 1) .value [] ('{' :: rest))
          | depth + 1 =>
              match skipBlanks rest with
              | '}' :: rest => some (.obj [], rest)
              | rest => do
                  let (fields, rest) ← fields? fuel depth rest
                  return (objectOf fields, rest)
      | 'n' :: rest => do return (.null, ← word? "ull".toList rest)
      | 't' :: rest => do return (.bool true, ← word? "rue".toList rest)
      | 'f' :: rest => do return (.bool false, ← word? "alse".toList rest)
      | cs => number? cs

/-- The items of an array, the first of which comes next, and its closing bracket. -/
def items? : Nat → Nat → List Char → Option (List Json × List Char)
  | 0, _, _ => none
  | fuel + 1, depth, cs => do
      let (item, rest) ← value? fuel depth cs
      match skipBlanks rest with
      | ']' :: rest => return ([item], rest)
      | ',' :: rest =>
          let (items, rest) ← items? fuel depth rest
          return (item :: items, rest)
      | _ => none

/-- The fields of an object, the first of which comes next, and its closing brace. -/
def fields? : Nat → Nat → List Char → Option (List (Option String × Json) × List Char)
  | 0, _, _ => none
  | fuel + 1, depth, cs =>
      match skipBlanks cs with
      | '"' :: rest => do
          let (name, rest) ← string? (fuel + 1) rest
          match skipBlanks rest with
          | ':' :: rest =>
              let (value, rest) ← value? fuel depth rest
              match skipBlanks rest with
              | '}' :: rest => return ([(name, value)], rest)
              | ',' :: rest =>
                  let (fields, rest) ← fields? fuel depth rest
                  return ((name, value) :: fields, rest)
              | _ => none
          | _ => none
      | _ => none

end

end Reader

/-- The value a text writes, if it is a document. -/
def parse? (text : String) : Option Json :=
  let cs := text.toList
  match Reader.value? (2 * cs.length + 2) maxDepth cs with
  | some (value, rest) => if (Reader.skipBlanks rest).isEmpty then some value else none
  | none => none

/-- The value a text writes, if it is a document that can be read as a whole. -/
def parseWhole? (text : String) : Option Json := (parse? text).filter isReadable

end CallSearch.Json
