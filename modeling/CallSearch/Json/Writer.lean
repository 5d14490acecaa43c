/-
# CallSearch.Json.Writer — writing a document

`Json.compact` writes a value without blanks and `Json.pretty` with one item or
field a line, indented by two blanks a level.  Quotes, backslashes and control
characters are escaped; every other character is written as itself.  A value that
could not be read is written as `null`.
-/
import CallSearch.Json

namespace CallSearch.Json

set_option autoImplicit false

namespace Writer

/-- A hexadecimal digit in lower case. -/
def hexDigit (n : Nat) : Char := Nat.digitChar n

/-- How a character is written inside a string. -/
def escape (c : Char) : List Char :=
  match c with
  | '"' => ['\\', '"']
  | '\\' => ['\\', '\\']
  | '\x08' => ['\\', 'b']
  | '\x0c' => ['\\', 'f']
  | '\n' => ['\\', 'n']
  | '\r' => ['\\', 'r']
  | '\t' => ['\\', 't']
  | c =>
      if c.toNat < 0x20 then ['\\', 'u', '0', '0', hexDigit (c.toNat / 16), hexDigit (c.toNat % 16)]
      else [c]

/-- A string with its quotes. -/
def quoted (text : String) : String :=
  String.ofList ('"' :: text.toList.flatMap escape ++ ['"'])

/-- Two blanks a level. -/
def indent (level : Nat) : String := String.ofList (List.replicate (2 * level) ' ')

end Writer

open Writer

mutual

/-- The text of a value without blanks. -/
def compact : Json → String
  | .null => "null"
  | .bool true => "true"
  | .bool false => "false"
  | .nat value => Nat.repr value
  | .number text => text
  | .str text => quoted text
  | .arr items => "[" ++ ",".intercalate (compactItems items) ++ "]"
  | .obj fields => "\x7b" ++ ",".intercalate (compactFields fields) ++ "\x7d"
  | .unreadable => "null"

/-- The texts of some values. -/
def compactItems : List Json → List String
  | [] => []
  | item :: rest => item.compact :: compactItems rest

/-- The texts of some fields. -/
def compactFields : List (String × Json) → List String
  | [] => []
  | (name, value) :: rest => (quoted name ++ ":" ++ value.compact) :: compactFields rest

end

mutual

/-- The text of a value that starts on a line indented to `level`. -/
def prettyAt (level : Nat) : Json → String
  | .arr [] => "[]"
  | .arr items =>
      "[\n" ++ ",\n".intercalate (prettyItems (level + 1) items) ++ "\n" ++ indent level ++ "]"
  | .obj [] => "\x7b\x7d"
  | .obj fields =>
      "\x7b\n" ++ ",\n".intercalate (prettyFields (level + 1) fields) ++ "\n" ++ indent level
        ++ "\x7d"
  | value => value.compact

/-- Some values, each on lines of its own. -/
def prettyItems (level : Nat) : List Json → List String
  | [] => []
  | item :: rest => (indent level ++ item.prettyAt level) :: prettyItems level rest

/-- Some fields, each on lines of its own. -/
def prettyFields (level : Nat) : List (String × Json) → List String
  | [] => []
  | (name, value) :: rest =>
      (indent level ++ quoted name ++ ": " ++ value.prettyAt level) :: prettyFields level rest

end

/-- The text of a value with one item or field a line. -/
def pretty (value : Json) : String := value.prettyAt 0

end CallSearch.Json
