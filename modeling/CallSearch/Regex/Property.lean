/-
# CallSearch.Regex.Property — character sets named by a property

`Property.named?` is the set of the characters that have a property: one that holds or
does not hold of a character, a general category or a group of them, or a script.
`Property.valued?` is the set of the characters with a value of a property that takes
several.

Case, blanks, dashes, underscores and a leading `is` do not count in names.
-/
import CallSearch.Text.Age
import CallSearch.Text.Segmentation

namespace CallSearch.Regex.Property

set_option autoImplicit false

/-- Drop a leading `is`, in any case. -/
def dropIs : List Char → List Char
  | 'i' :: 's' :: rest => rest
  | 'i' :: 'S' :: rest => rest
  | 'I' :: 's' :: rest => rest
  | 'I' :: 'S' :: rest => rest
  | cs => cs

/-- A name by what counts of it.  A `c` after `is` is the name of no category. -/
def plainName (cs : List Char) : String :=
  let rest := dropIs cs
  let counts (c : Char) := c.toNat < 0x80 && c != ' ' && c != '_' && c != '-'
  let plain := (rest.filter counts).map Char.toLower
  String.ofList (if rest.length < cs.length && plain == ['c'] then ['i', 's', 'c'] else plain)

/-- The characters of the script with a name. -/
def script? (name : String) : Option CharSet := (Text.Script.named? name).map (·.set)

/-- The characters with a property. -/
def named? (name : List Char) : Option CharSet :=
  let plain := plainName name
  Text.Property.named? plain <|> Text.Category.named? plain <|> script? plain

/-- The characters with a value of a property that takes several. -/
def valued? (name value : List Char) : Option CharSet :=
  let value := plainName value
  match plainName name with
  | "generalcategory" | "gc" => Text.Category.named? value
  | "script" | "sc" => script? value
  | "scriptextensions" | "scx" => (Text.Script.named? value).map (·.extendedSet)
  | "age" => Text.Age.named? value
  | "graphemeclusterbreak" | "gcb" => Text.Segmentation.cluster? value
  | "wordbreak" | "wb" => Text.Segmentation.word? value
  | "sentencebreak" | "sb" => Text.Segmentation.sentence? value
  | _ => none

end CallSearch.Regex.Property
