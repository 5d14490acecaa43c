/-
# CallSearch.Json.Decode — reading typed parts of a document

Decoders answer `none` for a malformed value.  A record is written as an object
whose unknown fields are ignored and whose known fields stand at most once, or as
the array of its fields in their order, where fields at the end may be left out
only if they have a default.  A choice is written as an object with exactly one
field.
-/
import CallSearch.Json

namespace CallSearch.Json

set_option autoImplicit false

variable {α β : Type}

/-- The names of the fields of a record in their order, and how many of them an array that
writes the record must give. -/
structure Record where
  names : List String
  required : Nat

/-- The fields of a record by name; a field that was not written has no value. -/
abbrev Fields := String → Option Json

/-- The fields of a record, or `none` if the value does not write one. -/
def fields? (record : Record) : Json → Option Fields
  | .obj fields =>
      if record.names.all fun name => (fields.filter (·.1 == name)).length ≤ 1 then
        some fun name => (fields.find? (·.1 == name)).map (·.2)
      else none
  | .arr items =>
      if record.required ≤ items.length && items.length ≤ record.names.length then
        some fun name => (record.names.zip items).lookup name
      else none
  | _ => none

/-- A field that must be there. -/
def Fields.required (fields : Fields) (name : String) (decode : Json → Option α) : Option α :=
  (fields name).bind decode

/-- A field with a value for when it is left out. -/
def Fields.withDefault (fields : Fields) (name : String) (default : α) (decode : Json → Option α) :
    Option α :=
  match fields name with
  | none => some default
  | some value => decode value

/-- The value of an optional part: `null` writes that there is none. -/
def option? (decode : Json → Option α) : Json → Option (Option α)
  | .null => some none
  | value => (decode value).map some

/-- A field that may be left out or written `null`. -/
def Fields.optional (fields : Fields) (name : String) (decode : Json → Option α) :
    Option (Option α) :=
  fields.withDefault name none (option? decode)

def bool? : Json → Option Bool
  | .bool value => some value
  | _ => none

def str? : Json → Option String
  | .str text => some text
  | _ => none

/-- A natural number of at most 64 bits. -/
def nat? : Json → Option Nat
  | .nat value => if value < UInt64.size then some value else none
  | _ => none

/-- A natural number of at most 32 bits. -/
def nat32? : Json → Option Nat
  | .nat value => if value < UInt32.size then some value else none
  | _ => none

/-- An array, item by item. -/
def list? (decode : Json → Option α) : Json → Option (List α)
  | .arr items => items.mapM decode
  | _ => none

/-- An object read as a map: name and value of each field, in the order written. -/
def entries? (decode : Json → Option α) : Json → Option (List (String × α))
  | .obj fields => fields.mapM fun field => do return (field.1, ← decode field.2)
  | _ => none

/-- The one field of a choice. -/
def choice? : Json → Option (String × Json)
  | .obj [field] => some field
  | _ => none

/-- The word of a choice without contents: the bare word, or a choice with contents `null`. -/
def word? : Json → Option String
  | .str word => some word
  | .obj [(word, .null)] => some word
  | _ => none

end CallSearch.Json
