/-
# CallSearch.Json — document values

Class documents, line tables, indexes and reports are JSON documents.  A value
keeps the fields of an object in the order they were written, repeated names
included, because a document that repeats a field is refused when it is decoded.

All numbers of the formats here are natural numbers of at most 64 bits, so only
those carry a value; any other number is kept as its text.

Some values are well formed and yet cannot be read: a string that is no text, a
number beyond all bounds, what nests too deep.  A part of a document that nobody
looks at may hold such a value.
-/

namespace CallSearch

set_option autoImplicit false

/-- A JSON value. -/
inductive Json where
  | null
  | bool (value : Bool)
  /-- An integer from `0` to `2 ^ 64 - 1` written without sign, fraction or exponent. -/
  | nat (value : Nat)
  /-- Any other number, as a text that writes it. -/
  | number (text : String)
  | str (text : String)
  | arr (items : List Json)
  | obj (fields : List (String × Json))
  /-- Well formed, but without a value. -/
  | unreadable

namespace Json

instance : Inhabited Json := ⟨.null⟩

/-- The value of an optional part, `null` when there is none. -/
def ofOption {α : Type} (encode : α → Json) : Option α → Json
  | none => .null
  | some value => encode value

/-- The array of some encoded values. -/
def ofList {α : Type} (encode : α → Json) (items : List α) : Json := .arr (items.map encode)

mutual

/-- Whether a value and all its parts can be read. -/
def isReadable : Json → Bool
  | .arr items => areReadable items
  | .obj fields => areFieldsReadable fields
  | .unreadable => false
  | _ => true

/-- Whether all values of a list can be read. -/
def areReadable : List Json → Bool
  | [] => true
  | item :: rest => item.isReadable && areReadable rest

/-- Whether the values of all fields can be read. -/
def areFieldsReadable : List (String × Json) → Bool
  | [] => true
  | (_, value) :: rest => value.isReadable && areFieldsReadable rest

end

mutual

/-- The value in which only the last field of each name is kept, in every object. -/
def lastFields : Json → Json
  | .arr items => .arr (lastFieldsOfAll items)
  | .obj fields => .obj (lastFieldsOfObject fields)
  | value => value

/-- Keep only last fields in every value of a list. -/
def lastFieldsOfAll : List Json → List Json
  | [] => []
  | item :: rest => item.lastFields :: lastFieldsOfAll rest

/-- Keep the last field of each name. -/
def lastFieldsOfObject : List (String × Json) → List (String × Json)
  | [] => []
  | (name, value) :: rest =>
      if rest.any (·.1 == name) then lastFieldsOfObject rest
      else (name, value.lastFields) :: lastFieldsOfObject rest

end

end Json

end CallSearch
