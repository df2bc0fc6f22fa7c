/-
JSON values and their compact written form, without blanks. The members of an object are written in
the order in which they are given.
-/
import ColumnSelect.Json.Text

namespace ColumnSelect

/-- A JSON value with whole numbers. -/
inductive Json where
  | null
  | bool (value : Bool)
  | int (value : Int)
  | str (text : String)
  | arr (items : List Json)
  | obj (members : List (String × Json))

namespace Json

/-- Texts with a comma between each two. -/
def commaSeparated (texts : List (List Char)) : List Char := List.intercalate [','] texts

mutual

/-- A value as text. -/
def write : Json → List Char
  | .null => ['n', 'u', 'l', 'l']
  | .bool true => ['t', 'r', 'u', 'e']
  | .bool false => ['f', 'a', 'l', 's', 'e']
  | .int value => (toString value).toList
  | .str text => quote text
  | .arr items => '[' :: commaSeparated (writeItems items) ++ [']']
  | .obj members => '\x7b' :: commaSeparated (writeMembers members) ++ ['\x7d']

/-- Each of some values as text. -/
def writeItems : List Json → List (List Char)
  | [] => []
  | item :: items => item.write :: writeItems items

/-- Each of some members as text. -/
def writeMembers : List (String × Json) → List (List Char)
  | [] => []
  | (key, value) :: members => (quote key ++ ':' :: value.write) :: writeMembers members

end

/-- A value as text. -/
def text (value : Json) : String := String.ofList value.write

/-- Members in the order of their keys. -/
def sortMembers (members : List (String × Json)) : List (String × Json) :=
  members.mergeSort fun a b => !(b.1 < a.1)

mutual

/-- The value with the members of every object in the order of their keys. -/
def sortKeys : Json → Json
  | .arr items => .arr (sortKeysItems items)
  | .obj members => .obj (sortMembers (sortKeysMembers members))
  | value => value

/-- Each of some values with the members of every object in the order of their keys. -/
def sortKeysItems : List Json → List Json
  | [] => []
  | item :: items => item.sortKeys :: sortKeysItems items

/-- The values of some members, with the members of every object in them in the order of their
keys. -/
def sortKeysMembers : List (String × Json) → List (String × Json)
  | [] => []
  | (key, value) :: members => (key, value.sortKeys) :: sortKeysMembers members

end

/-- A string, or null where there is none. -/
def ofString? : Option String → Json
  | some text => .str text
  | none => .null

/-- Numbers in an array. -/
def ofInts (numbers : List Int) : Json := .arr (numbers.map .int)

end Json

end ColumnSelect
