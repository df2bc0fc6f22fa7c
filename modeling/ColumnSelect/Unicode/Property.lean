/-
Properties of characters by name, as patterns refer to them. Names are compared loosely: letter case,
blanks, low lines, hyphens, a leading "is" and all that is not ASCII do not count. A single name is
that of a property a character has or has not, or else of a category, or else of a script; a name
with a value selects among the categories, scripts, script extensions, ages or parts in segmentation.
-/
import ColumnSelect.Unicode.Age
import ColumnSelect.Unicode.BinaryProperty
import ColumnSelect.Unicode.Category
import ColumnSelect.Unicode.Script
import ColumnSelect.Unicode.ScriptExtension
import ColumnSelect.Unicode.Segmentation

namespace ColumnSelect.Unicode

/-- The form of a name in which names are compared. A lone "isc" keeps its beginning, since it is
the name of a property of its own. -/
def looseName (name : List Char) : String :=
  let lowered := name.map Char.toLower
  let (led, body) :=
    match lowered with
    | 'i' :: 's' :: rest => (true, rest)
    | _ => (false, lowered)
  let kept := body.filter fun c => c.toNat < 128 && c != ' ' && c != '_' && c != '-'
  if led && kept == ['c'] then "isc" else String.ofList kept

namespace Property

/-- A category or a group of categories, by its loose name. -/
def category? (name : String) : Option CodeSet :=
  match name with
  | "any" => some .full
  | "ascii" => some [(0, 0x7F)]
  | "assigned" => some assigned
  | "cn" | "unassigned" => some assigned.normal.complement
  | "c" | "other" => some graphic.normal.complement
  | _ =>
    let single := (NamedSet.find? categories name).map NamedSet.codes
    let group := (categoryGroups.find? fun g => g.1.contains name).map (·.2.flatMap category)
    single.or group

/-- A script, by its loose name. -/
def script? (name : String) : Option CodeSet :=
  (NamedSet.find? scripts name).map NamedSet.codes

/-- The characters used in a script, by its loose name. -/
def scriptExtension? (name : String) : Option CodeSet := do
  let s ← NamedSet.find? scripts name
  let extended := scriptExtensions.find? fun t => t.names.any s.names.contains
  return (extended.getD s).codes

/-- The characters assigned in a version or before it. -/
def age? (name : String) : Option CodeSet :=
  let newer := ages.dropWhile fun s => !s.names.contains name
  if newer.isEmpty then none
  else some ((ages.take (ages.length - newer.length + 1)).flatMap NamedSet.codes)

/-- A property that a character has or has not, by its loose name. -/
def binary? (name : String) : Option CodeSet :=
  (NamedSet.find? binaryProperties name).map NamedSet.codes

/-- The property of a single name. -/
def named? (name : List Char) : Option CodeSet :=
  let name := looseName name
  ((binary? name).or ((category? name).or (script? name))).map CodeSet.normal

/-- The property of a name with a value. -/
def valued? (name value : List Char) : Option CodeSet :=
  let value := looseName value
  let found :=
    match looseName name with
    | "gc" | "generalcategory" => category? value
    | "sc" | "script" => script? value
    | "scx" | "scriptextensions" => scriptExtension? value
    | "age" => age? value
    | "gcb" | "graphemeclusterbreak" => playing? graphemeBreaks value
    | "wb" | "wordbreak" => playing? wordBreaks value
    | "sb" | "sentencebreak" => playing? sentenceBreaks value
    | _ => none
  found.map CodeSet.normal

end Property

/-! ## Classes of characters with names of their own -/

/-- The characters that words are made of: letters, marks, decimal digits, connectors and joiners. -/
def wordCodes : CodeSet :=
  CodeSet.normal
    (["alpha", "joinc"].flatMap binaryProperty ++ ["mn", "mc", "me", "nd", "pc"].flatMap category)

/-- The decimal digits. -/
def digitCodes : CodeSet := category "nd"

/-- Whether the character shows as itself in quoted text: it is graphic, and no blank but the
common one. -/
def isPrintable (c : Char) : Bool :=
  c == ' ' || (graphic.has c && !(category "zs").has c && !(category "zl").has c && !(category "zp").has c)

/-- Whether the character extends the one before it. -/
def extendsPrevious (c : Char) : Bool :=
  (binaryProperty "grext").has c

end ColumnSelect.Unicode
