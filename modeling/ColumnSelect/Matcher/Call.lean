/-
What the matchers select. Three look for a text in the names, one for a pattern, and each of these
may disregard letter case; texts are then compared in lower case. The last builds names from numbers
and selects those that are in the catalog, in the order of the numbers.
-/
import ColumnSelect.Catalog
import ColumnSelect.Pattern.Engine
import ColumnSelect.Unicode.Casing

namespace ColumnSelect.Matcher

/-- A matcher with its arguments. -/
inductive Call where
  | startsWith (text : String) (ignoreCase : Bool)
  | endsWith (text : String) (ignoreCase : Bool)
  | contains (text : String) (ignoreCase : Bool)
  | matchesPattern (pattern : String) (ignoreCase : Bool)
  | numRange (stem : String) (numbers : List Int) (width : Option Nat)

/-- A text in the form in which it is compared. -/
def folded (ignoreCase : Bool) (text : String) : List Char :=
  if ignoreCase then Unicode.lowerAfter [] text.toList else text.toList

/-- Whether a text occurs somewhere in another. -/
def occursIn (part : List Char) : List Char → Bool
  | [] => part.isEmpty
  | c :: cs => part.isPrefixOf (c :: cs) || occursIn part cs

/-- The digits of a number filled up with zeros to a width, to which a sign counts. -/
def paddedDigits (width : Nat) (n : Int) : List Char :=
  let digits := Nat.toDigits 10 n.natAbs
  if n < 0 then '-' :: List.replicate (width - 1 - digits.length) '0' ++ digits
  else List.replicate (width - digits.length) '0' ++ digits

/-- The name that a number makes. -/
def numbered (stem : String) (width : Option Nat) (n : Int) : String :=
  stem ++ String.ofList (paddedDigits (width.getD 0) n)

/-- The positions of the names in which the text looked for is found, which must not be empty. -/
def select (matcher : Matcher) (text : String) (catalog : Catalog) (found : String → Bool) :
    Except Error (List Nat) :=
  if text.isEmpty then .error (.misuse "match" (.nothingToMatch matcher))
  else .ok (catalog.positionsWhere found)

/-- The positions that a matcher selects. -/
def Call.apply [Pattern.Engine] (catalog : Catalog) : Call → Except Error (List Nat)
  | startsWith text ignoreCase =>
    select .startsWith text catalog fun name =>
      (folded ignoreCase text).isPrefixOf (folded ignoreCase name)
  | endsWith text ignoreCase =>
    select .endsWith text catalog fun name =>
      (folded ignoreCase text).isSuffixOf (folded ignoreCase name)
  | contains text ignoreCase =>
    select .contains text catalog fun name =>
      occursIn (folded ignoreCase text) (folded ignoreCase name)
  | matchesPattern pattern ignoreCase =>
    if pattern.isEmpty then .error (.misuse "match" (.nothingToMatch .matchesPattern))
    else
      match Pattern.Engine.compile ignoreCase pattern with
      | .error reason => .error (.misuse "match" (.badPattern reason))
      | .ok found => .ok (catalog.positionsWhere found)
  | numRange stem numbers width =>
    .ok (numbers.filterMap fun n => catalog.position? (numbered stem width n))

end ColumnSelect.Matcher
