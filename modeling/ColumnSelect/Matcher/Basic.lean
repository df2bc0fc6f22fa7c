/-
The five matchers: the names they are called by, which hide columns of the same name, and their
formal parameters.
-/
namespace ColumnSelect

/-- A function that selects columns by their names. -/
inductive Matcher where
  | startsWith
  | endsWith
  | contains
  | matchesPattern
  | numRange
deriving DecidableEq, Repr

namespace Matcher

/-- Every matcher. -/
def all : List Matcher := [startsWith, endsWith, contains, matchesPattern, numRange]

/-- The name a matcher is called by. -/
def name : Matcher → String
  | startsWith => "starts_with"
  | endsWith => "ends_with"
  | contains => "contains"
  | matchesPattern => "matches"
  | numRange => "num_range"

/-- The matcher of a name. -/
def ofName? (name : String) : Option Matcher := all.find? fun m => m.name == name

/-- The formal parameters, in the order in which arguments without a name fill them. -/
def params : Matcher → List String
  | numRange => ["prefix", "range", "width"]
  | _ => ["match", "ignore_case"]

theorem ofName?_name (m : Matcher) : ofName? m.name = some m := by cases m <;> decide

theorem name_of_ofName? {name : String} {m : Matcher} (h : ofName? name = some m) :
    m.name = name := by
  have := List.find?_some h
  simpa using this

end Matcher

end ColumnSelect
