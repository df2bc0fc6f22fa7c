/-
Explanations: how each term evaluated and how the result was reached, or why the selection was
refused, and the report that is written of it.
-/
import ColumnSelect.Selection.Resolution

namespace ColumnSelect

/-- An account of a selection. -/
inductive Explanation where
  /-- The selection was resolved. -/
  | accepted (resolution : Resolution)
  /-- The selection was refused, with a code and a reason. -/
  | rejected (code reason : String)

namespace Explanation

/-- Whether the selection was resolved. -/
def isAccepted : Explanation → Bool
  | accepted _ => true
  | rejected _ _ => false

/-- The terms that were evaluated, in order. -/
def terms : Explanation → List Evaluated
  | accepted r => r.terms
  | rejected _ _ => []

/-- The positions included, in order, before all columns stand in for none. -/
def included : Explanation → List Nat
  | accepted r => r.included
  | rejected _ _ => []

/-- The positions excluded, in ascending order. -/
def excluded : Explanation → List Nat
  | accepted r => r.excluded
  | rejected _ _ => []

/-- Whether all columns were taken because no position was included. -/
def identityDefault : Explanation → Bool
  | accepted r => r.identityDefault
  | rejected _ _ => false

/-- The result, where there is one. -/
def mapping? : Explanation → Option Mapping
  | accepted r => some r.mapping
  | rejected _ _ => none

/-- The code of the refusal, where there is one. -/
def code? : Explanation → Option String
  | accepted _ => none
  | rejected code _ => some code

/-- The reason of the refusal, where there is one. -/
def reason? : Explanation → Option String
  | accepted _ => none
  | rejected _ reason => some reason

/-- The account of the outcome of a selection. -/
def ofOutcome : Except Error Resolution → Explanation
  | .ok r => accepted r
  | .error e => rejected e.code.text e.text

/-- The account of a term: its number, its name, its expression and what it evaluated to. -/
def termLine (e : Evaluated) : String :=
  let name :=
    match e.result.name with
    | some name => s!"{name} = "
    | none => ""
  s!"  {e.number}. {name}{e.term.expr.text} -> {numberList e.result.indices}"

/-- A column of the result, and the column that it reads where that has another name. -/
def entryLine (e : Entry) : String :=
  if e.output = e.source then s!"  {e.output}" else s!"  {e.output} <- {e.source}"

/-- The lines of the report. -/
def lines : Explanation → List String
  | rejected code reason =>
    ["=== EXPLAIN SELECTION ===", "Status: REJECTED", s!"Code: {code}", s!"Reason: {reason}"]
  | accepted r =>
    ["=== EXPLAIN SELECTION ===", "Status: ACCEPTED"]
      ++ (if r.terms.isEmpty then [] else "Terms:" :: r.terms.map termLine)
      ++ [s!"Included: {numberList (r.included.map Int.ofNat)}",
        s!"Excluded: {numberList (r.excluded.map Int.ofNat)}"]
      ++ (if r.identityDefault then ["Default: all columns"] else [])
      ++ "Selection:" :: r.mapping.map entryLine

/-- The report. -/
def text (e : Explanation) : String := String.join (e.lines.map (· ++ "\n"))

end Explanation

end ColumnSelect
