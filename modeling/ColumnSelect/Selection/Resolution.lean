/-
How terms become a mapping. The terms are evaluated in order and the first error decides. Of the
positive positions the first occurrences are kept in order, each with the name that its term gives
it; where there is none, every column is. Then the positions that any term excludes are left out,
wherever that term stands. At last the options add columns in front and take columns out.
-/
import ColumnSelect.Expr.Eval
import ColumnSelect.Log.Event
import ColumnSelect.Mapping

namespace ColumnSelect

variable [Pattern.Engine]

/-- What one name does for a term of several columns. -/
inductive MultiRename where
  /-- The columns get the name followed by their number in the term. -/
  | numbered
  /-- The term is refused. -/
  | reject
deriving DecidableEq, Repr

/-- The written form of the choice. -/
def MultiRename.text : MultiRename → String
  | numbered => "numbered"
  | reject => "reject"

/-- Options of a selection: columns to keep even if no term selects them, columns to take out, and
what one name does for several columns. -/
structure Options where
  keep : List String
  leave : List String
  multiRename : MultiRename

/-- No columns kept or taken out. -/
def Options.plain (multiRename : MultiRename) : Options := ⟨[], [], multiRename⟩

/-- A signed position and the output name asked for it. -/
structure Assignment where
  index : Int
  name : Option String
deriving DecidableEq

/-- The positions of a term, each with its output name. -/
def TermResult.assignments (policy : MultiRename) (result : TermResult) :
    Except Error (List Assignment) :=
  match result.name, result.indices with
  | none, indices => .ok (indices.map (⟨·, none⟩))
  | some stem, [i] => .ok [⟨i, some stem⟩]
  | some stem, indices =>
    match policy with
    | .numbered => .ok ((indices.zipIdx 1).map fun p => ⟨p.1, some (stem ++ toString p.2)⟩)
    | .reject => .error (.misuse stem (.oneNameForMany indices.length stem))

/-- A term with what it selects. -/
structure Evaluated where
  term : Term
  number : Nat
  result : TermResult
  assignments : List Assignment

/-- The term of the given number, evaluated and with its output names; an error tells the number. -/
def Term.evaluated (catalog : Catalog) (policy : MultiRename) (number : Nat) (t : Term) :
    Except Error Evaluated :=
  Except.mapError (fun e => e.withTerm number) do
    let result ← t.evaluate catalog
    let assignments ← result.assignments policy
    return ⟨t, number, result, assignments⟩

/-- Terms evaluated in order, the first of them having the given number, up to the first error. -/
def evaluateTerms (catalog : Catalog) (policy : MultiRename) (number : Nat) :
    List Term → List Evaluated × Option Error
  | [] => ([], none)
  | t :: ts =>
    match t.evaluated catalog policy number with
    | .error e => ([], some e)
    | .ok first =>
      let (others, failure) := evaluateTerms catalog policy (number + 1) ts
      (first :: others, failure)

/-- The positive positions that are not among those seen, each at its first occurrence. -/
def firstPositions (seen : List Nat) : List Assignment → List (Nat × Option String)
  | [] => []
  | a :: as =>
    if 0 < a.index && !seen.contains a.index.natAbs then
      (a.index.natAbs, a.name) :: firstPositions (a.index.natAbs :: seen) as
    else firstPositions seen as

/-- The positions of a catalog of that many columns. -/
def allPositions (columns : Nat) : List Nat := List.range' 1 columns

/-- The positions that are excluded, in ascending order. -/
def excludedPositions (columns : Nat) (assignments : List Assignment) : List Nat :=
  let negatives := (assignments.filter fun a => a.index ≤ 0).map fun a => a.index.natAbs
  (allPositions columns).filter negatives.contains

/-- The result of a selection, with the steps on the way to it. -/
structure Resolution where
  /-- The terms, in order. -/
  terms : List Evaluated
  /-- The positions included, in order, before all columns stand in for none. -/
  included : List Nat
  /-- The positions excluded, in ascending order. -/
  excluded : List Nat
  /-- Whether no position was included, so that all columns were taken. -/
  identityDefault : Bool
  /-- The result. -/
  mapping : Mapping

/-- The columns at positions that have an output name or keep their own. -/
def entriesAt (catalog : Catalog) (positions : List (Nat × Option String)) : Mapping :=
  positions.filterMap fun (p, name) =>
    (catalog.nameAt? p).map fun source => ⟨name.getD source, source⟩

/-- The first of some names that is not in the catalog. -/
def unknownName? (catalog : Catalog) (names : List String) : Option String :=
  names.find? fun name => (catalog.position? name).isNone

/-- The mapping with the columns to keep that it does not read yet in front, and without the columns
to take out. -/
def Options.adjust (options : Options) (mapping : Mapping) : Mapping :=
  let added := (options.keep.filter fun name => !mapping.sources.contains name).eraseDups
  (added.map Entry.same ++ mapping).filter fun e => !options.leave.contains e.source

/-- The mapping with the options applied, whose names must be in the catalog. -/
def Options.apply (options : Options) (catalog : Catalog) (mapping : Mapping) :
    Except Error Mapping :=
  match unknownName? catalog (options.keep ++ options.leave) with
  | some name => .error (.ofCause (.unknownVariable name))
  | none => .ok (options.adjust mapping)

/-- The resolution of terms that were all evaluated. -/
def reduce (catalog : Catalog) (options : Options) (terms : List Evaluated) :
    Except Error Resolution := do
  let assignments := terms.flatMap Evaluated.assignments
  let included := firstPositions [] assignments
  let excluded := excludedPositions catalog.length assignments
  let identityDefault := included.isEmpty
  let taken :=
    if identityDefault then (allPositions catalog.length).map (·, none) else included
  let kept := taken.filter fun p => !excluded.contains p.1
  let mapping ← options.apply catalog (entriesAt catalog kept)
  return ⟨terms, included.map Prod.fst, excluded, identityDefault, mapping⟩

/-- The resolution of terms. -/
def resolution (catalog : Catalog) (options : Options) (terms : List Term) :
    Except Error Resolution :=
  match evaluateTerms catalog options.multiRename 1 terms with
  | (_, some e) => .error e
  | (evaluated, none) => reduce catalog options evaluated

/-- The mapping that terms select. -/
def resolve (catalog : Catalog) (options : Options) (terms : List Term) : Except Error Mapping :=
  (resolution catalog options terms).map Resolution.mapping

/-! ## Tracing -/

/-- Numbers in brackets, with commas between them. -/
def numberList (numbers : List Int) : String :=
  "[" ++ ", ".intercalate (numbers.map toString) ++ "]"

/-- The record of a term that was evaluated. -/
def Evaluated.record (e : Evaluated) : Log.Record :=
  Log.Event.termEvaluated.record
    [("expr", e.term.text), ("indices", numberList e.result.indices), ("term", toString e.number)]

/-- The record of the outcome of a selection. -/
def outcomeRecord (terms : Nat) : Except Error Resolution → Log.Record
  | .ok r =>
    Log.Event.selectionComplete.record
      [("columns", toString r.mapping.length), ("terms", toString terms)]
  | .error e => Log.Event.selectionFailed.record [("code", e.code.text), ("reason", e.text)]

/-- Terms evaluated in order, the first of them having the given number, up to the first error, and what is
logged on the way: when the selection is traced, each term as soon as it is evaluated. -/
def tracedTerms (catalog : Catalog) (policy : MultiRename) (traced : Bool) (number : Nat) :
    List Term → Except Error (List Evaluated) × List Log.Record
  | [] => (.ok [], [])
  | t :: ts =>
    match t.evaluated catalog policy number with
    | .error e => (.error e, [])
    | .ok first =>
      let (others, log) := tracedTerms catalog policy traced (number + 1) ts
      (others.map (first :: ·), if traced then first.record :: log else log)

/-- The resolution of terms and what it logs: when it is traced, the terms as they are evaluated, and
then its outcome. -/
def tracedResolution (catalog : Catalog) (options : Options) (traced : Bool) (terms : List Term) :
    Except Error Resolution × List Log.Record :=
  let (evaluated, log) := tracedTerms catalog options.multiRename traced 1 terms
  let result := evaluated >>= reduce catalog options
  (result, if traced then log ++ [outcomeRecord terms.length result] else log)

end ColumnSelect
