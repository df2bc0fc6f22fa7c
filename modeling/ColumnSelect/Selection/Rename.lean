/-
Renaming: every column is kept in the order of the catalog, and each term gives a new name to one
column. Old names are those of the catalog, whatever other terms do, and of two terms for one column
the later one counts.
-/
import ColumnSelect.Selection.Resolution

namespace ColumnSelect

/-- The position of a column and its new name. -/
structure Change where
  position : Nat
  name : String
deriving DecidableEq

/-- The change that a term asks for. -/
def Term.change (catalog : Catalog) (t : Term) : Except Error Change := do
  t.expr.checkDepth
  match t.name, t.expr with
  | none, expr => throw (.misuse expr.text .renameUnnamed)
  | some new, .column old => return ⟨← catalog.position old, new⟩
  | some _, expr => throw (.misuse expr.text .renameNotColumn)

/-- The changes of terms in order, the first of them having the given number. -/
def changes (catalog : Catalog) (number : Nat) : List Term → Except Error (List Change)
  | [] => .ok []
  | t :: ts => do
    let first ← (t.change catalog).mapError fun e => e.withTerm number
    let others ← changes catalog (number + 1) ts
    return first :: others

/-- The names of the columns after changes. -/
def applyChanges (catalog : Catalog) (changes : List Change) : List String :=
  changes.foldl (fun names change => names.set (change.position - 1) change.name) catalog

/-- All columns under their new names. -/
def rename (catalog : Catalog) (terms : List Term) : Except Error Mapping := do
  let changes ← changes catalog 1 terms
  return (applyChanges catalog changes).zipWith Entry.mk catalog

/-- All columns under their new names, and what is logged when the rename is traced, which is its
success only. -/
def tracedRename (catalog : Catalog) (traced : Bool) (terms : List Term) :
    Except Error Mapping × List Log.Record :=
  match rename catalog terms with
  | .ok mapping =>
    (.ok mapping,
      if traced then
        [Log.Event.renameComplete.record
          [("columns", toString mapping.length), ("renames", toString terms.length)]]
      else [])
  | .error e => (.error e, [])

end ColumnSelect
