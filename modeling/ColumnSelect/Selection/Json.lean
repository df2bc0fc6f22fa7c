/-
Explanations as JSON.
-/
import ColumnSelect.Mapping.Json
import ColumnSelect.Selection.Explain

namespace ColumnSelect

/-- The account of a term as JSON. -/
def Evaluated.toJson (e : Evaluated) : Json :=
  .obj [("term", .int e.number), ("expr", .str e.term.expr.text), ("name", .ofString? e.result.name),
    ("indices", .ofInts e.result.indices)]

/-- An account of a selection as JSON. All fields are told, empty or null where the account has nothing
of the kind. -/
def Explanation.toJson (e : Explanation) : Json :=
  .obj [("accepted", .bool e.isAccepted), ("terms", .arr (e.terms.map Evaluated.toJson)),
    ("included", .ofInts (e.included.map Int.ofNat)), ("excluded", .ofInts (e.excluded.map Int.ofNat)),
    ("identity_default", .bool e.identityDefault), ("selection", (e.mapping?.map Mapping.toJson).getD .null),
    ("rejection_code", .ofString? e.code?), ("rejection_reason", .ofString? e.reason?)]

end ColumnSelect
