/-
The value of an expression over a catalog. A column stands for its position, a range for every
position between its ends, a negation turns positions into excluded ones, a matcher stands for what
it selects, and a list for its items in a row. The parts of an expression are evaluated in order and
the first that fails decides.
-/
import ColumnSelect.Matcher.Arguments

namespace ColumnSelect

variable [Pattern.Engine]

namespace Expr

/-- The single number that an end of a range evaluates to. -/
def rangeEnd (misuse : ValueKind → Misuse) (e : Expr) (value : Except Error Value) :
    Except Error Int := do
  match ← value with
  | .ints [n] => return n
  | other => throw (.misuse e.text (misuse other.kind))

/-- The numbers of items in a row. -/
def joinItems : List (Expr × Except Error Value) → Except Error (List Int)
  | [] => .ok []
  | (e, value) :: items => do
    match ← value with
    | .ints numbers => return numbers ++ (← joinItems items)
    | other => throw (.misuse e.text (.itemNotPositions other.kind))

/-- The value of a name by itself. -/
def columnValue (catalog : Catalog) (name : String) : Except Error Value :=
  match catalog.lookup? name with
  | some (.position p) => .ok (.ints [(p : Int)])
  | some (.matcher m) => .error (.misuse name (.notCalled name m))
  | none => .error (.ofCause (.unknownVariable name))

/-- The value of a function with arguments. The name `c` makes a list; any other must be that of a
matcher. -/
def callValue (catalog : Catalog) (function : String) (operands : List Matcher.Operand) :
    Except Error Value :=
  if function = "c" then
    match operands.find? (·.arg.name.isSome) with
    | some operand => .error (.misuse operand.arg.text .namedItem)
    | none => do return .ints (← joinItems (operands.map fun o => (o.arg.value, o.value)))
  else
    match catalog.lookup? function with
    | some (.matcher m) => do
      let slots ← m.bindAll operands
      let call ← m.ofSlots slots
      let positions ← call.apply catalog
      return .ints (positions.map Int.ofNat)
    | some (.position _) => .error (.misuse function (.notFunction function))
    | none => .error (.ofCause (.unknownFunction function))

mutual

/-- The value of an expression. -/
def eval (catalog : Catalog) : Expr → Except Error Value
  | .column name => columnValue catalog name
  | .int value => .ok (.ints [value.toInt])
  | .str text => .ok (.str text)
  | .bool value => .ok (.bool value)
  | .range first last => do
    let a ← rangeEnd .rangeStart first (eval catalog first)
    let b ← rangeEnd .rangeEnd last (eval catalog last)
    Value.range a b
  | .negate inner => do
    match ← eval catalog inner with
    | .ints numbers => return .ints (numbers.map Value.opposite)
    | other => throw (.misuse inner.text (.notNegatable other.kind))
  | .call function args => callValue catalog function (evalArgs catalog args)
  | .list items => do return .ints (← joinItems (evalItems catalog items))

/-- Expressions with their values. -/
def evalItems (catalog : Catalog) : List Expr → List (Expr × Except Error Value)
  | [] => []
  | e :: es => (e, eval catalog e) :: evalItems catalog es

/-- An argument with its value. -/
def evalArg (catalog : Catalog) : Arg → Matcher.Operand
  | .mk name value => ⟨.mk name value, eval catalog value⟩

/-- Arguments with their values. -/
def evalArgs (catalog : Catalog) : List Arg → List Matcher.Operand
  | [] => []
  | a :: as => evalArg catalog a :: evalArgs catalog as

end

theorem evalItems_eq (catalog : Catalog) (es : List Expr) :
    evalItems catalog es = es.map fun e => (e, eval catalog e) := by
  induction es with
  | nil => rfl
  | cons e es ih => rw [evalItems, ih, List.map_cons]

theorem evalArgs_eq (catalog : Catalog) (as : List Arg) :
    evalArgs catalog as = as.map fun a => ⟨a, eval catalog a.value⟩ := by
  induction as with
  | nil => rfl
  | cons a as ih =>
    obtain ⟨name, value⟩ := a
    rw [evalArgs, ih, List.map_cons]
    rfl

/-- An expression nested too deep is refused before it is evaluated. -/
def checkDepth (e : Expr) : Except Error Unit :=
  if maxNesting < e.depth then .error (.misuse "expression" (.tooDeep e.depth)) else .ok ()

end Expr

/-- What a term selects: signed positions, and the name asked for them. -/
structure TermResult where
  indices : List Int
  name : Option String
deriving DecidableEq

/-- The first number that is no position of a catalog of that many columns. -/
def firstOutside? (columns : Nat) (indices : List Int) : Option Int :=
  indices.find? fun i => i == 0 || columns < i.natAbs

/-- What a term selects. Its expression must not be nested too deep, and must evaluate to positions
of the catalog. -/
def Term.evaluate (catalog : Catalog) (t : Term) : Except Error TermResult := do
  t.expr.checkDepth
  match ← t.expr.eval catalog with
  | .ints indices =>
    match firstOutside? catalog.length indices with
    | some i => throw (.ofCause (.outOfRange i catalog.length))
    | none => return ⟨indices, t.name⟩
  | other => throw (.misuse t.expr.text (.termNotPositions other.kind))

end ColumnSelect
