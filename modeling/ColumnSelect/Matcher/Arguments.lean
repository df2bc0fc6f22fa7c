/-
How arguments are given to the parameters of a matcher. Arguments with a name go to the parameter of
that name, in which dots count as low lines; the others fill the parameters left, in order. An
argument is evaluated when it is given, so an argument that fails is told before the ones after it.
-/
import ColumnSelect.Expr.Printer
import ColumnSelect.Matcher.Call
import ColumnSelect.Value

namespace ColumnSelect.Matcher

/-- An argument and what it evaluates to. -/
structure Operand where
  arg : Arg
  value : Except Error Value

/-- The values given to the parameters of a matcher so far, in the order of the parameters. -/
abbrev Slots := List (Option Value)

/-- The name of a parameter as it is looked up. -/
def plainParam (name : String) : String :=
  String.ofList (name.toList.map fun c => if c = '.' then '_' else c)

/-- The arguments with a name, each given to its parameter. -/
def bindNamed (m : Matcher) (slots : Slots) : List Operand → Except Error Slots
  | [] => .ok slots
  | operand :: operands =>
    match operand.arg.name with
    | none => bindNamed m slots operands
    | some name =>
      match m.params.findIdx? (· == plainParam name) with
      | none => .error (.misuse name (.noParameter m name))
      | some i =>
        if (slots[i]?.join).isSome then .error (.misuse name (.givenTwice m name))
        else do bindNamed m (slots.set i (some (← operand.value))) operands

/-- The arguments without a name, each given to the first parameter that is left. -/
def bindInOrder (m : Matcher) (slots : Slots) : List Operand → Except Error Slots
  | [] => .ok slots
  | operand :: operands =>
    match operand.arg.name with
    | some _ => bindInOrder m slots operands
    | none =>
      match slots.findIdx? Option.isNone with
      | none => .error (.misuse operand.arg.text (.tooMany m))
      | some i => do bindInOrder m (slots.set i (some (← operand.value))) operands

/-- The value of each parameter. -/
def bindAll (m : Matcher) (operands : List Operand) : Except Error Slots := do
  let slots ← bindNamed m (m.params.map fun _ => none) operands
  bindInOrder m slots operands

/-- The value of a parameter that needs a string. -/
def stringParam (m : Matcher) (param : String) : Option Value → Except Error String
  | some (.str text) => .ok text
  | some value => .error (.misuse param (.notString m param value.kind))
  | none => .error (.misuse param (.missing m param))

/-- The value of a parameter that needs numbers. -/
def numbersParam (m : Matcher) (param : String) : Option Value → Except Error (List Int)
  | some (.ints numbers) => .ok numbers
  | some value => .error (.misuse param (.notNumeric m param value.kind))
  | none => .error (.misuse param (.missing m param))

/-- The value of a parameter that is a truth value, true where it is not given. -/
def logicalParam (m : Matcher) (param : String) : Option Value → Except Error Bool
  | some (.bool value) => .ok value
  | some value => .error (.misuse param (.notLogical m param value.kind))
  | none => .ok true

/-- The value of the width, which may be left out. -/
def widthParam (m : Matcher) : Option Value → Except Error (Option Nat)
  | none => .ok none
  | some (.ints [width]) =>
    if width < 0 then .error (.misuse "width" (.notWidth m .number))
    else if (maxWidth : Int) < width then .error (.misuse "width" (.widthTooLarge m width))
    else .ok (some width.toNat)
  | some value => .error (.misuse "width" (.notWidth m value.kind))

/-- The call that the values of the parameters make. -/
def ofSlots (m : Matcher) (slots : Slots) : Except Error Call := do
  match m with
  | .numRange =>
    let stem ← stringParam m "prefix" (slots[0]?.join)
    let numbers ← numbersParam m "range" (slots[1]?.join)
    let width ← widthParam m (slots[2]?.join)
    return .numRange stem numbers width
  | m =>
    let text ← stringParam m "match" (slots[0]?.join)
    let ignoreCase ← logicalParam m "ignore_case" (slots[1]?.join)
    match m with
    | .startsWith => return .startsWith text ignoreCase
    | .endsWith => return .endsWith text ignoreCase
    | .contains => return .contains text ignoreCase
    | _ => return .matchesPattern text ignoreCase

end ColumnSelect.Matcher
