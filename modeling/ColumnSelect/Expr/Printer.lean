/-
The written form of expressions and terms. A name is quoted when it cannot be written bare, an end
of a range stands in parentheses when it is itself a range, a negation or a negative number, and a
negative number is written as a negation, since the text has no negative numbers.
-/
import ColumnSelect.Expr.Basic
import ColumnSelect.Token.Lexer

namespace ColumnSelect

/-- The characters of a quoted name, with quotes and backslashes escaped. -/
def escapeName : List Char → List Char
  | [] => []
  | c :: cs =>
    (if c = Token.nameQuote || c = '\\' then ['\\', c] else [c]) ++ escapeName cs

/-- The characters of a string, with quotes, backslashes, line feeds and tabs escaped. -/
def escapeString : List Char → List Char
  | [] => []
  | c :: cs =>
    (if c = '"' || c = '\\' then ['\\', c]
     else if c = '\n' then ['\\', 'n']
     else if c = '\t' then ['\\', 't']
     else [c]) ++ escapeString cs

/-- A name as selection text. -/
def renderName (name : String) : List Char :=
  if Text.isBareName name.toList then name.toList
  else Token.nameQuote :: escapeName name.toList ++ [Token.nameQuote]

/-- A string as selection text. -/
def renderString (text : String) : List Char :=
  '"' :: escapeString text.toList ++ ['"']

/-- A number as selection text. -/
def renderInt (value : Int64) : List Char :=
  if value.toInt < 0 then '-' :: Nat.toDigits 10 value.toInt.natAbs
  else Nat.toDigits 10 value.toInt.natAbs

/-- A name in front of what it names. -/
def renderBinding : Option String → List Char
  | some name => renderName name ++ [' ', '=', ' ']
  | none => []

/-- Texts in a row, each but the last followed by a comma and a blank. -/
def joinTexts : List (List Char) → List Char
  | [] => []
  | [text] => text
  | text :: texts => text ++ ',' :: ' ' :: joinTexts texts

/-- Whether the expression stands as the end of a range without parentheses. -/
def Expr.isPrimary : Expr → Bool
  | .int value => 0 ≤ value.toInt
  | .range _ _ | .negate _ => false
  | _ => true

mutual

/-- An expression as selection text. -/
def Expr.render : Expr → List Char
  | .column name => renderName name
  | .int value => renderInt value
  | .str text => renderString text
  | .bool true => ['T', 'R', 'U', 'E']
  | .bool false => ['F', 'A', 'L', 'S', 'E']
  | .range first last =>
    (if first.isPrimary then first.render else '(' :: first.render ++ [')'])
      ++ ':' :: (if last.isPrimary then last.render else '(' :: last.render ++ [')'])
  | .negate inner => '-' :: inner.render
  | .call function args => renderName function ++ '(' :: joinTexts (Arg.renderAll args) ++ [')']
  | .list items => 'c' :: '(' :: joinTexts (Expr.renderAll items) ++ [')']

/-- Each of some expressions as selection text. -/
def Expr.renderAll : List Expr → List (List Char)
  | [] => []
  | e :: es => e.render :: Expr.renderAll es

/-- An argument as selection text. -/
def Arg.render : Arg → List Char
  | .mk name value => renderBinding name ++ value.render

/-- Each of some arguments as selection text. -/
def Arg.renderAll : List Arg → List (List Char)
  | [] => []
  | a :: as => a.render :: Arg.renderAll as

end

theorem Expr.renderAll_eq (es : List Expr) : Expr.renderAll es = es.map Expr.render := by
  induction es with
  | nil => rfl
  | cons e es ih => rw [Expr.renderAll, ih, List.map_cons]

theorem Arg.renderAll_eq (as : List Arg) :
    Arg.renderAll as = as.map fun a => renderBinding a.name ++ a.value.render := by
  induction as with
  | nil => rfl
  | cons a as ih =>
    obtain ⟨name, value⟩ := a
    rw [Arg.renderAll, ih, List.map_cons]
    rfl

/-- An expression as selection text. -/
def Expr.text (e : Expr) : String := String.ofList e.render

/-- An argument as selection text. -/
def Arg.text (a : Arg) : String := String.ofList a.render

namespace Term

/-- A term as selection text. -/
def render (t : Term) : List Char := renderBinding t.name ++ t.expr.render

/-- A term as selection text. -/
def text (t : Term) : String := String.ofList t.render

/-- Terms as one selection text. -/
def renderAll (terms : List Term) : List Char := joinTexts (terms.map render)

end Term

end ColumnSelect
