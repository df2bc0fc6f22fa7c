/-
Numbers of JSON texts. A numeral without a fraction and without an exponent is a whole number as long
as it fits 64 bits, with or without a sign as it is written; any other is a floating-point number,
made from as many of its digits as fit 64 bits and one scaling by a power of ten. Minus zero is a
floating-point number.
-/
import ColumnSelect.Json.Fault

namespace ColumnSelect.Json

/-- The largest whole number. -/
def maxWhole : Nat := 18446744073709551615

/-- The largest whole number with a minus sign. -/
def maxNegative : Nat := 9223372036854775808

/-- The largest exponent that is taken as it is written. -/
def maxExponent : Nat := 2147483647

/-- A number as it is written. -/
structure Numeral where
  negative : Bool
  whole : List Char
  fraction : List Char
  /-- The sign, true for minus, and the digits of the exponent. -/
  exponent : Option (Bool × List Char)

/-- The value of digits. -/
def digitsValue (digits : List Char) : Nat :=
  digits.foldl (fun n c => 10 * n + (c.toNat - '0'.toNat)) 0

/-- The digits at the front of a text, of which there must be one, and the text behind them. -/
def readDigits (cs : List Char) : Except Fault (List Char × List Char) :=
  let digits := cs.takeWhile Char.isDigit
  if digits.isEmpty then .error .malformed else .ok (digits, cs.dropWhile Char.isDigit)

/-- The digits before the point. A zero stands alone. -/
def readWhole : List Char → Except Fault (List Char × List Char)
  | '0' :: rest => if rest.head?.any Char.isDigit then .error .malformed else .ok (['0'], rest)
  | cs => readDigits cs

/-- The digits behind the point, where there is one. -/
def readFraction : List Char → Except Fault (List Char × List Char)
  | '.' :: rest => readDigits rest
  | cs => .ok ([], cs)

/-- The exponent, where there is one. -/
def readExponent : List Char → Except Fault (Option (Bool × List Char) × List Char)
  | c :: rest =>
    if c = 'e' || c = 'E' then do
      let (negative, rest) :=
        match rest with
        | '+' :: rest => (false, rest)
        | '-' :: rest => (true, rest)
        | rest => (false, rest)
      let (digits, rest) ← readDigits rest
      return (some (negative, digits), rest)
    else .ok (none, c :: rest)
  | [] => .ok (none, [])

/-- A numeral at the front of a text, and the text behind it. -/
def Numeral.read (cs : List Char) : Except Fault (Numeral × List Char) := do
  let (negative, rest) :=
    match cs with
    | '-' :: rest => (true, rest)
    | _ => (false, cs)
  let (whole, rest) ← readWhole rest
  let (fraction, rest) ← readFraction rest
  let (exponent, rest) ← readExponent rest
  return (⟨negative, whole, fraction, exponent⟩, rest)

/-- Digits appended to a number while the result fits, and the digits that did not. -/
def absorb (n : Nat) : List Char → Nat × List Char
  | [] => (n, [])
  | c :: cs =>
    let next := 10 * n + (c.toNat - '0'.toNat)
    if maxWhole < next then (n, c :: cs) else absorb next cs

/-- A power of ten as a floating-point number. -/
def powerOfTen (n : Nat) : Float := Float.ofScientific 1 false n

/-- A number of at most 64 bits times a power of ten; `none` where the result is too large. -/
def scale (significand : Nat) (exponent : Int) : Option Float :=
  let f := (UInt64.ofNat significand).toFloat
  if significand = 0 then some f
  else if 308 < exponent then none
  else if 0 ≤ exponent then
    let product := f * powerOfTen exponent.toNat
    if product.isInf then none else some product
  else if -308 ≤ exponent then some (f / powerOfTen (-exponent).toNat)
  else if -616 ≤ exponent then some (f / powerOfTen 308 / powerOfTen (-exponent - 308).toNat)
  else some 0

/-- The value of a numeral. -/
inductive Number where
  | whole (value : Int)
  | float (value : Float)

namespace Numeral

/-- The floating-point value without the sign; `none` where it is too large. -/
def magnitude (n : Numeral) : Option Float :=
  let (front, spilled) := absorb 0 n.whole
  let (significand, rest) := absorb front n.fraction
  let point : Int := spilled.length - (n.fraction.length - rest.length : Nat)
  match n.exponent with
  | none => scale significand point
  | some (negative, digits) =>
    let e := digitsValue digits
    if maxExponent < e then if significand ≠ 0 && !negative then none else some 0
    else scale significand (if negative then point - e else point + e)

/-- The value of a numeral. One that is too large is no number. -/
def value (n : Numeral) : Except Fault Number :=
  let whole := digitsValue n.whole
  let exact := n.fraction.isEmpty && n.exponent.isNone
  if exact && !n.negative && whole ≤ maxWhole then .ok (.whole whole)
  else if exact && n.negative && 0 < whole && whole ≤ maxNegative then .ok (.whole (-whole))
  else
    match n.magnitude with
    | some f => .ok (.float (if n.negative then -f else f))
    | none => .error .malformed

end Numeral

/-- The number at the front of a text, and the text behind it. -/
def Number.read (cs : List Char) : Except Fault (Number × List Char) := do
  let (numeral, rest) ← Numeral.read cs
  return (← numeral.value, rest)

/-- A number in place of something else. -/
def Number.found : Number → Found
  | .whole value => .integer value
  | .float value => .float value

end ColumnSelect.Json
