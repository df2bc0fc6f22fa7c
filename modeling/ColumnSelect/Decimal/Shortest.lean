/-
The fewest decimal digits that stand for one floating-point number and no other, and how such a
number is written: positionally when its leading digit stands between the fifth place behind the
point and the sixteenth before it, and with an exponent otherwise.
-/
namespace ColumnSelect.Decimal

/-- A power of two. -/
def twoTo (n : Nat) : Nat := Nat.pow 2 n

/-- A power of ten. -/
def tenTo (n : Nat) : Nat := Nat.pow 10 n

/-- A positive number `mantissa * 2 ^ exponent` of binary floating point. `narrow` tells that the
number below is only half as far away as the one above. -/
structure Binary where
  mantissa : Nat
  exponent : Int
  narrow : Bool

/-- The number in the bits of a 64-bit floating-point number, whatever its sign. -/
def Binary.ofBits (bits : UInt64) : Binary :=
  let fraction : Nat := bits.toNat % twoTo 52
  let scale : Nat := bits.toNat / twoTo 52 % 2048
  if scale = 0 then ⟨fraction, -1074, false⟩
  else ⟨fraction + twoTo 52, (scale : Int) - 1075, fraction == 0 && 1 < scale⟩

/-- A decimal number `digits * 10 ^ exponent`. -/
structure Digits where
  digits : Nat
  exponent : Int
deriving DecidableEq, Repr

/-- A numerator and a denominator of `n * 2 ^ e`. -/
def scaled (n : Nat) (e : Int) : Nat × Nat :=
  if 0 ≤ e then (n * twoTo e.toNat, 1) else (n, twoTo (-e).toNat)

/-- The quotient and the remainder, with its divisor, of `num / den / 10 ^ e`. -/
def onGrid (num den : Nat) (e : Int) : Nat × Nat × Nat :=
  let (num, den) := if 0 ≤ e then (num, den * tenTo e.toNat) else (num * tenTo (-e).toNat, den)
  (num / den, num % den, den)

/-- Whether `digits * 10 ^ e` lies between the two halfway points around the number, which belong to
the number when its mantissa is even. All three are compared as multiples of a quarter unit. -/
def reads (b : Binary) (digits : Nat) (e : Int) : Bool :=
  let (low, den) := scaled (4 * b.mantissa - (if b.narrow then 1 else 2)) (b.exponent - 2)
  let (high, _) := scaled (4 * b.mantissa + 2) (b.exponent - 2)
  let (num, tenth) := if 0 ≤ e then (digits * tenTo e.toNat, 1) else (digits, tenTo (-e).toNat)
  let (low, value, high) := (low * tenth, num * den, high * tenth)
  if b.mantissa % 2 = 0 then low ≤ value && value ≤ high else low < value && value < high

/-- The nearest number on the grid of multiples of `10 ^ e` that stands for the number, if one does;
of two that are as near, the even one. -/
def onGrid? (b : Binary) (e : Int) : Option Digits :=
  let (num, den) := scaled b.mantissa b.exponent
  let (below, rest, unit) := onGrid num den e
  let down := 2 * rest < unit || (2 * rest == unit && below % 2 == 0)
  let (near, far) := if down then (below, below + 1) else (below + 1, below)
  if reads b near e then some ⟨near, e⟩ else if reads b far e then some ⟨far, e⟩ else none

/-- The place of the leading digit of `num / den`, searched from a place that is not below it. -/
def leadingPlace (num den : Nat) : Nat → Int → Int
  | 0, e => e
  | fuel + 1, e => if (onGrid num den e).1 = 0 then leadingPlace num den fuel (e - 1) else e

/-- The coarsest grid on which a number reads, from the place of its leading digit downwards. -/
def search (b : Binary) : Nat → Int → Digits
  | 0, e => ((onGrid? b e).getD ⟨0, 0⟩)
  | fuel + 1, e =>
    match onGrid? b e with
    | some d => d
    | none => search b fuel (e - 1)

/-- The same number without zeros at the end of its digits. -/
def trim (fuel : Nat) (d : Digits) : Digits :=
  match fuel with
  | 0 => d
  | fuel + 1 =>
    if d.digits % 10 = 0 && d.digits != 0 then trim fuel ⟨d.digits / 10, d.exponent + 1⟩ else d

/-- The fewest digits of a positive number. -/
def shortest (b : Binary) : Digits :=
  let (num, den) := scaled b.mantissa b.exponent
  trim 20 (search b 17 (leadingPlace num den 640 309))

/-- A decimal number written out: with a point and at least one digit on either side of it, or, for a
large or a small number, with an exponent. -/
def Digits.text (d : Digits) : String :=
  let digits := Nat.toDigits 10 d.digits
  let leading : Int := d.exponent + digits.length - 1
  let chars :=
    if leading < -5 || 15 < leading then
      let mantissa :=
        match digits with
        | first :: second :: rest => first :: '.' :: second :: rest
        | _ => digits
      mantissa ++ 'e' :: (toString leading).toList
    else if 0 ≤ d.exponent then digits ++ List.replicate d.exponent.toNat '0' ++ ['.', '0']
    else if 0 ≤ leading then
      digits.take (leading.toNat + 1) ++ '.' :: digits.drop (leading.toNat + 1)
    else '0' :: '.' :: List.replicate ((-leading).toNat - 1) '0' ++ digits
  String.ofList chars

/-- A floating-point number in the fewest digits. -/
def floatText (x : Float) : String :=
  let bits := x.toBits
  let sign := if bits.toNat / twoTo 63 = 1 then "-" else ""
  let b := Binary.ofBits bits
  if b.mantissa = 0 then sign ++ "0.0" else sign ++ (shortest b).text

end ColumnSelect.Decimal
