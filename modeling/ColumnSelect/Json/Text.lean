/-
Strings of JSON texts. Quotes, backslashes and the control characters of ASCII are escaped, by a
letter where there is one for them; all else is written as it is. Every escape can be read, also of
a character that need not be escaped, and characters beyond the basic plane as two escapes.
-/
import ColumnSelect.Json.Fault
import ColumnSelect.Text.Hexadecimal

namespace ColumnSelect.Json

/-- A character inside of quotes. -/
def escapeChar (c : Char) : List Char :=
  if c = '"' || c = '\\' then ['\\', c]
  else if c = '\n' then ['\\', 'n']
  else if c = '\r' then ['\\', 'r']
  else if c = '\t' then ['\\', 't']
  else if c = '\x08' then ['\\', 'b']
  else if c = '\x0c' then ['\\', 'f']
  else if c.toNat < 32 then '\\' :: 'u' :: Text.hexFour c.toNat
  else [c]

/-- A string in quotes. -/
def quote (text : String) : List Char := '"' :: text.toList.flatMap escapeChar ++ ['"']

/-- The character that a backslash and a letter stand for. -/
def unescape? (letter : Char) : Option Char :=
  match letter with
  | '"' => some '"'
  | '\\' => some '\\'
  | '/' => some '/'
  | 'b' => some '\x08'
  | 'f' => some '\x0c'
  | 'n' => some '\n'
  | 'r' => some '\r'
  | 't' => some '\t'
  | _ => none

/-- The number of four hexadecimal digits. -/
def hexNumber? (a b c d : Char) : Option Nat := do
  let a ← Text.hexDigit? a
  let b ← Text.hexDigit? b
  let c ← Text.hexDigit? c
  let d ← Text.hexDigit? d
  return ((a * 16 + b) * 16 + c) * 16 + d

/-- Whether a number is the first half of a character beyond the basic plane. -/
def isHighHalf (n : Nat) : Bool := 0xD800 ≤ n && n < 0xDC00

/-- Whether a number is the second half of a character beyond the basic plane. -/
def isLowHalf (n : Nat) : Bool := 0xDC00 ≤ n && n < 0xE000

/-- The character of two halves. -/
def joinHalves (high low : Nat) : Char :=
  Char.ofNat (0x10000 + (high - 0xD800) * 0x400 + (low - 0xDC00))

/-- The characters of a string up to its closing quote, and the text behind it. -/
def readChars : List Char → Except Fault (List Char × List Char)
  | [] => .error .malformed
  | '"' :: rest => .ok ([], rest)
  | '\\' :: 'u' :: a :: b :: c :: d :: rest =>
    match hexNumber? a b c d with
    | none => .error .malformed
    | some n =>
      if isHighHalf n then
        match rest with
        | '\\' :: 'u' :: a :: b :: c :: d :: rest =>
          match hexNumber? a b c d with
          | some m =>
            if isLowHalf m then do
              let (text, after) ← readChars rest
              return (joinHalves n m :: text, after)
            else .error .malformed
          | none => .error .malformed
        | _ => .error .malformed
      else if isLowHalf n then .error .malformed
      else do
        let (text, after) ← readChars rest
        return (Char.ofNat n :: text, after)
  | '\\' :: letter :: rest =>
    match unescape? letter with
    | some c => do
      let (text, after) ← readChars rest
      return (c :: text, after)
    | none => .error .malformed
  | c :: rest =>
    if c.toNat < 32 || c = '\\' then .error .malformed
    else do
      let (text, after) ← readChars rest
      return (c :: text, after)

/-- The text behind a string whose characters do not matter; halves of characters may stand alone. -/
def skipChars : List Char → Except Fault (List Char)
  | [] => .error .malformed
  | '"' :: rest => .ok rest
  | '\\' :: 'u' :: a :: b :: c :: d :: rest =>
    if (hexNumber? a b c d).isSome then skipChars rest else .error .malformed
  | '\\' :: letter :: rest =>
    if (unescape? letter).isSome then skipChars rest else .error .malformed
  | c :: rest => if c.toNat < 32 || c = '\\' then .error .malformed else skipChars rest

end ColumnSelect.Json
