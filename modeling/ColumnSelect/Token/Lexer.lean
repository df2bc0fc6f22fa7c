/-
Selection text as a sequence of tokens. A token is read by its first character: a name or a number
is the longest run of its characters, a quoted text ends at the first quote that is not escaped, and
blanks separate tokens where nothing else does. How a token is read depends on its own characters
and, behind a number, on one character that follows.
-/
import ColumnSelect.Flaw
import ColumnSelect.Text.Identifier
import ColumnSelect.Unicode.Blank

namespace ColumnSelect

/-- A token read at the head of a text: how many characters it took, and the text behind it. -/
structure Scan where
  token : Token
  size : Nat
  rest : List Char

namespace Token

/-- The quote around names that cannot be written bare. -/
def nameQuote : Char := '\x60'

/-- The largest number that can be written. -/
def maxNumber : Nat := 9223372036854775807

/-- The character that a backslash and a letter stand for. -/
def unescape? (letter : Char) : Option Char :=
  if letter = 'n' then some '\n'
  else if letter = 't' then some '\t'
  else if letter = '\\' || letter = '"' || letter = '\'' || letter = nameQuote then some letter
  else none

/-- The characters up to the closing quote, with escapes resolved, the number of characters read up
to and with that quote, and the text behind it. The text given begins `index` characters behind the
start of the token, which is where a missing quote is told. -/
def readQuoted (quote : Char) (index : Nat) :
    List Char → Except Misreading (List Char × Nat × List Char)
  | [] => .error ⟨some 0, .unterminatedQuote⟩
  | '\\' :: cs =>
    match cs with
    | [] => .error ⟨some 0, .unterminatedQuote⟩
    | letter :: rest =>
      match unescape? letter with
      | some c => do
        let (text, size, after) ← readQuoted quote (index + 2) rest
        return (c :: text, size, after)
      | none => .error ⟨some index, .unknownEscape letter⟩
  | c :: cs =>
    if c = quote then .ok ([], index + 1, cs)
    else do
      let (text, size, after) ← readQuoted quote (index + 1) cs
      return (c :: text, size, after)

/-- The value of a run of decimal digits. -/
def digitsValue (digits : List Char) : Nat :=
  digits.foldl (fun n c => 10 * n + (c.toNat - '0'.toNat)) 0

/-- A number at the head of the text. -/
def readNumber (cs : List Char) : Except Misreading Scan :=
  let digits := cs.takeWhile Char.isDigit
  let rest := cs.dropWhile Char.isDigit
  if rest.head?.any Text.isNamePart then .error ⟨some digits.length, .nameWithDigit⟩
  else if maxNumber < digitsValue digits then
    .error ⟨some 0, .numberTooLarge (String.ofList digits)⟩
  else .ok ⟨.number (Int64.ofNat (digitsValue digits)), digits.length, rest⟩

/-- A bare name or a truth value at the head of the text. -/
def readWord (cs : List Char) : Scan :=
  let word := cs.takeWhile Text.isNamePart
  let token :=
    match Text.truthValue? word with
    | some value => .bool value
    | none => .name (String.ofList word) false
  ⟨token, word.length, cs.dropWhile Text.isNamePart⟩

/-- A string at the head of the text, its opening quote left out. -/
def readString (quote : Char) (cs : List Char) : Except Misreading Scan := do
  let (text, size, rest) ← readQuoted quote 1 cs
  return ⟨.str (String.ofList text), size, rest⟩

/-- A quoted name at the head of the text, its opening quote left out. -/
def readQuotedName (cs : List Char) : Except Misreading Scan := do
  let (text, size, rest) ← readQuoted nameQuote 1 cs
  if text.isEmpty then throw ⟨some 0, .emptyName⟩
  return ⟨.name (String.ofList text) true, size, rest⟩

/-- The token that a character is by itself. -/
def punctuation? (c : Char) : Option Token :=
  if c = '-' then some .minus
  else if c = ':' then some .colon
  else if c = ',' then some .comma
  else if c = '=' then some .equals
  else if c = '(' then some .openParen
  else if c = ')' then some .closeParen
  else none

/-- The token at the head of a text that begins with `c`, a character that is no blank. Places are
counted from `c`. -/
def read (c : Char) (cs : List Char) : Except Misreading Scan :=
  match punctuation? c with
  | some token => .ok ⟨token, 1, cs⟩
  | none =>
    if c = '"' || c = '\'' then readString c cs
    else if c = nameQuote then readQuotedName cs
    else if c.isDigit then readNumber (c :: cs)
    else if Text.isNameStart c then .ok (readWord (c :: cs))
    else .error ⟨some 0, .unexpectedCharacter c⟩

end Token

namespace Lexeme

/-- The lexemes of the text behind the first `offset` characters. Each step takes at least one
character, so `fuel` need not exceed the length of the text. -/
def readFrom (fuel offset : Nat) (text : List Char) : Except Misreading (List Lexeme) :=
  match fuel, text with
  | 0, _ => .ok []
  | _, [] => .ok []
  | fuel + 1, c :: cs =>
    if Unicode.isBlank c then readFrom fuel (offset + 1) cs
    else
      match Token.read c cs with
      | .error fault => .error { fault with place := fault.place.map (offset + ·) }
      | .ok scan => do
        let others ← readFrom fuel (offset + scan.size) scan.rest
        return ⟨scan.token, offset⟩ :: others

/-- The lexemes of a text. -/
def readAll (text : List Char) : Except Misreading (List Lexeme) :=
  readFrom text.length 0 text

end Lexeme

end ColumnSelect
