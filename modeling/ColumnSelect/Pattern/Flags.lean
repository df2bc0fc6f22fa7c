/-
The flags that a pattern is read under, how a pattern sets them, and the blanks and comments that may
stand between the parts of a pattern under the flag `x`.
-/
import ColumnSelect.Pattern.Fault
import ColumnSelect.Unicode.Blank

namespace ColumnSelect.Pattern

/-- What holds of a part of a pattern. -/
structure Flags where
  /-- Letter case does not count. -/
  caseless : Bool
  /-- Lines have starts and ends of their own. -/
  multiLine : Bool
  /-- The dot matches line ends too. -/
  dotAll : Bool
  /-- Classes are those of Unicode rather than of ASCII. -/
  unicode : Bool
  /-- Carriage returns end lines too. -/
  crlf : Bool
  /-- Blanks and comments are left out. -/
  extended : Bool

namespace Flags

/-- The flags at the beginning of a pattern. -/
def initial (caseless : Bool) : Flags := ⟨caseless, false, false, true, false, false⟩

/-- The flags with one of them set; `U`, which swaps the preference between longer and shorter
matches, changes nothing about what matches. -/
def set? (flags : Flags) (letter : Char) (value : Bool) : Option Flags :=
  match letter with
  | 'i' => some { flags with caseless := value }
  | 'm' => some { flags with multiLine := value }
  | 's' => some { flags with dotAll := value }
  | 'u' => some { flags with unicode := value }
  | 'R' => some { flags with crlf := value }
  | 'x' => some { flags with extended := value }
  | 'U' => some flags
  | _ => none

/-- Flags as a pattern sets them, up to a colon or a closing parenthesis. The letters `seen` so far
and whether a hyphen was among them decide what may follow. -/
def read (flags : Flags) (seen : List Char) (negated dangling : Bool) :
    List Char → Except Fault (Flags × Bool × Char × List Char)
  | [] => .error .badFlags
  | c :: cs =>
    if c = ':' || c = ')' then
      if dangling then .error .badFlags
      else .ok (flags, seen.isEmpty && !negated, c, cs)
    else if c = '-' then
      if negated then .error .badFlags else read flags seen true true cs
    else if seen.contains c then .error .badFlags
    else
      match flags.set? c (!negated) with
      | some flags => read flags (c :: seen) negated false cs
      | none => .error .badFlags

end Flags

/-- What follows blanks and comments. A comment begins with a number sign and ends with its line. -/
def skipBlanks (inComment : Bool) : List Char → List Char
  | [] => []
  | c :: cs =>
    if inComment then skipBlanks (c != '\n') cs
    else if Unicode.isBlank c then skipBlanks false cs
    else if c = '#' then skipBlanks true cs
    else c :: cs

/-- What follows the blanks and comments that the flags leave out. -/
def Flags.gap (flags : Flags) (cs : List Char) : List Char :=
  if flags.extended then skipBlanks false cs else cs

/-- The next character behind one that was just looked at, past blanks; a comment is entered, but
not left out. -/
def Flags.peekPast (flags : Flags) (cs : List Char) : Option Char :=
  if flags.extended then
    match cs.dropWhile Unicode.isBlank with
    | '#' :: rest => (rest.dropWhile Unicode.isBlank).head?
    | rest => rest.head?
  else cs.head?

end ColumnSelect.Pattern
