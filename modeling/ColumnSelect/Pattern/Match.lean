/-
Matching by tables of lengths. For every place of a text, from the first to the one behind the last
character, a pattern has the set of lengths that it can match from there. A set of lengths is kept
as a number whose binary digit `k` says whether the length `k` is in it. The table of a pattern is
made from those of its parts, each made once, so no text and no pattern takes more than polynomial
time.
-/
import ColumnSelect.Pattern.Basic

namespace ColumnSelect.Pattern

/-- A set of lengths for each place of a text. -/
abbrev Table := List Nat

/-- The characters before and behind each place of a text that follows `before`. -/
def sides (before : Option Char) : List Char → List (Option Char × Option Char)
  | [] => [(before, none)]
  | c :: cs => (before, some c) :: sides (some c) cs

namespace Table

/-- The lengths of one of `lengths` followed by one of the lengths at the place it leads to. The
table given begins at the place where `lengths` start. -/
def follow (lengths : Nat) : Table → Nat
  | [] => 0
  | there :: places => (if lengths % 2 = 1 then there else 0) ||| 2 * follow (lengths / 2) places

/-- One part and then the other. -/
def seq : Table → Table → Table
  | a :: as, b :: bs => follow a (b :: bs) :: seq as bs
  | _, _ => []

/-- Either part. -/
def alt (s t : Table) : Table := List.zipWith (· ||| ·) s t

/-- The empty text at each place of a table. -/
def unit (s : Table) : Table := s.map fun _ => 1

/-- Any number of times in a row. A time that takes no character leads nowhere new. -/
def star : Table → Table
  | [] => []
  | a :: as =>
    let rest := star as
    (1 ||| 2 * follow (a / 2) rest) :: rest

/-- Exactly `n` times in a row. -/
def power (s : Table) : Nat → Table
  | 0 => unit s
  | n + 1 => seq s (power s n)

/-- At most `n` times in a row. -/
def upTo (s : Table) : Nat → Table
  | 0 => unit s
  | n + 1 => alt (unit s) (seq s (upTo s n))

end Table

/-- The lengths that a pattern can match from each of some places. The number of times a part is
repeated counts only as far as there are places: with one more time than places, either a time took
no character, and could be repeated or, where it is not needed, left out, or the text is used up. -/
def table (places : List (Option Char × Option Char)) : Pattern → Table
  | .empty => places.map fun _ => 1
  | .one set => places.map fun p => if p.2.any set.has then 2 else 0
  | .anchor a => places.map fun p => if a.holds p.1 p.2 then 1 else 0
  | .seq p q => (p.table places).seq (q.table places)
  | .alt p q => (p.table places).alt (q.table places)
  | .times least most p =>
    let once := p.table places
    let required := once.power (min least places.length)
    match most with
    | none => required.seq once.star
    | some most => required.seq (once.upTo (min (most - least) places.length))

/-- Whether the pattern matches somewhere in the text. -/
def occurs (p : Pattern) (text : List Char) : Bool :=
  (p.table (sides none text)).any (· != 0)

end ColumnSelect.Pattern
