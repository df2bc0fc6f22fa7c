/-
About how much room a pattern takes when it is compiled to a machine that reads bytes. A character
beyond ASCII is several bytes long, so a class of characters becomes a tree of bytes: sequences that
begin alike share the states of their beginning.
-/
import ColumnSelect.Unicode.CodeSet

namespace ColumnSelect.Pattern

open Unicode

/-- The room, in bytes, that a compiled pattern may take. -/
def maxCost : Nat := 10485760

/-- The room that one state of the compiled pattern takes. -/
def stateCost : Nat := 32

/-- The room that a choice between two states takes. -/
def choiceCost : Nat := 40

/-! ## Classes as sequences of bytes -/

/-- Sequences of digits, told by the lowest and the highest digit at each place. -/
abbrev DigitRanges := List (Nat × Nat)

/-- The numbers from `first` to `last` as sequences of digits to the base 64: a first digit, which may be
larger, and `behind` digits behind it. -/
def sequences : (behind first last : Nat) → List DigitRanges
  | 0, first, last => [[(first, last)]]
  | behind + 1, first, last =>
    let block := 64 ^ (behind + 1)
    let under (digit first last : Nat) := (sequences behind first last).map ((digit, digit) :: ·)
    let low := first / block
    let high := last / block
    if low = high then under low (first % block) (last % block)
    else
      -- a block at either end stands by itself where it is not whole
      let cutLow := first % block != 0
      let cutHigh := last % block != block - 1
      let low' := if cutLow then low + 1 else low
      let high' := if cutHigh then high - 1 else high
      (if cutLow then under low (first % block) (block - 1) else []) ++
        (if low' ≤ high' then [(low', high') :: List.replicate (behind + 1) (0, 63)] else []) ++
        if cutHigh then under high 0 (last % block) else []

/-- How many places two sequences share at their beginning. -/
def sharedPlaces : DigitRanges → DigitRanges → Nat
  | r :: rs, s :: ss => if r = s then sharedPlaces rs ss + 1 else 0
  | _, _ => 0

/-- How many beginnings some sequences have that the sequence before them has not. Sequences that begin
alike are next to each other. -/
def beginnings (before : DigitRanges) : List DigitRanges → Nat
  | [] => 0
  | s :: ss => s.length - sharedPlaces before s + beginnings s ss

/-- The number of bytes behind the first, and the code points of the characters that have that many. -/
def byteLengths : List (Nat × Nat × Nat) := [
  (0, 0, 0x7F), (1, 0x80, 0x7FF), (2, 0x800, 0xFFFF), (3, 0x10000, 0x10FFFF)]

/-- The characters of a set as sequences of digits, by their length in bytes. -/
def byteSequences (set : CodeSet) : List (List DigitRanges) :=
  byteLengths.map fun (behind, lo, hi) =>
    set.flatMap fun r =>
      let first := max lo r.1
      let last := min hi r.2
      if first ≤ last then sequences behind first last else []

/-- The room that a class takes. A class of one character is one sequence of states, and one within
ASCII is a single state with a way for each of its intervals. -/
def classCost (set : CodeSet) : Nat :=
  let set := CodeSet.normal (set.inter .full)
  match set with
  | [] => stateCost
  | (lo, hi) :: others =>
    if others.isEmpty && lo = hi then stateCost * (Char.ofNat lo).utf8Size
    else if set.all (·.2 < 128) then 2 * stateCost + 8 * set.length
    else
      (byteSequences set).foldl (fun total alike => total + 4 * alike.length + stateCost * beginnings [] alike)
        (2 * stateCost)

end ColumnSelect.Pattern
