/-
Classes in brackets: characters, ranges, named classes, classes inside classes, and the operations
`&&`, `--` and `~~`, which bind from the left and more loosely than standing side by side.
-/
import ColumnSelect.Pattern.Escape

namespace ColumnSelect.Pattern

open Unicode

/-- A class as it is written, and how deep brackets, operations and rows of items are nested in it. -/
structure Bracket where
  set : CodeSet
  nesting : Nat

namespace Bracket

/-- An operation between two classes. -/
inductive Operation where
  | intersection
  | difference
  | symmetricDifference

/-- The class of an operation. -/
def Operation.apply : Operation → CodeSet → CodeSet → CodeSet
  | .intersection => .inter
  | .difference => .diff
  | .symmetricDifference => .symmDiff

/-- A class that is being read: what stands before the last operation, and the items behind it, the
last first. -/
structure Progress where
  left : Option (Operation × Bracket)
  items : List Bracket

/-- Items in a row. -/
def row : List Bracket → Bracket
  | [] => ⟨[], 0⟩
  | [item] => item
  | items =>
    ⟨items.flatMap Bracket.set, (items.map Bracket.nesting).foldl max 0 + 1⟩

/-- The class read so far. Letter case is disregarded on both sides of an operation. -/
def Progress.close (flags : Flags) (progress : Progress) : Bracket :=
  let right := row progress.items.reverse
  match progress.left with
  | none => right
  | some (operation, left) =>
    ⟨operation.apply (flags.foldClass left.set) (flags.foldClass right.set),
      max left.nesting right.nesting + 1⟩

/-- The class read so far with a further item. -/
def Progress.push (progress : Progress) (item : Bracket) : Progress :=
  { progress with items := item :: progress.items }

/-- A class closed by its bracket. Outside of Unicode it may hold only ASCII. -/
def finish (flags : Flags) (negated : Bool) (progress : Progress) : Except Fault Bracket :=
  let inner := progress.close flags
  let set := (flags.foldClass inner.set).complementIf negated
  if !flags.unicode && set.has '\u0080' then .error .notText
  else .ok ⟨set, inner.nesting + 1⟩

/-- The ASCII class of a name. -/
def asciiClass? : String → Option CodeSet
  | "alnum" => some [(0x30, 0x39), (0x41, 0x5A), (0x61, 0x7A)]
  | "alpha" => some [(0x41, 0x5A), (0x61, 0x7A)]
  | "ascii" => some [(0x00, 0x7F)]
  | "blank" => some [(0x09, 0x09), (0x20, 0x20)]
  | "cntrl" => some [(0x00, 0x1F), (0x7F, 0x7F)]
  | "digit" => some [(0x30, 0x39)]
  | "graph" => some [(0x21, 0x7E)]
  | "lower" => some [(0x61, 0x7A)]
  | "print" => some [(0x20, 0x7E)]
  | "punct" => some [(0x21, 0x2F), (0x3A, 0x40), (0x5B, 0x60), (0x7B, 0x7E)]
  | "space" => some [(0x09, 0x0D), (0x20, 0x20)]
  | "upper" => some [(0x41, 0x5A)]
  | "word" => some [(0x30, 0x39), (0x41, 0x5A), (0x5F, 0x5F), (0x61, 0x7A)]
  | "xdigit" => some [(0x30, 0x39), (0x41, 0x46), (0x61, 0x66)]
  | _ => none

/-- A class such as `[:alpha:]` or `[:^alpha:]`, its opening bracket left out, where there is one. -/
def readAscii? : List Char → Option (CodeSet × List Char)
  | ':' :: cs =>
    let (negated, cs) :=
      match cs with
      | '^' :: rest => (true, rest)
      | _ => (false, cs)
    let name := cs.takeWhile (· != ':')
    match cs.drop name.length, asciiClass? (String.ofList name) with
    | ':' :: ']' :: rest, some set => some (set.complementIf negated, rest)
    | _, _ => none
  | _ => none

/-- An item of a class that is no bracket and no operation. -/
def readItem (flags : Flags) : List Char → Except Fault (Atom × List Char)
  | [] => .error .unclosedClass
  | '\\' :: cs => readEscape flags cs
  | c :: cs => .ok (.char c false, cs)

/-- The class of an item by itself. -/
def itemClass (flags : Flags) : Atom → Except Fault CodeSet
  | .char c _ => if !flags.unicode && 128 ≤ c.toNat then .error .notText else .ok (.single c)
  | .set set => .ok set
  | .anchor _ => .error .badEscape

/-- An item, or a range between two characters. -/
def readRange (flags : Flags) (cs : List Char) : Except Fault (Bracket × List Char) := do
  let (first, rest) ← readItem flags cs
  match flags.gap rest with
  | [] => throw .unclosedClass
  | c :: tail =>
    let follower := flags.peekPast tail
    if c != '-' || follower == some ']' || follower == some '-' then
      return (⟨← itemClass flags first, 0⟩, c :: tail)
    let (last, rest) ← readItem flags (flags.gap tail)
    match first, last with
    | .char a _, .char b _ =>
      if b.toNat < a.toNat then throw .badRange
      if !flags.unicode && 128 ≤ b.toNat then throw .notText
      return (⟨[(a.toNat, b.toNat)], 0⟩, rest)
    | _, _ => throw .badRange

/-- Hyphens at the beginning of a class, which stand for themselves. -/
def leadingHyphens (flags : Flags) : Nat → List Char → List Bracket × List Char
  | 0, cs => ([], cs)
  | fuel + 1, cs =>
    match cs with
    | '-' :: rest =>
      let (items, rest) := leadingHyphens flags fuel (flags.gap rest)
      (⟨.single '-', 0⟩ :: items, rest)
    | _ => ([], cs)

/-- The beginning of a class behind its opening bracket: whether it is negated, and the hyphens and
the closing bracket that stand for themselves there. -/
def readOpening (flags : Flags) (cs : List Char) : Bool × Progress × List Char :=
  let (negated, cs) :=
    match flags.gap cs with
    | '^' :: rest => (true, flags.gap rest)
    | rest => (false, rest)
  let (hyphens, cs) := leadingHyphens flags cs.length cs
  match hyphens, cs with
  | [], ']' :: rest => (negated, ⟨none, [⟨.single ']', 0⟩]⟩, rest)
  | _, _ => (negated, ⟨none, hyphens⟩, cs)

/-- A class up to its closing bracket. Every step takes a character, so `fuel` need not exceed the
length of the text by more than one. -/
def readRest (flags : Flags) (negated : Bool) (fuel : Nat) (progress : Progress) (cs : List Char) :
    Except Fault (Bracket × List Char) :=
  match fuel with
  | 0 => .error .unclosedClass
  | fuel + 1 =>
    match flags.gap cs with
    | [] => .error .unclosedClass
    | ']' :: rest => do return (← finish flags negated progress, rest)
    | '[' :: rest =>
      match readAscii? rest with
      | some (set, rest) => readRest flags negated fuel (progress.push ⟨set, 0⟩) rest
      | none => do
        let (negated', inner, rest) := readOpening flags rest
        let (item, rest) ← readRest flags negated' fuel inner rest
        readRest flags negated fuel (progress.push item) rest
    | '&' :: '&' :: rest =>
      readRest flags negated fuel ⟨some (.intersection, progress.close flags), []⟩ rest
    | '-' :: '-' :: rest =>
      readRest flags negated fuel ⟨some (.difference, progress.close flags), []⟩ rest
    | '~' :: '~' :: rest =>
      readRest flags negated fuel ⟨some (.symmetricDifference, progress.close flags), []⟩ rest
    | cs => do
      let (item, rest) ← readRange flags cs
      readRest flags negated fuel (progress.push item) rest

/-- A class behind its opening bracket. -/
def read (flags : Flags) (cs : List Char) : Except Fault (Bracket × List Char) :=
  let (negated, progress, rest) := readOpening flags cs
  readRest flags negated (rest.length + 1) progress rest

end Bracket

end ColumnSelect.Pattern
