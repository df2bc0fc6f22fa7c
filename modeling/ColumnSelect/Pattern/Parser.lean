/-
Regular expressions as they are written. A pattern is refused when it is not well formed, when it is
nested too deep, when it could match in the middle of a character, and when it would take too much
room compiled to a machine that reads bytes.
-/
import ColumnSelect.Pattern.Bracket
import ColumnSelect.Pattern.Cost
import ColumnSelect.Unicode.Letter

namespace ColumnSelect.Pattern

open Unicode

/-- The deepest nesting of a pattern. -/
def maxPatternNesting : Nat := 250

/-- Whether the pattern matches nothing but the empty text. -/
def takesNothing : Pattern → Bool
  | .empty | .anchor _ => true
  | .one _ => false
  | .seq p q | .alt p q => p.takesNothing && q.takesNothing
  | .times _ most p => most == some 0 || p.takesNothing

/-- A part of a pattern as it is written: what it matches, how deep it is nested, about how much room
it takes compiled, and whether it can be repeated, which a setting of flags cannot. -/
structure Piece where
  pattern : Pattern
  nesting : Nat
  cost : Nat
  repeatable : Bool

namespace Piece

/-- A piece without parts. -/
def leaf (pattern : Pattern) (cost : Nat) : Piece := ⟨pattern, 0, cost, true⟩

/-- One character of a set. -/
def ofSet (set : CodeSet) : Piece := leaf (.one set) (classCost set)

/-- A setting of flags. -/
def flagSetting : Piece := ⟨.empty, 0, 0, false⟩

/-- The deepest nesting among some pieces. -/
def deepest (pieces : List Piece) : Nat := (pieces.map Piece.nesting).foldl max 0

/-- The room that some pieces take. -/
def totalCost (pieces : List Piece) : Nat := pieces.foldl (fun total piece => total + piece.cost) 0

/-- Pieces one behind the other. -/
def inRow : List Piece → Piece
  | [] => leaf .empty stateCost
  | [piece] => piece
  | pieces =>
    ⟨pieces.foldr (fun piece rest => .seq piece.pattern rest) .empty, deepest pieces + 1,
      totalCost pieces, true⟩

/-- The set of a piece that is one character of it and takes room for nothing else. -/
def loneSet? (piece : Piece) : Option CodeSet :=
  match piece.pattern with
  | .one set => if piece.cost = classCost set then some set else none
  | _ => none

/-- Any one of several pieces, of which there is at least one. Sets among which nothing else stands are
compiled as one. -/
def anyOf : List Piece → Piece
  | [] => leaf .empty stateCost
  | [piece] => piece
  | first :: others =>
    let pieces := first :: others
    match pieces.mapM loneSet? with
    | some sets => { ofSet sets.flatten with nesting := deepest pieces + 1 }
    | none =>
      ⟨others.foldl (fun p piece => .alt p piece.pattern) first.pattern, deepest pieces + 1,
        totalCost pieces + choiceCost * pieces.length, true⟩

/-- A piece in parentheses, which take room only where what they hold is captured. -/
def group (piece : Piece) (captures : Bool) : Piece :=
  { piece with
    nesting := piece.nesting + 1
    cost := if captures then piece.cost + 2 * stateCost else piece.cost
    repeatable := true }

/-- The room that a repeated piece takes: a copy for each time, and a choice for each that may be
left out. -/
def timesCost (least : Nat) (most : Option Nat) (piece : Piece) : Nat :=
  if piece.pattern.takesNothing then piece.cost
  else
    match most with
    | none => max least 1 * piece.cost + choiceCost
    | some most =>
      stateCost + least * piece.cost + (most - least) * (piece.cost + choiceCost)

/-- A piece some number of times in a row. -/
def times (least : Nat) (most : Option Nat) (piece : Piece) : Piece :=
  ⟨.times least most piece.pattern, piece.nesting + 1, piece.timesCost least most, true⟩

end Piece

/-- The piece of an atom under the flags. -/
def Atom.piece (flags : Flags) : Atom → Except Fault Piece
  | .char c raw =>
    if raw && !flags.unicode && 128 ≤ c.toNat then .error .notText
    else .ok (.ofSet (flags.foldClass (.single c)))
  | .set codes => .ok (.ofSet codes)
  | .anchor a => .ok (.leaf (.anchor a) stateCost)

/-- The piece of a dot: any character, or any that does not end a line. -/
def dotPiece (flags : Flags) : Except Fault Piece :=
  if !flags.unicode then .error .notText
  else
    let lineEnds : CodeSet :=
      if flags.dotAll then []
      else if flags.crlf then [(0x0A, 0x0A), (0x0D, 0x0D)] else [(0x0A, 0x0A)]
    .ok (.ofSet lineEnds.complement)

/-- The anchor of a circumflex. -/
def Flags.startAnchor (flags : Flags) : Anchor :=
  if flags.multiLine then if flags.crlf then .lineStartCrlf else .lineStart else .textStart

/-- The anchor of a dollar sign. -/
def Flags.endAnchor (flags : Flags) : Anchor :=
  if flags.multiLine then if flags.crlf then .lineEndCrlf else .lineEnd else .textEnd

/-! ## Repetition counts -/

/-- The largest count that can be written. -/
def maxCount : Nat := 4294967295

/-- The digits of a count, and what follows them. -/
def readDigits (flags : Flags) : Nat → List Char → List Char × List Char
  | 0, cs => ([], cs)
  | fuel + 1, cs =>
    match cs with
    | [] => ([], [])
    | c :: rest =>
      if c.isDigit then
        let (digits, rest) := readDigits flags fuel (flags.gap rest)
        (c :: digits, rest)
      else ([], c :: rest)

/-- A count between blanks. -/
def readCount (flags : Flags) (cs : List Char) : Except Fault (Nat × List Char) :=
  let (digits, rest) := readDigits flags (cs.length + 1) (cs.dropWhile isBlank)
  let value := digits.foldl (fun n c => 10 * n + (c.toNat - '0'.toNat)) 0
  if digits.isEmpty || maxCount < value then .error .badCount
  else .ok (value, flags.gap (rest.dropWhile isBlank))

/-- The counts of a repetition behind its opening brace: at least and at most. -/
def readCounts (flags : Flags) (cs : List Char) : Except Fault (Nat × Option Nat × List Char) := do
  let (least, rest) ← readCount flags (flags.gap cs)
  let (most, rest) ←
    match rest with
    | ',' :: rest =>
      match flags.gap rest with
      | '\x7d' :: rest => pure (none, '\x7d' :: rest)
      | rest => do
        let (most, rest) ← readCount flags rest
        pure (some most, rest)
    | rest => pure (some least, rest)
  match rest with
  | '\x7d' :: rest =>
    if most.any (· < least) then throw .badCount
    return (least, most, rest)
  | _ => throw .badCount

/-- What follows a question mark that asks for the shortest match. -/
def skipLazy : List Char → List Char
  | '?' :: rest => rest
  | rest => rest

/-! ## Groups -/

/-- What an opening parenthesis begins: a group, perhaps captured, with flags and a name of its own, or
a setting of flags for what follows. -/
inductive Opening where
  | group (flags : Flags) (captures : Bool) (name : Option (List Char))
  | setting (flags : Flags)

/-- Whether the name of a group may begin with the character. -/
def isGroupStart (c : Char) : Bool := c == '_' || isAlphabetic c

/-- Whether the name of a group may go on with the character. -/
def isGroupPart (c : Char) : Bool :=
  c == '_' || c == '.' || c == '[' || c == ']' || isAlphanumeric c

/-- The name of a group up to its closing angle. -/
def readGroupName (cs : List Char) : Except Fault (List Char × List Char) :=
  let name := cs.takeWhile (· != '>')
  match cs.drop name.length, name with
  | _ :: rest, c :: tail =>
    if isGroupStart c && tail.all isGroupPart then .ok (name, rest) else .error .badGroupName
  | _, _ => .error .badGroupName

/-- What stands behind an opening parenthesis. -/
def readOpening (flags : Flags) (cs : List Char) : Except Fault (Opening × List Char) :=
  match flags.gap cs with
  | '?' :: '=' :: _ | '?' :: '!' :: _ | '?' :: '<' :: '=' :: _ | '?' :: '<' :: '!' :: _ =>
    .error .lookAround
  | '?' :: 'P' :: '<' :: rest | '?' :: '<' :: rest => do
    let (name, rest) ← readGroupName rest
    return (.group flags true (some name), rest)
  | '?' :: rest => do
    let (inner, plain, closing, rest) ← flags.read [] false false rest
    if closing = ':' then return (.group inner false none, rest)
    else if plain then throw .nothingToRepeat
    else return (.setting inner, rest)
  | rest => .ok (.group flags true none, rest)

/-! ## Patterns -/

/-- A pattern, or the inside of a group, that is being read: the flags, the names of groups so far,
the pieces of the branch at hand and the branches before it, the last first. -/
structure Progress where
  flags : Flags
  names : List (List Char)
  pieces : List Piece
  branches : List Piece

namespace Progress

/-- The beginning of a pattern or of a group. -/
def start (flags : Flags) (names : List (List Char)) : Progress := ⟨flags, names, [], []⟩

/-- What was read, with a further piece. -/
def push (progress : Progress) (piece : Piece) : Progress :=
  { progress with pieces := piece :: progress.pieces }

/-- What was read, with its branch finished. -/
def branch (progress : Progress) : Progress :=
  { progress with
    pieces := []
    branches := Piece.inRow progress.pieces.reverse :: progress.branches }

/-- The piece that was read. -/
def close (progress : Progress) : Piece := Piece.anyOf progress.branch.branches.reverse

/-- What was read, with its last piece repeated. -/
def repeatLast (progress : Progress) (least : Nat) (most : Option Nat) : Except Fault Progress :=
  match progress.pieces with
  | piece :: pieces =>
    if piece.repeatable then .ok { progress with pieces := piece.times least most :: pieces }
    else .error .nothingToRepeat
  | [] => .error .nothingToRepeat

/-- The names of groups with a further one, which must be new. -/
def addName (names : List (List Char)) : Option (List Char) → Except Fault (List (List Char))
  | some name => if names.contains name then .error .repeatedGroupName else .ok (name :: names)
  | none => .ok names

/-- What is read up to the end of the text or up to a closing parenthesis, and what follows that.
Every step takes a character, so `fuel` need not exceed the length of the text by more than one. -/
def read (fuel : Nat) (progress : Progress) (cs : List Char) :
    Except Fault (Progress × Option (List Char)) :=
  match fuel with
  | 0 => .ok (progress, none)
  | fuel + 1 =>
    let flags := progress.flags
    match flags.gap cs with
    | [] => .ok (progress, none)
    | ')' :: rest => .ok (progress, some rest)
    | '|' :: rest => read fuel progress.branch rest
    | '(' :: rest => do
      match ← readOpening flags rest with
      | (.setting flags, rest) => read fuel { progress.push .flagSetting with flags } rest
      | (.group flags captures name, rest) => do
        let names ← addName progress.names name
        match ← read fuel (start flags names) rest with
        | (_, none) => throw .unclosedGroup
        | (inner, some rest) =>
          read fuel { progress.push (inner.close.group captures) with names := inner.names } rest
    | '[' :: rest => do
      let (bracket, rest) ← Bracket.read flags rest
      read fuel (progress.push ⟨.one bracket.set, bracket.nesting, classCost bracket.set, true⟩) rest
    | '?' :: rest => do read fuel (← progress.repeatLast 0 (some 1)) (skipLazy rest)
    | '*' :: rest => do read fuel (← progress.repeatLast 0 none) (skipLazy rest)
    | '+' :: rest => do read fuel (← progress.repeatLast 1 none) (skipLazy rest)
    | '\x7b' :: rest => do
      let (least, most, rest) ← readCounts flags rest
      read fuel (← progress.repeatLast least most) (skipLazy (flags.gap rest))
    | '\\' :: rest => do
      let (atom, rest) ← readEscape flags rest
      read fuel (progress.push (← atom.piece flags)) rest
    | '.' :: rest => do read fuel (progress.push (← dotPiece flags)) rest
    | '^' :: rest => do
      read fuel (progress.push (← (Atom.anchor flags.startAnchor).piece flags)) rest
    | '$' :: rest => do
      read fuel (progress.push (← (Atom.anchor flags.endAnchor).piece flags)) rest
    | c :: rest => do read fuel (progress.push (← (Atom.char c false).piece flags)) rest

end Progress

/-- The pattern that a text is written for. -/
def parse (caseless : Bool) (text : List Char) : Except Fault Pattern := do
  match ← Progress.read (text.length + 1) (.start (.initial caseless) []) text with
  | (_, some _) => throw .unopenedGroup
  | (progress, none) =>
    let piece := progress.close
    if maxPatternNesting < piece.nesting then throw .tooDeep
    if maxCost < piece.cost then throw .tooLarge
    return piece.pattern

end ColumnSelect.Pattern
