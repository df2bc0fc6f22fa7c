/-
Escapes in patterns: characters, classes and anchors that are written with a backslash.
-/
import ColumnSelect.Pattern.Basic
import ColumnSelect.Pattern.Flags
import ColumnSelect.Text.Hexadecimal
import ColumnSelect.Unicode.Folding
import ColumnSelect.Unicode.Property

namespace ColumnSelect.Pattern

open Unicode

/-- What a pattern writes without parentheses or brackets. A character is `raw` when it is written
by two hexadecimal digits, which outside of Unicode stand for a byte. -/
inductive Atom where
  | char (c : Char) (raw : Bool)
  | set (codes : CodeSet)
  | anchor (a : Anchor)

/-! ## Classes with names -/

/-- The decimal digits of ASCII. -/
def asciiDigit : CodeSet := [(0x30, 0x39)]

/-- The blanks of ASCII. -/
def asciiSpace : CodeSet := [(0x09, 0x0D), (0x20, 0x20)]

/-- The word characters of ASCII. -/
def asciiWord : CodeSet := [(0x30, 0x39), (0x41, 0x5A), (0x5F, 0x5F), (0x61, 0x7A)]

/-- The class of word characters under the flags. -/
def Flags.wordClass (flags : Flags) : CodeSet :=
  if flags.unicode then wordCodes else asciiWord

/-- The class of a letter: digits, blanks or word characters, or for a capital letter all others. -/
def letterClass (flags : Flags) (letter : Char) : Except Fault CodeSet :=
  let set :=
    match letter.toLower with
    | 'd' => if flags.unicode then digitCodes else asciiDigit
    | 's' => if flags.unicode then blank else asciiSpace
    | _ => flags.wordClass
  if letter.isUpper then
    if flags.unicode then .ok set.complement else .error .notText
  else .ok set

/-- The class with the characters added that are alike but for case, where the flags ask for it. -/
def Flags.foldClass (flags : Flags) (set : CodeSet) : CodeSet :=
  if flags.caseless then if flags.unicode then set.caseless else set.asciiCaseless else set

/-! ## Hexadecimal numbers -/

/-- The character of a code point. -/
def charOf? (n : Nat) : Option Char := if n.isValidChar then some (Char.ofNat n) else none

/-- A number of exactly `count` digits. -/
def readHex (flags : Flags) (value : Nat) : Nat → List Char → Except Fault (Nat × List Char)
  | 0, cs => .ok (value, cs)
  | count + 1, cs =>
    match flags.gap cs with
    | [] => .error .badHexadecimal
    | c :: rest =>
      match Text.hexDigit? c with
      | some digit => readHex flags (16 * value + digit) count rest
      | none => .error .badHexadecimal

/-- The characters up to a closing brace, and what follows it. -/
def readBraced (flags : Flags) : Nat → List Char → Except Fault (List Char × List Char)
  | 0, _ => .error .badEscape
  | fuel + 1, cs =>
    match flags.gap cs with
    | [] => .error .badEscape
    | '\x7d' :: rest => .ok ([], rest)
    | c :: rest => do
      let (inside, rest) ← readBraced flags fuel rest
      return (c :: inside, rest)

/-- A character by its code point: `count` digits, or any number of digits in braces. -/
def readCode (flags : Flags) (count : Nat) (cs : List Char) : Except Fault (Char × List Char) := do
  let (value, rest) ←
    match flags.gap cs with
    | '\x7b' :: rest => do
      let (digits, rest) ← readBraced flags (rest.length + 1) rest
      if digits.isEmpty then throw .badHexadecimal
      match digits.mapM Text.hexDigit? with
      | some values => pure (values.foldl (fun n d => 16 * n + d) 0, rest)
      | none => throw .badHexadecimal
    | cs => readHex flags 0 count cs
  match charOf? value with
  | some c => return (c, rest)
  | none => throw .badHexadecimal

/-! ## Properties -/

/-- A text cut in two at the first place where a mark stands, the mark left out. -/
def cutAt (mark : List Char) : List Char → Option (List Char × List Char)
  | [] => none
  | c :: cs =>
    if mark.isPrefixOf (c :: cs) then some ([], (c :: cs).drop mark.length)
    else (cutAt mark cs).map fun p => (c :: p.1, p.2)

/-- The name and the value of a property, with `!=`, a colon or an equals sign between them. -/
def cutProperty (name : List Char) : Option (List Char × List Char) :=
  (cutAt ['!', '='] name).or ((cutAt [':'] name).or (cutAt ['='] name))

/-- The class of a property, under a name or under a name and a value. The sign between these does
not matter; only `negated` takes the characters without the property. -/
def propertyClass (flags : Flags) (negated : Bool) (name : List Char) : Except Fault CodeSet :=
  let found :=
    match cutProperty name with
    | some (property, value) => Property.valued? property value
    | none => Property.named? name
  match found with
  | none => .error .badProperty
  | some set =>
    if flags.unicode then .ok ((flags.foldClass set).complementIf negated) else .error .notText

/-- A property behind `\p` or `\P`: one letter, or a name in braces. -/
def readProperty (flags : Flags) (negated : Bool) (cs : List Char) :
    Except Fault (CodeSet × List Char) := do
  match flags.gap cs with
  | [] => throw .badProperty
  | '\\' :: _ => throw .badProperty
  | '\x7b' :: rest => do
    let (name, rest) ← readBraced flags (rest.length + 1) rest
    return (← propertyClass flags negated name, rest)
  | c :: rest => return (← propertyClass flags negated [c], rest)

/-! ## Word boundaries -/

/-- Whether the name of a kind of word boundary may hold the character. -/
def isBoundaryLetter (c : Char) : Bool := c.isAlpha || c = '-'

/-- The name of a kind of word boundary, and what follows it. -/
def readBoundaryName (flags : Flags) : Nat → List Char → List Char × List Char
  | 0, cs => ([], cs)
  | fuel + 1, cs =>
    match cs with
    | [] => ([], [])
    | c :: rest =>
      if isBoundaryLetter c then
        let (name, rest) := readBoundaryName flags fuel (flags.gap rest)
        (c :: name, rest)
      else ([], c :: rest)

/-- The anchor behind `\b`: a plain word boundary, or the kind named in braces. Braces that do not
begin with a letter or a hyphen are left as a repetition count. -/
def readBoundary (flags : Flags) (cs : List Char) : Except Fault (Anchor × List Char) :=
  let word := flags.wordClass
  match cs with
  | '\x7b' :: rest =>
    match flags.gap rest with
    | [] => .error .badBoundary
    | c :: tail =>
      if isBoundaryLetter c then
        let (name, rest) := readBoundaryName flags (tail.length + 1) (c :: tail)
        match rest with
        | '\x7d' :: rest =>
          match String.ofList name with
          | "start" => .ok (.wordStart word, rest)
          | "end" => .ok (.wordEnd word, rest)
          | "start-half" => .ok (.halfStart word, rest)
          | "end-half" => .ok (.halfEnd word, rest)
          | _ => .error .badBoundary
        | _ => .error .badBoundary
      else .ok (.boundary word, cs)
  | _ => .ok (.boundary word, cs)

/-! ## All escapes -/

/-- The character that a letter stands for. -/
def controlLetter? : Char → Option Char
  | 'a' => some '\x07'
  | 'f' => some '\x0c'
  | 't' => some '\t'
  | 'n' => some '\n'
  | 'r' => some '\r'
  | 'v' => some '\x0b'
  | _ => none

/-- Whether a backslash before the character stands for the character itself. -/
def isEscapable (c : Char) : Bool :=
  c.toNat < 128 && !c.isAlphanum && c != '<' && c != '>'

/-- What is written behind a backslash. -/
def readEscape (flags : Flags) : List Char → Except Fault (Atom × List Char)
  | [] => .error .badEscape
  | c :: cs =>
    if c.isDigit then .error .backreference
    else if c = 'x' then do
      let raw := (flags.gap cs).head? != some '\x7b'
      let (code, rest) ← readCode flags 2 cs
      return (.char code raw, rest)
    else if c = 'u' || c = 'U' then do
      let (code, rest) ← readCode flags (if c = 'u' then 4 else 8) cs
      return (.char code false, rest)
    else if c = 'p' || c = 'P' then do
      let (set, rest) ← readProperty flags (c = 'P') cs
      return (.set set, rest)
    else if ['d', 'D', 's', 'S', 'w', 'W'].contains c then do
      return (.set (← letterClass flags c), cs)
    else if isEscapable c then .ok (.char c false, cs)
    else if c = 'b' then do
      let (place, rest) ← readBoundary flags cs
      return (.anchor place, rest)
    else
      match c, controlLetter? c with
      | _, some control => .ok (.char control false, cs)
      | 'A', none => .ok (.anchor .textStart, cs)
      | 'z', none => .ok (.anchor .textEnd, cs)
      | 'B', none => .ok (.anchor (.noBoundary flags.wordClass), cs)
      | '<', none => .ok (.anchor (.wordStart flags.wordClass), cs)
      | '>', none => .ok (.anchor (.wordEnd flags.wordClass), cs)
      | _, none => .error .badEscape

end ColumnSelect.Pattern
