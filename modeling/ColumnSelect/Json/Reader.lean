/-
Values of a known shape read from JSON texts. A reader takes what it needs from the front of a text;
the first fault from left to right is told. A record is read from an object or from an array of its
fields in order.
-/
import ColumnSelect.Json.Number
import ColumnSelect.Json.Text

namespace ColumnSelect.Json

/-- What is read from the front of a text, and the text behind it. -/
abbrev Reader (α : Type) := List Char → Except Fault (α × List Char)

/-- Whether the character may stand between the parts of a text. -/
def isSpace (c : Char) : Bool := c == ' ' || c == '\n' || c == '\t' || c == '\r'

/-- The text behind the blanks at its front. -/
def skipSpace (cs : List Char) : List Char := cs.dropWhile isSpace

/-- The text behind a word at its front. -/
def skipWord (word : List Char) (cs : List Char) : Except Fault (List Char) :=
  if word.isPrefixOf cs then .ok (cs.drop word.length) else .error .malformed

/-- The fault of a text whose next value is of another type. The value is looked at as far as the
message tells it. -/
def wrongType (expected : String) (cs : List Char) : Fault :=
  let found : Except Fault Found :=
    match cs with
    | 'n' :: rest => do let _ ← skipWord ['u', 'l', 'l'] rest; return .null
    | 't' :: rest => do let _ ← skipWord ['r', 'u', 'e'] rest; return .bool true
    | 'f' :: rest => do let _ ← skipWord ['a', 'l', 's', 'e'] rest; return .bool false
    | '"' :: rest => do let (text, _) ← readChars rest; return .str (String.ofList text)
    | '[' :: _ => .ok .sequence
    | '\x7b' :: _ => .ok .map
    | c :: _ =>
      if c = '-' || c.isDigit then do let (n, _) ← Number.read cs; return n.found
      else .error .malformed
    | [] => .error .malformed
  match found with
  | .ok found => .mismatch (.wrongType found expected)
  | .error fault => fault

/-! ## Single values -/

/-- A string. -/
def readString (expected : String) : Reader String := fun cs =>
  match skipSpace cs with
  | '"' :: rest => do
    let (text, rest) ← readChars rest
    return (String.ofList text, rest)
  | cs => .error (wrongType expected cs)

/-- A truth value. -/
def readBool : Reader Bool := fun cs =>
  match skipSpace cs with
  | 't' :: rest => do return (true, ← skipWord ['r', 'u', 'e'] rest)
  | 'f' :: rest => do return (false, ← skipWord ['a', 'l', 's', 'e'] rest)
  | cs => .error (wrongType "a boolean" cs)

/-- Nothing, written as null. -/
def readUnit : Reader Unit := fun cs =>
  match skipSpace cs with
  | 'n' :: rest => do return ((), ← skipWord ['u', 'l', 'l'] rest)
  | cs => .error (wrongType "unit" cs)

/-- A whole number that is not negative. -/
def readCount : Reader Nat := fun cs =>
  match skipSpace cs with
  | [] => .error .malformed
  | c :: rest =>
    if c = '-' || c.isDigit then do
      match ← Number.read (c :: rest) with
      | (.whole n, rest) =>
        if 0 ≤ n then return (n.toNat, rest)
        else throw (.mismatch (.wrongValue (.integer n) "usize"))
      | (.float x, _) => throw (.mismatch (.wrongType (.float x) "usize"))
    else .error (wrongType "usize" (c :: rest))

/-! ## Sequences -/

/-- Whether another item follows in an array, and the text in front of it or of the closing
bracket. -/
def moreItems (first : Bool) (cs : List Char) : Except Fault (Bool × List Char) :=
  match skipSpace cs with
  | [] => .error .malformed
  | ']' :: rest => .ok (false, ']' :: rest)
  | c :: rest =>
    if first then .ok (true, c :: rest)
    else if c = ',' then
      match skipSpace rest with
      | [] => .error .malformed
      | ']' :: _ => .error .malformed
      | rest => .ok (true, rest)
    else .error .malformed

/-- The items of an array up to its closing bracket. Every item takes a character, so `fuel` need not
exceed the length of the text by more than one. -/
def readItems {α : Type} (item : Reader α) (fuel : Nat) (first : Bool) : Reader (List α) := fun cs =>
  match fuel with
  | 0 => .error .malformed
  | fuel + 1 => do
    match ← moreItems first cs with
    | (false, rest) => return ([], rest.drop 1)
    | (true, rest) => do
      let (value, rest) ← item rest
      let (values, rest) ← readItems item fuel false rest
      return (value :: values, rest)

/-- An array of values of one kind. -/
def readList {α : Type} (item : Reader α) : Reader (List α) := fun cs =>
  match skipSpace cs with
  | '[' :: rest => readItems item (rest.length + 1) true rest
  | cs => .error (wrongType "a sequence" cs)

/-! ## Values that do not matter -/

/-- The text behind the colon of a member. -/
def skipColon (cs : List Char) : Except Fault (List Char) :=
  match skipSpace cs with
  | ':' :: rest => .ok rest
  | _ => .error .malformed

/-- The key of the next member of an object, or `none` in front of the closing brace. -/
def nextKey (first : Bool) (cs : List Char) : Except Fault (Option String × List Char) :=
  let key : List Char → Except Fault (Option String × List Char)
    | '"' :: rest => do
      let (text, rest) ← readChars rest
      return (some (String.ofList text), rest)
    | _ => .error .malformed
  match skipSpace cs with
  | '\x7d' :: rest => .ok (none, '\x7d' :: rest)
  | ',' :: rest => if first then .error .malformed else key (skipSpace rest)
  | cs => if first then key cs else .error .malformed

mutual

/-- The text behind a value of any shape. A bracket may take two steps, one into the value and one to
its first item, so `fuel` need not exceed twice the length of the text by more than two. -/
def skipValue (fuel : Nat) (cs : List Char) : Except Fault (List Char) :=
  match fuel with
  | 0 => .error .malformed
  | fuel + 1 =>
    match skipSpace cs with
    | 'n' :: rest => skipWord ['u', 'l', 'l'] rest
    | 't' :: rest => skipWord ['r', 'u', 'e'] rest
    | 'f' :: rest => skipWord ['a', 'l', 's', 'e'] rest
    | '"' :: rest => skipChars rest
    | '[' :: rest => skipItems fuel true rest
    | '\x7b' :: rest => skipMembers fuel true rest
    | cs => do
      let (_, rest) ← Numeral.read cs
      return rest

/-- The text behind the items of an array and its closing bracket. -/
def skipItems (fuel : Nat) (first : Bool) (cs : List Char) : Except Fault (List Char) :=
  match fuel with
  | 0 => .error .malformed
  | fuel + 1 => do
    match ← moreItems first cs with
    | (false, rest) => return rest.drop 1
    | (true, rest) => do
      let rest ← skipValue fuel rest
      skipItems fuel false rest

/-- The text behind the members of an object and its closing brace. -/
def skipMembers (fuel : Nat) (first : Bool) (cs : List Char) : Except Fault (List Char) :=
  match fuel with
  | 0 => .error .malformed
  | fuel + 1 =>
    match skipSpace cs with
    | '\x7d' :: rest => .ok rest
    | c :: rest => do
      let rest ←
        if first then pure (c :: rest)
        else if c = ',' then pure (skipSpace rest)
        else throw .malformed
      match rest with
      | '"' :: rest => do
        let rest ← skipColon (← skipChars rest)
        let rest ← skipValue fuel rest
        skipMembers fuel false rest
      | _ => throw .malformed
    | [] => .error .malformed

end

/-! ## Records -/

/-- How a record is read: its name and the names of its fields in order, whether other members are
refused, and for each field how its value changes what was read so far. Of a record that misses
fields, `complete` makes a value or tells the first field that cannot be missing. -/
structure Record (σ α : Type) where
  name : String
  fields : List (String × (σ → Reader σ))
  strict : Bool
  start : σ
  complete : σ → Except String α

namespace Record

variable {σ α : Type} (r : Record σ α)

/-- The names of the fields. -/
def fieldNames : List String := r.fields.map Prod.fst

/-- Members of an object up to its closing brace; `seen` are the fields read so far. -/
def readMembers (fuel : Nat) (first : Bool) (seen : List String) (draft : σ) : Reader σ := fun cs =>
  match fuel with
  | 0 => .error .malformed
  | fuel + 1 => do
    match ← nextKey first cs with
    | (none, rest) => return (draft, rest.drop 1)
    | (some key, rest) =>
      match r.fields.find? fun f => f.1 == key with
      | some field =>
        if seen.contains key then throw (.mismatch (.duplicateField key))
        let rest ← skipColon rest
        let (draft, rest) ← field.2 draft rest
        readMembers fuel false (key :: seen) draft rest
      | none =>
        if r.strict then throw (.mismatch (.unknownField key r.fieldNames))
        let rest ← skipColon rest
        let rest ← skipValue (2 * rest.length + 2) rest
        readMembers fuel false seen draft rest

/-- Fields in order from the items of an array, up to the last field or to the closing bracket. -/
def readOrdered (first : Bool) (draft : σ) : List (String × (σ → Reader σ)) → Reader σ
  | [], cs => .ok (draft, cs)
  | field :: fields, cs => do
    match ← moreItems first cs with
    | (false, rest) => return (draft, rest)
    | (true, rest) => do
      let (draft, rest) ← field.2 draft rest
      readOrdered false draft fields rest

/-- The place of a field among the fields. -/
def placeOf (name : String) : Nat := (r.fieldNames.findIdx? (· == name)).getD 0

/-- The value of a record read as an object. -/
def fromMembers (draft : σ) : Except Fault α :=
  match r.complete draft with
  | .ok value => .ok value
  | .error missing => .error (.mismatch (.missingField missing))

/-- The value of a record read as an array. -/
def fromItems (draft : σ) : Except Fault α :=
  match r.complete draft with
  | .ok value => .ok value
  | .error missing =>
    .error (.mismatch (.wrongLength (r.placeOf missing)
      s!"struct {r.name} with {r.fields.length} elements"))

/-- A record. -/
def read : Reader α := fun cs =>
  match skipSpace cs with
  | '\x7b' :: rest => do
    let (draft, rest) ← r.readMembers (rest.length + 1) true [] r.start rest
    return (← r.fromMembers draft, rest)
  | '[' :: rest => do
    let (draft, rest) ← readOrdered true r.start r.fields rest
    let value ← r.fromItems draft
    match skipSpace rest with
    | ']' :: rest => return (value, rest)
    | _ => throw .malformed
  | cs => .error (wrongType s!"struct {r.name}" cs)

end Record

/-! ## Choices -/

/-- One of some choices by their names, as a string or as an object with null under the name. -/
def readChoice {α : Type} (choices : List (String × α)) : Reader α := fun cs => do
  let choose (name : String) : Except Fault α :=
    match choices.find? fun c => c.1 == name with
    | some choice => .ok choice.2
    | none => .error (.mismatch (.unknownVariant name (choices.map Prod.fst)))
  match skipSpace cs with
  | '"' :: rest => do
    let (name, rest) ← readChars rest
    return (← choose (String.ofList name), rest)
  | '\x7b' :: rest => do
    let (name, rest) ← readString "variant identifier" rest
    let choice ← choose name
    let rest ← skipColon rest
    let (_, rest) ← readUnit rest
    match skipSpace rest with
    | '\x7d' :: rest => return (choice, rest)
    | _ => throw .malformed
  | _ => throw .malformed

/-! ## Whole texts -/

/-- The value of a whole text. -/
def readText {α : Type} (value : Reader α) (text : String) : Except Fault α := do
  let (result, rest) ← value text.toList
  if (skipSpace rest).isEmpty then return result else throw .malformed

end ColumnSelect.Json
