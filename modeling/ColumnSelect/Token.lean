/-
The words of selection text: names, numbers, strings, truth values and punctuation.
-/
namespace ColumnSelect

/-- One word of selection text. A name remembers whether it was written in quotes, since only the
bare name `c` makes a list. -/
inductive Token where
  | name (text : String) (quoted : Bool)
  | number (value : Int64)
  | str (text : String)
  | bool (value : Bool)
  | minus
  | colon
  | comma
  | equals
  | openParen
  | closeParen
deriving DecidableEq

namespace Token

/-- The token as messages name it. -/
def describe : Token → String
  | .name text _ => s!"name '{text}'"
  | .number value => s!"number {value.toInt}"
  | .str text => s!"string \"{text}\""
  | .bool true => "TRUE"
  | .bool false => "FALSE"
  | .minus => "'-'"
  | .colon => "':'"
  | .comma => "','"
  | .equals => "'='"
  | .openParen => "'('"
  | .closeParen => "')'"

/-- The next token as messages name it, where there may be none. -/
def describeNext : Option Token → String
  | some token => token.describe
  | none => "end of input"

end Token

/-- A token and the offset of its first character in the text. -/
structure Lexeme where
  token : Token
  start : Nat
deriving DecidableEq

end ColumnSelect
