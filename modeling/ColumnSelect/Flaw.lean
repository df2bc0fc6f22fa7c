/-
What can be wrong with selection text, and how each fault is told.
-/
import ColumnSelect.Token

namespace ColumnSelect

/-- The deepest nesting of expressions that is read or evaluated. -/
def maxNesting : Nat := 256

/-- Why a text is not selection text. A fault of the grammar names the token found in place of the
one needed, `none` standing for the end of the text. -/
inductive Flaw where
  | unterminatedQuote
  | unknownEscape (letter : Char)
  | emptyName
  | nameWithDigit
  | numberTooLarge (digits : String)
  | unexpectedCharacter (character : Char)
  | noExpression (found : Option Token)
  | unclosedGroup (found : Option Token)
  | noTermEnd (found : Option Token)
  | noArgumentEnd (found : Option Token)
  | namedElement
  | tooDeep
  | note (text : String)
deriving DecidableEq

/-- The wording of a fault. -/
def Flaw.text : Flaw → String
  | .unterminatedQuote => "unterminated quote"
  | .unknownEscape letter => "unknown escape '\\" ++ letter.toString ++ "'"
  | .emptyName => "empty quoted name"
  | .nameWithDigit => "names cannot start with a digit; quote them with backticks"
  | .numberTooLarge digits => s!"number {digits} is too large"
  | .unexpectedCharacter character => s!"unexpected character '{character}'"
  | .noExpression found => s!"expected an expression, found {Token.describeNext found}"
  | .unclosedGroup found => s!"expected ')', found {Token.describeNext found}"
  | .noTermEnd found => s!"expected ',' or end of input, found {Token.describeNext found}"
  | .noArgumentEnd found => s!"expected ',' or ')', found {Token.describeNext found}"
  | .namedElement => "c() elements cannot be named; name the term instead"
  | .tooDeep => s!"expression nested deeper than {maxNesting} levels"
  | .note text => text

/-- A fault and the offset of the character it was found at, `none` for the end of the text. -/
structure Misreading where
  place : Option Nat
  flaw : Flaw
deriving DecidableEq

end ColumnSelect
