/-
Why a selection is refused. An error is a cause, and the number of the term it arose in where one
is known; its code, message and argument follow from the cause. The first term number attached to
an error stays.
-/
import ColumnSelect.Flaw
import ColumnSelect.Matcher.Basic
import ColumnSelect.Text.Position

namespace ColumnSelect

/-- The codes under which errors are reported. -/
inductive ErrorCode where
  | unknownVariable
  | invalidArgument
  | outOfRange
  | parse
deriving DecidableEq, Repr

/-- The written form of a code. -/
def ErrorCode.text : ErrorCode → String
  | .unknownVariable => "SEL_UNKNOWN_VARIABLE"
  | .invalidArgument => "SEL_INVALID_ARGUMENT"
  | .outOfRange => "SEL_OUT_OF_RANGE_INDEX"
  | .parse => "SEL_PARSE_ERROR"

/-- What an expression evaluated to, as messages name it. -/
inductive ValueKind where
  | number
  | numbers
  | string
  | logical
deriving DecidableEq, Repr

/-- The word for a kind of value. -/
def ValueKind.text : ValueKind → String
  | .number => "number"
  | .numbers => "number vector"
  | .string => "string"
  | .logical => "logical"

/-- The largest number of values that a range may hold. -/
def maxRangeLength : Nat := 1000000

/-- The largest width that numbers are padded to. -/
def maxWidth : Nat := 64

/-- How an argument is misused. -/
inductive Misuse where
  /-- A matcher stands where a column is needed. -/
  | notCalled (name : String) (matcher : Matcher)
  /-- A column stands where a matcher is needed. -/
  | notFunction (name : String)
  /-- A term is not made of positions. -/
  | termNotPositions (kind : ValueKind)
  /-- Something other than positions is negated. -/
  | notNegatable (kind : ValueKind)
  /-- An item of a list is not made of positions. -/
  | itemNotPositions (kind : ValueKind)
  /-- An item of a list has a name. -/
  | namedItem
  /-- The start of a range is not one position. -/
  | rangeStart (kind : ValueKind)
  /-- The end of a range is not one position. -/
  | rangeEnd (kind : ValueKind)
  /-- A range holds too many values. -/
  | rangeTooLong
  /-- An expression is nested too deep. -/
  | tooDeep (depth : Nat)
  /-- A matcher has no parameter of that name. -/
  | noParameter (matcher : Matcher) (name : String)
  /-- A parameter is given twice by name. -/
  | givenTwice (matcher : Matcher) (name : String)
  /-- More arguments than parameters. -/
  | tooMany (matcher : Matcher)
  /-- A parameter without a default is not given. -/
  | missing (matcher : Matcher) (param : String)
  /-- A parameter needs a string. -/
  | notString (matcher : Matcher) (param : String) (kind : ValueKind)
  /-- A parameter needs numbers. -/
  | notNumeric (matcher : Matcher) (param : String) (kind : ValueKind)
  /-- A parameter needs a truth value. -/
  | notLogical (matcher : Matcher) (param : String) (kind : ValueKind)
  /-- The width is not one number that is at least 0. -/
  | notWidth (matcher : Matcher) (kind : ValueKind)
  /-- The width is too large. -/
  | widthTooLarge (matcher : Matcher) (width : Int)
  /-- Nothing to look for is given. -/
  | nothingToMatch (matcher : Matcher)
  /-- A pattern is no regular expression, for a reason that the engine tells. -/
  | badPattern (reason : String)
  /-- One name is given to several columns. -/
  | oneNameForMany (columns : Nat) (name : String)
  /-- A rename gives no new name. -/
  | renameUnnamed
  /-- A rename is not of a single column. -/
  | renameNotColumn
  /-- Any other reason, in words. -/
  | note (text : String)
deriving DecidableEq

/-- The wording of a misuse. -/
def Misuse.text : Misuse → String
  | .notCalled name matcher =>
    s!"'{name}' is a matcher and must be called, e.g. {matcher.name}(...)"
  | .notFunction name => s!"'{name}' is a column, not a function"
  | .termNotPositions kind =>
    s!"a selection term must evaluate to column positions, got a {kind.text}"
  | .notNegatable kind => s!"cannot negate a {kind.text}"
  | .itemNotPositions kind => s!"c() elements must select columns, got a {kind.text}"
  | .namedItem => "c() elements cannot be named; name the term instead"
  | .rangeStart kind => s!"range start must be a single position, got a {kind.text}"
  | .rangeEnd kind => s!"range end must be a single position, got a {kind.text}"
  | .rangeTooLong => s!"range spans more than {maxRangeLength} values"
  | .tooDeep depth => s!"expression nested {depth} levels deep; at most {maxNesting} allowed"
  | .noParameter matcher name => s!"{matcher.name}() has no parameter '{name}'"
  | .givenTwice matcher name => s!"{matcher.name}(): '{name}' supplied more than once"
  | .tooMany matcher => s!"{matcher.name}() takes at most {matcher.params.length} argument(s)"
  | .missing matcher param => s!"{matcher.name}(): argument '{param}' is missing"
  | .notString matcher param kind =>
    s!"{matcher.name}(): '{param}' must be a single string, got a {kind.text}"
  | .notNumeric matcher param kind =>
    s!"{matcher.name}(): '{param}' must be numeric, got a {kind.text}"
  | .notLogical matcher param kind =>
    s!"{matcher.name}(): '{param}' must be TRUE or FALSE, got a {kind.text}"
  | .notWidth matcher kind =>
    s!"{matcher.name}(): 'width' must be a single non-negative number, got a {kind.text}"
  | .widthTooLarge matcher width =>
    s!"{matcher.name}(): 'width' must be at most {maxWidth}, got {width}"
  | .nothingToMatch matcher => s!"{matcher.name}(): match string must not be empty"
  | .badPattern reason => s!"matches(): invalid regular expression: {reason}"
  | .oneNameForMany columns name =>
    s!"term renames {columns} columns to the single name '{name}'"
  | .renameUnnamed => "every rename must be named, as in new = old"
  | .renameNotColumn => "rename sources must be bare column names"
  | .note text => text

/-- What went wrong. -/
inductive Cause where
  | unknownVariable (name : String)
  | unknownFunction (name : String)
  | invalidArgument (argument : String) (misuse : Misuse)
  | outOfRange (index : Int) (columns : Nat)
  | parse (position : Text.Position) (flaw : Flaw)
deriving DecidableEq

namespace Cause

/-- The code a cause is reported under. -/
def code : Cause → ErrorCode
  | unknownVariable _ | unknownFunction _ => .unknownVariable
  | invalidArgument _ _ => .invalidArgument
  | outOfRange _ _ => .outOfRange
  | parse _ _ => .parse

/-- The wording of a cause. -/
def message : Cause → String
  | unknownVariable name => s!"Unknown variable '{name}'"
  | unknownFunction name => s!"Unknown function '{name}'"
  | invalidArgument _ misuse => misuse.text
  | outOfRange index columns =>
    s!"Index {index} is out of range for {columns} column(s); positions are 1..={columns}"
  | parse position flaw => s!"line {position.line}, col {position.column}: {flaw.text}"

/-- The argument or name at fault. -/
def argument : Cause → Option String
  | unknownVariable name | unknownFunction name => some name
  | invalidArgument argument _ => some argument
  | outOfRange index _ => some (toString index)
  | parse _ _ => none

end Cause

/-- A cause, and the number from 1 of the term in which it arose. -/
structure Error where
  cause : Cause
  term : Option Nat
deriving DecidableEq

namespace Error

/-- The error of a cause whose term is not known. -/
def ofCause (cause : Cause) : Error := ⟨cause, none⟩

/-- An argument is misused. -/
def misuse (argument : String) (misuse : Misuse) : Error := ofCause (.invalidArgument argument misuse)

/-- The error with a term number, unless it has one. -/
def withTerm (e : Error) (term : Nat) : Error := { e with term := e.term.or (some term) }

/-- The code of an error. -/
def code (e : Error) : ErrorCode := e.cause.code

/-- The wording of an error. -/
def message (e : Error) : String := e.cause.message

/-- The argument or name at fault. -/
def argument (e : Error) : Option String := e.cause.argument

/-- The term and the argument in parentheses, as far as they are known. -/
def suffix (e : Error) : String :=
  match e.term, e.argument with
  | some term, some argument => s!" (term {term}, argument '{argument}')"
  | some term, none => s!" (term {term})"
  | none, some argument => s!" (argument '{argument}')"
  | none, none => ""

/-- The whole text of an error. -/
def text (e : Error) : String := s!"{e.code.text}: {e.message}{e.suffix}"

end Error

end ColumnSelect
