/-
Why a pattern is no regular expression.
-/
namespace ColumnSelect.Pattern

/-- The faults of patterns. -/
inductive Fault where
  | unclosedGroup
  | unopenedGroup
  | badGroupName
  | repeatedGroupName
  | lookAround
  | badFlags
  | nothingToRepeat
  | badCount
  | badEscape
  | backreference
  | badHexadecimal
  | badProperty
  | unclosedClass
  | badRange
  | badBoundary
  | notText
  | tooDeep
  | tooLarge
deriving DecidableEq, Repr

/-- The wording of a fault. -/
def Fault.text : Fault → String
  | unclosedGroup => "unclosed group"
  | unopenedGroup => "unopened group"
  | badGroupName => "invalid capture group name"
  | repeatedGroupName => "duplicate capture group name"
  | lookAround => "look-around is not supported"
  | badFlags => "invalid flags"
  | nothingToRepeat => "repetition operator without an expression"
  | badCount => "invalid repetition count"
  | badEscape => "unrecognized escape sequence"
  | backreference => "backreferences are not supported"
  | badHexadecimal => "invalid hexadecimal escape"
  | badProperty => "Unicode property not found"
  | unclosedClass => "unclosed character class"
  | badRange => "invalid character class range"
  | badBoundary => "invalid word boundary"
  | notText => "pattern can match invalid text"
  | tooDeep => "pattern is nested too deep"
  | tooLarge => "compiled pattern is too large"

end ColumnSelect.Pattern
