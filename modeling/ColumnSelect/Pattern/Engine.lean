/-
Regular expressions as the matchers use them. Which texts are regular expressions, what they match, and in which
words any other text is refused is left to an engine.
-/
namespace ColumnSelect

/-- An engine for regular expressions. -/
class Pattern.Engine where
  /-- Which texts the pattern is found in, letter case disregarded or not, or why it is no regular expression. -/
  compile (caseless : Bool) (pattern : String) : Except String (String → Bool)

end ColumnSelect
