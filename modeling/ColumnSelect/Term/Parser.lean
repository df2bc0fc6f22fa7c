/-
Selection text read into terms.

    terms   := empty | term (',' term)*
    term    := [name '='] expr
    expr    := '-' expr | primary [':' primary]
    primary := name | NUMBER | STRING | TRUE | FALSE
             | name '(' [arg (',' arg)*] ')' | '(' expr ')'
    arg     := [name '='] expr

A reader of expressions is given how many more levels of `expr` may be opened, and hands the reader
of the next level to those of its parts. A bare `c` before arguments makes a list; a list that is a
whole unnamed term stands for its items, one term each.
-/
import ColumnSelect.Error
import ColumnSelect.Expr.Basic
import ColumnSelect.Token.Lexer

namespace ColumnSelect

namespace Parser

/-- What is read from the front of some lexemes, and the lexemes behind it. -/
abbrev Reading (α : Type) := List Lexeme → Except Misreading (α × List Lexeme)

/-- The place of the next lexeme. -/
def place (lexemes : List Lexeme) : Option Nat := lexemes.head?.map Lexeme.start

/-- The next token. -/
def next (lexemes : List Lexeme) : Option Token := lexemes.head?.map Lexeme.token

/-- A name and the equals sign behind it, where both stand in front. -/
def binding : List Lexeme → Option String × List Lexeme
  | ⟨.name name _, _⟩ :: ⟨.equals, _⟩ :: rest => (some name, rest)
  | lexemes => (none, lexemes)

/-- Arguments up to the closing parenthesis, of which there is at least one. Every argument takes a
token, so `fuel` need not exceed the number of lexemes by more than one. -/
def argList (expr : Reading Expr) (fuel : Nat) : Reading (List Arg) := fun lexemes =>
  match fuel with
  | 0 => .error ⟨place lexemes, .noArgumentEnd (next lexemes)⟩
  | fuel + 1 => do
    let (name, rest) := binding lexemes
    let (value, rest) ← expr rest
    match rest with
    | ⟨.comma, _⟩ :: rest => do
      let (args, rest) ← argList expr fuel rest
      return (.mk name value :: args, rest)
    | ⟨.closeParen, _⟩ :: rest => return ([.mk name value], rest)
    | rest => throw ⟨place rest, .noArgumentEnd (next rest)⟩

/-- Arguments behind an opening parenthesis, up to the closing one. -/
def args (expr : Reading Expr) : Reading (List Arg)
  | ⟨.closeParen, _⟩ :: rest => .ok ([], rest)
  | lexemes => argList expr (lexemes.length + 1) lexemes

/-- The expression that a name with arguments stands for. -/
def application (start : Nat) (function : String) (quoted : Bool) (args : List Arg) :
    Except Misreading Expr :=
  if function = "c" && !quoted then
    if args.any (·.name.isSome) then .error ⟨some start, .namedElement⟩
    else .ok (.list (args.map Arg.value))
  else .ok (.call function args)

/-- A primary expression, given the reader of the expressions inside it. -/
def primary (expr : Reading Expr) : Reading Expr
  | ⟨.name function quoted, start⟩ :: ⟨.openParen, _⟩ :: rest => do
    let (args, rest) ← args expr rest
    let e ← application start function quoted args
    return (e, rest)
  | ⟨.name name _, _⟩ :: rest => .ok (.column name, rest)
  | ⟨.number value, _⟩ :: rest => .ok (.int value, rest)
  | ⟨.str text, _⟩ :: rest => .ok (.str text, rest)
  | ⟨.bool value, _⟩ :: rest => .ok (.bool value, rest)
  | ⟨.openParen, _⟩ :: rest => do
    let (inner, rest) ← expr rest
    match rest with
    | ⟨.closeParen, _⟩ :: rest => return (inner, rest)
    | rest => throw ⟨place rest, .unclosedGroup (next rest)⟩
  | lexemes => .error ⟨place lexemes, .noExpression (next lexemes)⟩

/-- A range or a single primary expression. -/
def rangeOrPrimary (expr : Reading Expr) : Reading Expr := fun lexemes => do
  let (first, rest) ← primary expr lexemes
  match rest with
  | ⟨.colon, _⟩ :: rest => do
    let (last, rest) ← primary expr rest
    return (.range first last, rest)
  | rest => return (first, rest)

/-- An expression that opens at most `levels` levels, its own among them. -/
def expr (levels : Nat) : Reading Expr := fun lexemes =>
  match levels with
  | 0 => .error ⟨place lexemes, .tooDeep⟩
  | levels + 1 =>
    match lexemes with
    | ⟨.minus, _⟩ :: rest => do
      let (inner, rest) ← expr levels rest
      return (.negate inner, rest)
    | lexemes => rangeOrPrimary (expr levels) lexemes

/-- One term. -/
def term : Reading Term := fun lexemes => do
  let (name, rest) := binding lexemes
  let (expr, rest) ← expr maxNesting rest
  return (⟨name, expr⟩, rest)

/-- Terms up to the end, of which there is at least one. -/
def termList (fuel : Nat) (lexemes : List Lexeme) : Except Misreading (List Term) :=
  match fuel with
  | 0 => .error ⟨place lexemes, .noTermEnd (next lexemes)⟩
  | fuel + 1 => do
    let (first, rest) ← term lexemes
    match rest with
    | [] => return [first]
    | ⟨.comma, _⟩ :: rest => do
      let others ← termList fuel rest
      return first :: others
    | rest => throw ⟨place rest, .noTermEnd (next rest)⟩

/-- The terms that lexemes are written for. -/
def terms : List Lexeme → Except Misreading (List Term)
  | [] => .ok []
  | lexemes => termList lexemes.length lexemes

end Parser

namespace Term

/-- The terms that a written term stands for. -/
def spread : Term → List Term
  | ⟨none, .list items⟩ => items.map (⟨none, ·⟩)
  | t => [t]

/-- The terms written in a text. -/
def readAll (text : List Char) : Except Misreading (List Term) := do
  let lexemes ← Lexeme.readAll text
  let terms ← Parser.terms lexemes
  return terms.flatMap spread

end Term

/-- A fault of a text as an error that tells its line and column. -/
def Misreading.error (text : List Char) (fault : Misreading) : Error :=
  .ofCause (.parse (.ofOffset text (fault.place.getD text.length)) fault.flaw)

/-- The terms written in a text. -/
def Term.ofText (text : String) : Except Error (List Term) :=
  (Term.readAll text.toList).mapError (·.error text.toList)

end ColumnSelect
