/-
Selection expressions: what columns a term selects, or what a matcher is given.

The nesting of an expression counts negations, calls and lists; the two ends of a range stand at
the level of the range. It is given twice, by recursion on the expression (`nesting`) and by a walk
over a stack of subexpressions (`depth`), which measures an expression of any shape without
recursing into it.
-/
namespace ColumnSelect

mutual

/-- An expression of selection text. -/
inductive Expr where
  /-- A column, by its name. -/
  | column (name : String)
  /-- A position from 1, or a number given to a matcher; a negative one excludes. -/
  | int (value : Int64)
  /-- A string given to a matcher. -/
  | str (text : String)
  /-- A truth value given to a matcher. -/
  | bool (value : Bool)
  /-- Every position between two, both included. -/
  | range (first last : Expr)
  /-- The same positions with the other sign. -/
  | negate (inner : Expr)
  /-- A matcher applied to arguments. -/
  | call (function : String) (args : List Arg)
  /-- The positions of each item in turn. -/
  | list (items : List Expr)

/-- An argument of a call, given by place or by the name of a parameter. -/
inductive Arg where
  | mk (name : Option String) (value : Expr)

end

/-- The parameter an argument is given to by name. -/
def Arg.name : Arg → Option String
  | .mk name _ => name

/-- The expression of an argument. -/
def Arg.value : Arg → Expr
  | .mk _ value => value

@[simp] theorem Arg.name_mk (name : Option String) (value : Expr) : (Arg.mk name value).name = name := rfl

@[simp] theorem Arg.value_mk (name : Option String) (value : Expr) :
    (Arg.mk name value).value = value := rfl

instance : Inhabited Expr := ⟨.list []⟩

/-! ## Equality -/

mutual

/-- Whether two expressions are the same tree. -/
def Expr.same : Expr → Expr → Bool
  | .column a, .column b => a == b
  | .int a, .int b => a == b
  | .str a, .str b => a == b
  | .bool a, .bool b => a == b
  | .range a b, .range c d => a.same c && b.same d
  | .negate a, .negate b => a.same b
  | .call f as, .call g bs => f == g && Arg.sameAll as bs
  | .list as, .list bs => Expr.sameAll as bs
  | _, _ => false

/-- Whether two lists of expressions are the same. -/
def Expr.sameAll : List Expr → List Expr → Bool
  | [], [] => true
  | a :: as, b :: bs => a.same b && Expr.sameAll as bs
  | _, _ => false

/-- Whether two arguments are the same. -/
def Arg.same : Arg → Arg → Bool
  | .mk n a, .mk m b => n == m && a.same b

/-- Whether two lists of arguments are the same. -/
def Arg.sameAll : List Arg → List Arg → Bool
  | [], [] => true
  | a :: as, b :: bs => a.same b && Arg.sameAll as bs
  | _, _ => false

end

instance : BEq Expr := ⟨Expr.same⟩
instance : BEq Arg := ⟨Arg.same⟩

/-! ## Nesting -/

mutual

/-- How deep negations, calls and lists are nested; an expression without any has nesting 1. -/
def Expr.nesting : Expr → Nat
  | .column _ | .int _ | .str _ | .bool _ => 1
  | .range first last => max first.nesting last.nesting
  | .negate inner => inner.nesting + 1
  | .call _ args => Arg.nestingAll args + 1
  | .list items => Expr.nestingAll items + 1

/-- The deepest nesting in a list of expressions, 0 in an empty one. -/
def Expr.nestingAll : List Expr → Nat
  | [] => 0
  | e :: es => max e.nesting (Expr.nestingAll es)

/-- The nesting of the expression of an argument. -/
def Arg.nesting : Arg → Nat
  | .mk _ value => value.nesting

/-- The deepest nesting in a list of arguments, 0 in an empty one. -/
def Arg.nestingAll : List Arg → Nat
  | [] => 0
  | a :: as => max a.nesting (Arg.nestingAll as)

end

mutual

/-- The number of nodes of an expression. -/
def Expr.nodes : Expr → Nat
  | .column _ | .int _ | .str _ | .bool _ => 1
  | .range first last => first.nodes + last.nodes + 1
  | .negate inner => inner.nodes + 1
  | .call _ args => Arg.nodesAll args + 1
  | .list items => Expr.nodesAll items + 1

/-- The number of nodes in a list of expressions. -/
def Expr.nodesAll : List Expr → Nat
  | [] => 0
  | e :: es => e.nodes + Expr.nodesAll es

/-- The number of nodes of the expression of an argument. -/
def Arg.nodes : Arg → Nat
  | .mk _ value => value.nodes

/-- The number of nodes in a list of arguments. -/
def Arg.nodesAll : List Arg → Nat
  | [] => 0
  | a :: as => a.nodes + Arg.nodesAll as

end

namespace Expr

/-- The direct subexpressions of an expression that stands at a level, each with its own level. -/
def children (level : Nat) : Expr → List (Expr × Nat)
  | .column _ | .int _ | .str _ | .bool _ => []
  | .range first last => [(last, level), (first, level)]
  | .negate inner => [(inner, level + 1)]
  | .call _ args => args.map fun a => (a.value, level + 1)
  | .list items => items.map fun e => (e, level + 1)

/-- The number of nodes of the expressions on a stack. -/
def stackNodes : List (Expr × Nat) → Nat
  | [] => 0
  | (e, _) :: rest => e.nodes + stackNodes rest

theorem stackNodes_append (s t : List (Expr × Nat)) :
    stackNodes (s ++ t) = stackNodes s + stackNodes t := by
  induction s with
  | nil => simp [stackNodes]
  | cons p s ih => simp only [List.cons_append, stackNodes, ih]; omega

theorem stackNodes_items (level : Nat) (items : List Expr) :
    stackNodes (items.map fun e => (e, level)) = nodesAll items := by
  induction items with
  | nil => rfl
  | cons e es ih => simp only [List.map_cons, stackNodes, nodesAll, ih]

theorem stackNodes_args (level : Nat) (args : List Arg) :
    stackNodes (args.map fun a => (a.value, level)) = Arg.nodesAll args := by
  induction args with
  | nil => rfl
  | cons a as ih =>
    cases a
    simp only [List.map_cons, stackNodes, Arg.nodesAll, Arg.nodes, Arg.value_mk, ih]

/-- The direct subexpressions have one node less than the expression. -/
theorem stackNodes_children (level : Nat) (e : Expr) :
    stackNodes (e.children level) + 1 = e.nodes := by
  cases e with
  | call _ args => simp only [children, nodes, stackNodes_args]
  | list items => simp only [children, nodes, stackNodes_items]
  | range a b => simp only [children, nodes, stackNodes]; omega
  | negate inner => simp only [children, nodes, stackNodes]
  | _ => simp only [children, nodes, stackNodes]

/-- The deepest level met on a stack of expressions and below them. -/
def deepest (stack : List (Expr × Nat)) (seen : Nat) : Nat :=
  match stack with
  | [] => seen
  | (e, level) :: rest => deepest (e.children level ++ rest) (max seen level)
termination_by stackNodes stack
decreasing_by
  have h := stackNodes_children level e
  rw [stackNodes_append, stackNodes]
  omega

/-- The nesting of an expression, measured with a stack. -/
def depth (e : Expr) : Nat := deepest [(e, 1)] 0

end Expr

/-- One term of a selection: an expression and the name asked for its columns. -/
structure Term where
  name : Option String
  expr : Expr
deriving BEq, Inhabited

end ColumnSelect
