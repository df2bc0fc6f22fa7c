/-
What holds of an expression and of every expression inside it, and the names, numbers and calls that
are asked about there. The nesting of the written form is that of the expression, but for the ends of
ranges: a range or a negation that ends a range stands in parentheses, which nest once more.
-/
import ColumnSelect.Expr.Basic
import ColumnSelect.Token.Lexer

namespace ColumnSelect

mutual

/-- The property holds of the expression and of every expression inside it. -/
def Expr.Every (P : Expr → Prop) : Expr → Prop
  | .column name => P (.column name)
  | .int value => P (.int value)
  | .str text => P (.str text)
  | .bool value => P (.bool value)
  | .range first last => P (.range first last) ∧ first.Every P ∧ last.Every P
  | .negate inner => P (.negate inner) ∧ inner.Every P
  | .call function args => P (.call function args) ∧ Arg.EveryAll P args
  | .list items => P (.list items) ∧ Expr.EveryAll P items

/-- The property holds of some expressions and of every expression inside them. -/
def Expr.EveryAll (P : Expr → Prop) : List Expr → Prop
  | [] => True
  | e :: es => e.Every P ∧ Expr.EveryAll P es

/-- The property holds of every expression of an argument. -/
def Arg.Every (P : Expr → Prop) : Arg → Prop
  | .mk _ value => value.Every P

/-- The property holds of every expression of some arguments. -/
def Arg.EveryAll (P : Expr → Prop) : List Arg → Prop
  | [] => True
  | a :: as => a.Every P ∧ Arg.EveryAll P as

end

section

variable {P Q R : Expr → Prop}

mutual

theorem Expr.Every.imp₂ (h : ∀ e, P e → Q e → R e) :
    ∀ (e : Expr), e.Every P → e.Every Q → e.Every R
  | .column _, hp, hq => h _ hp hq
  | .int _, hp, hq => h _ hp hq
  | .str _, hp, hq => h _ hp hq
  | .bool _, hp, hq => h _ hp hq
  | .range first last, hp, hq =>
    ⟨h _ hp.1 hq.1, Expr.Every.imp₂ h first hp.2.1 hq.2.1, Expr.Every.imp₂ h last hp.2.2 hq.2.2⟩
  | .negate inner, hp, hq => ⟨h _ hp.1 hq.1, Expr.Every.imp₂ h inner hp.2 hq.2⟩
  | .call _ args, hp, hq => ⟨h _ hp.1 hq.1, Arg.EveryAll.imp₂ h args hp.2 hq.2⟩
  | .list items, hp, hq => ⟨h _ hp.1 hq.1, Expr.EveryAll.imp₂ h items hp.2 hq.2⟩

theorem Expr.EveryAll.imp₂ (h : ∀ e, P e → Q e → R e) :
    ∀ (es : List Expr), Expr.EveryAll P es → Expr.EveryAll Q es → Expr.EveryAll R es
  | [], _, _ => trivial
  | e :: es, hp, hq => ⟨Expr.Every.imp₂ h e hp.1 hq.1, Expr.EveryAll.imp₂ h es hp.2 hq.2⟩

theorem Arg.Every.imp₂ (h : ∀ e, P e → Q e → R e) :
    ∀ (a : Arg), a.Every P → a.Every Q → a.Every R
  | .mk _ value, hp, hq => Expr.Every.imp₂ h value hp hq

theorem Arg.EveryAll.imp₂ (h : ∀ e, P e → Q e → R e) :
    ∀ (as : List Arg), Arg.EveryAll P as → Arg.EveryAll Q as → Arg.EveryAll R as
  | [], _, _ => trivial
  | a :: as, hp, hq => ⟨Arg.Every.imp₂ h a hp.1 hq.1, Arg.EveryAll.imp₂ h as hp.2 hq.2⟩

end

theorem Expr.Every.imp (h : ∀ e, P e → Q e) {e : Expr} (he : e.Every P) : e.Every Q :=
  Expr.Every.imp₂ (fun e hp _ => h e hp) e he he

end

namespace Expr

theorem everyAll_iff {P : Expr → Prop} {es : List Expr} : EveryAll P es ↔ ∀ e ∈ es, e.Every P := by
  induction es with
  | nil => simp [EveryAll]
  | cons e es ih => simp [EveryAll, ih]

theorem everyAll_map_value {P : Expr → Prop} {as : List Arg} (h : Arg.EveryAll P as) :
    EveryAll P (as.map Arg.value) := by
  induction as with
  | nil => trivial
  | cons a as ih =>
    obtain ⟨name, value⟩ := a
    exact ⟨h.1, ih h.2⟩

/-! ## What an expression holds itself -/

/-- The names that stand in an expression itself: of a column, or of a call and its arguments. -/
def names : Expr → List String
  | .column name => [name]
  | .call function args => function :: args.filterMap Arg.name
  | _ => []

/-- No name of the expression itself is empty. -/
def Named (e : Expr) : Prop := "" ∉ e.names

theorem named_column {name : String} : (column name).Named ↔ name ≠ "" := by
  rw [Named, names, List.mem_singleton]
  exact not_congr eq_comm

theorem named_call {function : String} {args : List Arg} :
    (call function args).Named ↔ function ≠ "" ∧ ∀ a ∈ args, a.name ≠ some "" := by
  rw [Named, names, List.mem_cons, not_or, List.mem_filterMap, not_exists]
  simp only [not_and]
  rw [eq_comm]

/-- The expression is no negative number. -/
def Unsigned (e : Expr) : Prop := ∀ value, e = .int value → 0 ≤ value.toInt

/-- The expression is no call of a matcher `c`, whose written form is that of a list. -/
def NoListCall (e : Expr) : Prop := ∀ args, e ≠ .call "c" args

/-- The expression is no call of a matcher `c` with a named argument, which a list cannot have. -/
def UnnamedItems (e : Expr) : Prop := ∀ args, e = .call "c" args → ∀ a ∈ args, a.name = none

theorem NoListCall.unnamedItems {e : Expr} (h : e.NoListCall) : e.UnnamedItems :=
  fun args he => absurd he (h args)

/-- The expression can be written: its own names are not empty, and its number without the sign is
none too large to be read. -/
structure Writable (e : Expr) : Prop where
  named : e.Named
  fits : ∀ value, e = .int value → value.toInt.natAbs ≤ Token.maxNumber

/-- What is read from a text has neither empty names nor negative numbers. -/
structure Proper (e : Expr) : Prop where
  named : e.Named
  unsigned : e.Unsigned

theorem proper_of_names_eq_nil {e : Expr} (h : e.names = []) (hi : ∀ value, e ≠ .int value) : e.Proper :=
  ⟨by simp [Named, h], fun value hv => absurd hv (hi value)⟩

theorem Proper.writable {e : Expr} (h : e.Proper) : e.Writable := by
  refine ⟨h.named, ?_⟩
  intro value hv
  have hle := h.unsigned value hv
  have hlt := value.toInt_lt
  unfold Token.maxNumber
  omega

/-- The expression stands as the end of a range in parentheses. -/
def grouped : Expr → Bool
  | .range _ _ | .negate _ => true
  | _ => false

end Expr

/-! ## Nesting of the written form -/

mutual

/-- The nesting of the written form of an expression without negative numbers. -/
def Expr.writtenNesting : Expr → Nat
  | .column _ | .int _ | .str _ | .bool _ => 1
  | .range first last =>
    max (first.writtenNesting + if first.grouped then 1 else 0)
      (last.writtenNesting + if last.grouped then 1 else 0)
  | .negate inner => inner.writtenNesting + 1
  | .call _ args => Arg.writtenNestingAll args + 1
  | .list items => Expr.writtenNestingAll items + 1

/-- The deepest nesting of the written forms of some expressions, 0 where there are none. -/
def Expr.writtenNestingAll : List Expr → Nat
  | [] => 0
  | e :: es => max e.writtenNesting (Expr.writtenNestingAll es)

/-- The nesting of the written form of the expression of an argument. -/
def Arg.writtenNesting : Arg → Nat
  | .mk _ value => value.writtenNesting

/-- The deepest nesting of the written forms of some arguments, 0 where there are none. -/
def Arg.writtenNestingAll : List Arg → Nat
  | [] => 0
  | a :: as => max a.writtenNesting (Arg.writtenNestingAll as)

end

namespace Expr

theorem writtenNestingAll_map_value (as : List Arg) :
    writtenNestingAll (as.map Arg.value) = Arg.writtenNestingAll as := by
  induction as with
  | nil => rfl
  | cons a as ih =>
    obtain ⟨name, value⟩ := a
    rw [List.map_cons, writtenNestingAll, ih]
    rfl

theorem writtenNesting_le_all {es : List Expr} {e : Expr} (h : e ∈ es) :
    e.writtenNesting ≤ writtenNestingAll es := by
  induction es with
  | nil => cases h
  | cons e' es ih =>
    rw [writtenNestingAll]
    rcases List.mem_cons.1 h with rfl | h
    · omega
    · have := ih h
      omega

end Expr

end ColumnSelect
