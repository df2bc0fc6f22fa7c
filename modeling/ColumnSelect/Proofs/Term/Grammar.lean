/-
The grammar of selection text on tokens, by its derivations:

    terms   := empty | term (',' term)*
    term    := [name '='] expr
    expr    := '-' expr | primary [':' primary]
    primary := name | NUMBER | STRING | TRUE | FALSE
             | name '(' [arg (',' arg)*] ')' | '(' expr ')'
    arg     := [name '='] expr

A derivation of each symbol is a tree with one constructor for each of its productions. It has the
tokens that it derives, the expression (argument, term) that it stands for and the number of levels
of `expr` it opens. Main statement: the grammar is unambiguous (`sentence_inj`).
-/
import ColumnSelect.Expr.Basic
import ColumnSelect.Flaw
import Mathlib.Data.List.Basic

namespace ColumnSelect

namespace Grammar

/-- A name as it is written, in quotes or bare. -/
structure Name where
  text : String
  quoted : Bool
deriving DecidableEq

/-- The token of a name. -/
def Name.token (n : Name) : Token := .name n.text n.quoted

/-- The bare name of lists. -/
def Name.list : Name := ⟨"c", false⟩

mutual

/-- A derivation of `expr`. -/
inductive ExprTree where
  | negated (inner : ExprTree)
  | single (primary : PrimaryTree)
  | range (first last : PrimaryTree)

/-- A derivation of `primary`. -/
inductive PrimaryTree where
  | name (n : Name)
  | number (value : Int64)
  | str (text : String)
  | bool (value : Bool)
  | application (function : Name) (args : List ArgTree)
  | group (inner : ExprTree)

/-- A derivation of `arg`. -/
inductive ArgTree where
  | mk (binding : Option Name) (value : ExprTree)

end

/-- A derivation of `term`. -/
structure TermTree where
  binding : Option Name
  expr : ExprTree

/-- The name that an argument is given to, as it is written. -/
def ArgTree.binding : ArgTree → Option Name
  | .mk binding _ => binding

/-! ## What a derivation derives -/

/-- The tokens of a name in front of what it names. -/
def bindingTokens : Option Name → List Token
  | some n => [n.token, .equals]
  | none => []

mutual

/-- The tokens that a derivation of `expr` derives. -/
def ExprTree.tokens : ExprTree → List Token
  | .negated inner => .minus :: inner.tokens
  | .single p => p.tokens
  | .range first last => first.tokens ++ .colon :: last.tokens

/-- The tokens that a derivation of `primary` derives. -/
def PrimaryTree.tokens : PrimaryTree → List Token
  | .name n => [n.token]
  | .number value => [.number value]
  | .str text => [.str text]
  | .bool value => [.bool value]
  | .application function args =>
    function.token :: .openParen :: ([.comma].intercalate (ArgTree.tokensAll args) ++ [.closeParen])
  | .group inner => .openParen :: (inner.tokens ++ [.closeParen])

/-- The tokens that a derivation of `arg` derives. -/
def ArgTree.tokens : ArgTree → List Token
  | .mk binding value => bindingTokens binding ++ value.tokens

/-- The tokens that each of some derivations of `arg` derives. -/
def ArgTree.tokensAll : List ArgTree → List (List Token)
  | [] => []
  | a :: as => a.tokens :: ArgTree.tokensAll as

end

/-- The tokens that a derivation of `term` derives. -/
def TermTree.tokens (t : TermTree) : List Token := bindingTokens t.binding ++ t.expr.tokens

/-- The tokens that derivations of each `term` of `terms` derive. -/
def sentence (ts : List TermTree) : List Token := [.comma].intercalate (ts.map TermTree.tokens)

/-! ## What a derivation stands for -/

mutual

/-- The expression of a derivation of `expr`. -/
def ExprTree.expr : ExprTree → Expr
  | .negated inner => .negate inner.expr
  | .single p => p.expr
  | .range first last => .range first.expr last.expr

/-- The expression of a derivation of `primary`. Parentheses leave no trace, and the bare `c` makes
a list of its arguments. -/
def PrimaryTree.expr : PrimaryTree → Expr
  | .name n => .column n.text
  | .number value => .int value
  | .str text => .str text
  | .bool value => .bool value
  | .application function args =>
    if function = .list then .list ((ArgTree.args args).map Arg.value)
    else .call function.text (ArgTree.args args)
  | .group inner => inner.expr

/-- The argument of a derivation of `arg`. -/
def ArgTree.arg : ArgTree → Arg
  | .mk binding value => .mk (binding.map Name.text) value.expr

/-- The arguments of derivations of `arg`. -/
def ArgTree.args : List ArgTree → List Arg
  | [] => []
  | a :: as => a.arg :: ArgTree.args as

end

theorem ArgTree.args_eq (as : List ArgTree) : ArgTree.args as = as.map ArgTree.arg := by
  induction as with
  | nil => rfl
  | cons a as ih => rw [ArgTree.args, ih, List.map_cons]

/-- The term of a derivation of `term`. -/
def TermTree.term (t : TermTree) : Term := ⟨t.binding.map Name.text, t.expr.expr⟩

/-! ## Levels and lists -/

mutual

/-- The greatest number of nodes `expr` on a path of the derivation, its root among them. -/
def ExprTree.levels : ExprTree → Nat
  | .negated inner => inner.levels + 1
  | .single p => p.levels + 1
  | .range first last => max first.levels last.levels + 1

/-- The greatest number of nodes `expr` on a path of the derivation. -/
def PrimaryTree.levels : PrimaryTree → Nat
  | .name _ | .number _ | .str _ | .bool _ => 0
  | .application _ args => ArgTree.levelsAll args
  | .group inner => inner.levels

/-- The greatest number of nodes `expr` on a path of the derivation. -/
def ArgTree.levels : ArgTree → Nat
  | .mk _ value => value.levels

/-- The greatest number of nodes `expr` on a path of some derivation. -/
def ArgTree.levelsAll : List ArgTree → Nat
  | [] => 0
  | a :: as => max a.levels (ArgTree.levelsAll as)

end

mutual

/-- No call of the bare `c` has a named argument. -/
def ExprTree.Plain : ExprTree → Prop
  | .negated inner => inner.Plain
  | .single p => p.Plain
  | .range first last => first.Plain ∧ last.Plain

/-- No call of the bare `c` has a named argument. -/
def PrimaryTree.Plain : PrimaryTree → Prop
  | .name _ | .number _ | .str _ | .bool _ => True
  | .application function args =>
    (function = .list → ∀ a ∈ args, a.binding = none) ∧ ArgTree.PlainAll args
  | .group inner => inner.Plain

/-- No call of the bare `c` has a named argument. -/
def ArgTree.Plain : ArgTree → Prop
  | .mk _ value => value.Plain

/-- No call of the bare `c` has a named argument. -/
def ArgTree.PlainAll : List ArgTree → Prop
  | [] => True
  | a :: as => a.Plain ∧ ArgTree.PlainAll as

end

/-- Derivations of `terms` derive a sequence of tokens, open at most `maxNesting` levels of `expr`
and name no argument of a bare `c`. -/
structure Derives (ts : List TermTree) (tokens : List Token) : Prop where
  tokens : sentence ts = tokens
  levels : ∀ t ∈ ts, t.expr.levels ≤ maxNesting
  plain : ∀ t ∈ ts, t.expr.Plain

/-! ## First tokens -/

/-- The tokens behind an expression are none, or begin with a comma or a closing parenthesis. -/
def EndsExpr (more : List Token) : Prop := ∀ t ∈ more.head?, t = .comma ∨ t = .closeParen

/-- The tokens behind a primary expression are none, or begin with one of these or a colon. -/
def EndsPrimary (more : List Token) : Prop :=
  ∀ t ∈ more.head?, t = .comma ∨ t = .closeParen ∨ t = .colon

theorem endsExpr_nil : EndsExpr [] := by simp [EndsExpr]

theorem endsExpr_comma (l : List Token) : EndsExpr (.comma :: l) := by simp [EndsExpr]

theorem endsExpr_closeParen (l : List Token) : EndsExpr (.closeParen :: l) := by simp [EndsExpr]

theorem endsPrimary_colon (l : List Token) : EndsPrimary (.colon :: l) := by simp [EndsPrimary]

theorem EndsExpr.primary {more : List Token} (h : EndsExpr more) : EndsPrimary more := by
  intro t ht
  rcases h t ht with h | h
  · exact .inl h
  · exact .inr (.inl h)

theorem EndsExpr.not_colon {l : List Token} : ¬ EndsExpr (.colon :: l) := by simp [EndsExpr]

theorem EndsPrimary.not_openParen {l : List Token} : ¬ EndsPrimary (.openParen :: l) := by
  simp [EndsPrimary]

theorem EndsPrimary.not_equals {l : List Token} : ¬ EndsPrimary (.equals :: l) := by
  simp [EndsPrimary]

/-- A derivation of `primary` begins with none of these. -/
theorem PrimaryTree.head (p : PrimaryTree) :
    ∃ t l, p.tokens = t :: l ∧ t ≠ .minus ∧ t ≠ .closeParen := by
  cases p <;> simp [tokens, Name.token]

theorem ExprTree.head (e : ExprTree) : ∃ t l, e.tokens = t :: l ∧ t ≠ .closeParen := by
  cases e with
  | negated inner => exact ⟨_, _, rfl, by simp⟩
  | single p =>
    obtain ⟨t, l, h, -, hc⟩ := p.head
    exact ⟨t, l, h, hc⟩
  | range first last =>
    obtain ⟨t, l, h, -, hc⟩ := first.head
    exact ⟨t, l ++ .colon :: last.tokens, by rw [tokens, h]; rfl, hc⟩

theorem PrimaryTree.not_minus (p : PrimaryTree) (more l : List Token) :
    p.tokens ++ more ≠ .minus :: l := by
  obtain ⟨t, l', h, hm, -⟩ := p.head
  rw [h]
  simp [hm]

/-- What is behind a name in a derivation of `primary` is no equals sign. -/
theorem PrimaryTree.not_binding (p : PrimaryTree) {more : List Token} (h : EndsPrimary more)
    (n : Name) (l : List Token) : p.tokens ++ more ≠ n.token :: .equals :: l := by
  cases p with
  | name m =>
    intro he
    simp only [tokens, List.cons_append, List.nil_append, List.cons.injEq] at he
    rw [he.2] at h
    exact EndsPrimary.not_equals h
  | _ => simp [tokens, Name.token]

theorem ExprTree.not_binding (e : ExprTree) {more : List Token} (h : EndsExpr more) (n : Name)
    (l : List Token) : e.tokens ++ more ≠ n.token :: .equals :: l := by
  cases e with
  | negated inner => simp [tokens, Name.token]
  | single p => exact p.not_binding h.primary n l
  | range first last =>
    rw [tokens, List.append_assoc]
    exact first.not_binding (endsPrimary_colon _) n l

/-! ## Unambiguity -/

theorem Name.token_inj {n m : Name} (h : n.token = m.token) : n = m := by
  obtain ⟨a, b⟩ := n
  obtain ⟨c, d⟩ := m
  simpa [Name.token] using h

theorem ArgTree.not_closeParen (a : ArgTree) (more l : List Token) :
    a.tokens ++ more ≠ .closeParen :: l := by
  obtain ⟨binding, value⟩ := a
  cases binding with
  | none =>
    obtain ⟨t, l', h, hc⟩ := value.head
    simp [tokens, bindingTokens, h, hc]
  | some n => simp [tokens, bindingTokens, Name.token]

/-- A name in front of an expression is told by the equals sign. -/
theorem binding_inj {b b' : Option Name} {e e' : ExprTree} {more more' : List Token}
    (hm : EndsExpr more) (hm' : EndsExpr more')
    (h : bindingTokens b ++ (e.tokens ++ more) = bindingTokens b' ++ (e'.tokens ++ more')) :
    b = b' ∧ e.tokens ++ more = e'.tokens ++ more' := by
  cases b with
  | none =>
    cases b' with
    | none => exact ⟨rfl, h⟩
    | some n' => exact absurd h (e.not_binding hm n' _)
  | some n =>
    cases b' with
    | none => exact absurd h.symm (e'.not_binding hm' n _)
    | some n' =>
      simp only [bindingTokens, List.cons_append, List.nil_append, List.cons.injEq, true_and] at h
      exact ⟨by rw [Name.token_inj h.1], h.2⟩

/-- The tokens behind the first of some arguments. -/
def tailTokens (as : List ArgTree) (more : List Token) : List Token :=
  match as with
  | [] => .closeParen :: more
  | a :: as => .comma :: ([.comma].intercalate (ArgTree.tokensAll (a :: as)) ++ .closeParen :: more)

theorem endsExpr_tailTokens (as : List ArgTree) (more : List Token) :
    EndsExpr (tailTokens as more) := by
  cases as with
  | nil => exact endsExpr_closeParen _
  | cons a as => exact endsExpr_comma _

theorem argTokens_cons (a : ArgTree) (as : List ArgTree) (more : List Token) :
    [.comma].intercalate (ArgTree.tokensAll (a :: as)) ++ .closeParen :: more =
      a.tokens ++ tailTokens as more := by
  cases as with
  | nil => simp [ArgTree.tokensAll, tailTokens]
  | cons b as => simp [ArgTree.tokensAll, tailTokens]

mutual

theorem ExprTree.tokens_inj : ∀ (e e' : ExprTree) {more more' : List Token}, EndsExpr more →
    EndsExpr more' → e.tokens ++ more = e'.tokens ++ more' → e = e' ∧ more = more'
  | .negated inner, .negated inner', more, more', hm, hm', h => by
    simp only [ExprTree.tokens, List.cons_append, List.cons.injEq, true_and] at h
    obtain ⟨rfl, hr⟩ := ExprTree.tokens_inj inner inner' hm hm' h
    exact ⟨rfl, hr⟩
  | .negated inner, .single p, more, more', hm, hm', h => absurd h.symm (p.not_minus _ _)
  | .single p, .negated inner, more, more', hm, hm', h => absurd h (p.not_minus _ _)
  | .negated inner, .range first last, more, more', hm, hm', h => by
    simp only [ExprTree.tokens, List.append_assoc] at h
    exact absurd h.symm (first.not_minus _ _)
  | .range first last, .negated inner, more, more', hm, hm', h => by
    simp only [ExprTree.tokens, List.append_assoc] at h
    exact absurd h (first.not_minus _ _)
  | .single p, .single p', more, more', hm, hm', h => by
    obtain ⟨rfl, hr⟩ := PrimaryTree.tokens_inj p p' hm.primary hm'.primary h
    exact ⟨rfl, hr⟩
  | .single p, .range first last, more, more', hm, hm', h => by
    simp only [ExprTree.tokens, List.append_assoc, List.cons_append] at h
    obtain ⟨-, hr⟩ := PrimaryTree.tokens_inj p first hm.primary (endsPrimary_colon _) h
    -- the colon of the range would have to follow a whole expression
    rw [hr] at hm
    exact absurd hm EndsExpr.not_colon
  | .range first last, .single p, more, more', hm, hm', h => by
    simp only [ExprTree.tokens, List.append_assoc, List.cons_append] at h
    obtain ⟨-, hr⟩ := PrimaryTree.tokens_inj first p (endsPrimary_colon _) hm'.primary h
    rw [← hr] at hm'
    exact absurd hm' EndsExpr.not_colon
  | .range first last, .range first' last', more, more', hm, hm', h => by
    simp only [ExprTree.tokens, List.append_assoc, List.cons_append] at h
    obtain ⟨rfl, hc⟩ :=
      PrimaryTree.tokens_inj first first' (endsPrimary_colon _) (endsPrimary_colon _) h
    obtain ⟨rfl, hr⟩ :=
      PrimaryTree.tokens_inj last last' hm.primary hm'.primary (List.cons.inj hc).2
    exact ⟨rfl, hr⟩

theorem PrimaryTree.tokens_inj : ∀ (p p' : PrimaryTree) {more more' : List Token},
    EndsPrimary more → EndsPrimary more' → p.tokens ++ more = p'.tokens ++ more' →
      p = p' ∧ more = more'
  | .name n, p', more, more', hm, hm', h => by
    cases p' with
    | name n' =>
      simp only [PrimaryTree.tokens, List.cons_append, List.nil_append, List.cons.injEq] at h
      exact ⟨by rw [Name.token_inj h.1], h.2⟩
    | application function args =>
      simp only [PrimaryTree.tokens, List.cons_append, List.nil_append, List.cons.injEq] at h
      rw [h.2] at hm
      exact absurd hm EndsPrimary.not_openParen
    | _ => simp [PrimaryTree.tokens, Name.token] at h
  | .number value, p', more, more', hm, hm', h => by
    cases p' <;> simp [PrimaryTree.tokens, Name.token] at h ⊢
    exact h
  | .str text, p', more, more', hm, hm', h => by
    cases p' <;> simp [PrimaryTree.tokens, Name.token] at h ⊢
    exact h
  | .bool value, p', more, more', hm, hm', h => by
    cases p' <;> simp [PrimaryTree.tokens, Name.token] at h ⊢
    exact h
  | .application function args, p', more, more', hm, hm', h => by
    cases p' with
    | name n' =>
      simp only [PrimaryTree.tokens, List.cons_append, List.nil_append, List.cons.injEq] at h
      rw [← h.2] at hm'
      exact absurd hm' EndsPrimary.not_openParen
    | application function' args' =>
      simp only [PrimaryTree.tokens, List.cons_append, List.append_assoc, List.nil_append, List.cons.injEq,
        true_and] at h
      obtain ⟨rfl, hr⟩ := ArgTree.tokensAll_inj args args' h.2
      exact ⟨by rw [Name.token_inj h.1], hr⟩
    | _ => simp [PrimaryTree.tokens, Name.token] at h
  | .group inner, p', more, more', hm, hm', h => by
    cases p' with
    | group inner' =>
      simp only [PrimaryTree.tokens, List.cons_append, List.append_assoc, List.nil_append, List.cons.injEq,
        true_and] at h
      obtain ⟨rfl, hr⟩ :=
        ExprTree.tokens_inj inner inner' (endsExpr_closeParen _) (endsExpr_closeParen _) h
      exact ⟨rfl, (List.cons.inj hr).2⟩
    | _ => simp [PrimaryTree.tokens, Name.token] at h

theorem ArgTree.tokens_inj : ∀ (a a' : ArgTree) {more more' : List Token}, EndsExpr more →
    EndsExpr more' → a.tokens ++ more = a'.tokens ++ more' → a = a' ∧ more = more'
  | .mk b value, .mk b' value', more, more', hm, hm', h => by
    simp only [ArgTree.tokens, List.append_assoc] at h
    obtain ⟨rfl, hv⟩ := binding_inj hm hm' h
    obtain ⟨rfl, hr⟩ := ExprTree.tokens_inj value value' hm hm' hv
    exact ⟨rfl, hr⟩

theorem ArgTree.tokensAll_inj : ∀ (as as' : List ArgTree) {more more' : List Token},
    [.comma].intercalate (ArgTree.tokensAll as) ++ .closeParen :: more =
      [.comma].intercalate (ArgTree.tokensAll as') ++ .closeParen :: more' →
    as = as' ∧ more = more'
  | [], [], more, more', h => ⟨rfl, (List.cons.inj h).2⟩
  | [], a' :: as', more, more', h => by
    rw [argTokens_cons] at h
    exact absurd h.symm (a'.not_closeParen _ _)
  | a :: as, [], more, more', h => by
    rw [argTokens_cons] at h
    exact absurd h (a.not_closeParen _ _)
  | a :: as, a' :: as', more, more', h => by
    rw [argTokens_cons, argTokens_cons] at h
    obtain ⟨rfl, ht⟩ := ArgTree.tokens_inj a a' (endsExpr_tailTokens _ _) (endsExpr_tailTokens _ _) h
    -- stated before the tails are split, where the recursion is seen to descend
    have hr := @ArgTree.tokensAll_inj as as' more more'
    cases as with
    | nil =>
      cases as' with
      | nil => exact ⟨rfl, (List.cons.inj ht).2⟩
      | cons b' bs' => simp [tailTokens] at ht
    | cons b bs =>
      cases as' with
      | nil => simp [tailTokens] at ht
      | cons b' bs' =>
        obtain ⟨hs, hm⟩ := hr (List.cons.inj ht).2
        exact ⟨by rw [hs], hm⟩

end

/-- The tokens behind the first of some terms. -/
def tailSentence (ts : List TermTree) : List Token :=
  match ts with
  | [] => []
  | t :: ts => .comma :: sentence (t :: ts)

theorem endsExpr_tailSentence (ts : List TermTree) : EndsExpr (tailSentence ts) := by
  cases ts with
  | nil => exact endsExpr_nil
  | cons t ts => exact endsExpr_comma _

theorem sentence_cons (t : TermTree) (ts : List TermTree) :
    sentence (t :: ts) = t.tokens ++ tailSentence ts := by
  cases ts with
  | nil => simp [sentence, tailSentence]
  | cons u ts => simp [sentence, tailSentence]

theorem TermTree.tokens_ne_nil (t : TermTree) (more : List Token) : t.tokens ++ more ≠ [] := by
  obtain ⟨u, l, h, -⟩ := t.expr.head
  simp [tokens, h]

/-- A term is told from what goes on behind it. -/
theorem TermTree.tokens_inj {t t' : TermTree} {more more' : List Token} (hm : EndsExpr more) (hm' : EndsExpr more')
    (h : t.tokens ++ more = t'.tokens ++ more') : t = t' ∧ more = more' := by
  obtain ⟨b, e⟩ := t
  obtain ⟨b', e'⟩ := t'
  rw [TermTree.tokens, TermTree.tokens, List.append_assoc, List.append_assoc] at h
  obtain ⟨rfl, hv⟩ := binding_inj hm hm' h
  obtain ⟨rfl, hr⟩ := ExprTree.tokens_inj e e' hm hm' hv
  exact ⟨rfl, hr⟩

/-- Terms whose tokens begin with those of a term begin with this term. -/
theorem exists_of_sentence {t : TermTree} {ts : List TermTree} {more : List Token} (hm : EndsExpr more)
    (h : sentence ts = t.tokens ++ more) : ∃ us, ts = t :: us ∧ tailSentence us = more := by
  cases ts with
  | nil => exact absurd h.symm (t.tokens_ne_nil more)
  | cons u us =>
    rw [sentence_cons] at h
    obtain ⟨rfl, hmore⟩ := TermTree.tokens_inj (endsExpr_tailSentence us) hm h
    exact ⟨us, rfl, hmore⟩

/-- Behind a comma there is another term. -/
theorem exists_of_tailSentence {ts : List TermTree} {more : List Token} (h : tailSentence ts = .comma :: more) :
    ∃ u us, ts = u :: us ∧ sentence (u :: us) = more := by
  cases ts with
  | nil => cases h
  | cons u us => exact ⟨u, us, rfl, (List.cons.inj h).2⟩

/-- The grammar is unambiguous: tokens have at most one derivation. -/
theorem sentence_inj {ts ts' : List TermTree} (h : sentence ts = sentence ts') : ts = ts' := by
  induction ts generalizing ts' with
  | nil =>
    cases ts' with
    | nil => rfl
    | cons t' ts' => rw [sentence_cons] at h; exact absurd h.symm (t'.tokens_ne_nil _)
  | cons t ts ih =>
    rw [sentence_cons] at h
    obtain ⟨us, rfl, htail⟩ := exists_of_sentence (endsExpr_tailSentence ts) h.symm
    cases ts with
    | nil =>
      cases us with
      | nil => rfl
      | cons u us => cases htail
    | cons u' us' =>
      obtain ⟨u, us, rfl, hsentence⟩ := exists_of_tailSentence htail
      rw [ih hsentence.symm]

end Grammar

end ColumnSelect
