/-
The reader of terms against the grammar. Whatever it reads has a derivation within the levels it may
open, and whatever has such a derivation is read to what the derivation stands for; the first is
proven of one reader after the other (`Sound`), the second with any tokens that may follow
(`Complete`). Main statement: a text is read exactly when its tokens have a derivation, which then
is the only one and decides the terms (`Term.ofLexemes_iff_derives`).
-/
import ColumnSelect.Proofs.Outcome
import ColumnSelect.Proofs.Term.Grammar
import ColumnSelect.Proofs.Token.Lexer
import ColumnSelect.Term.Parser

namespace ColumnSelect

open Grammar

namespace Parser

/-! ## Names in front -/

theorem binding_sound {ls rest : List Lexeme} {name : Option String} (h : binding ls = (name, rest)) :
    ∃ b : Option Name, tokensOf ls = bindingTokens b ++ tokensOf rest ∧ b.map Name.text = name := by
  unfold binding at h
  split at h
  · rename_i n q s s' rest'
    cases h
    exact ⟨some ⟨n, q⟩, rfl, rfl⟩
  · cases h
    exact ⟨none, rfl, rfl⟩

theorem binding_complete (b : Option Name) (e : ExprTree) {more : List Token} (hm : EndsExpr more)
    {ls : List Lexeme} (h : tokensOf ls = bindingTokens b ++ (e.tokens ++ more)) :
    ∃ rest, binding ls = (b.map Name.text, rest) ∧ tokensOf rest = e.tokens ++ more := by
  cases b with
  | some n =>
    obtain ⟨s, ls₁, rfl, h₁⟩ := tokensOf_eq_cons h
    obtain ⟨s', ls₂, rfl, h₂⟩ := tokensOf_eq_cons h₁
    exact ⟨ls₂, rfl, h₂⟩
  | none =>
    refine ⟨ls, ?_, h⟩
    unfold binding
    split
    · rename_i n q s s' rest
      exact absurd h.symm (e.not_binding hm ⟨n, q⟩ (tokensOf rest))
    · rfl

/-! ## Calls and lists -/

theorem args_any_name (as : List ArgTree) :
    (ArgTree.args as).any (·.name.isSome) = true ↔ ¬ ∀ a ∈ as, a.binding = none := by
  induction as with
  | nil => simp [ArgTree.args]
  | cons a as ih =>
    obtain ⟨b, value⟩ := a
    rw [ArgTree.args, List.any_cons, Bool.or_eq_true, ih]
    cases b <;> simp [ArgTree.arg, ArgTree.binding]

/-- A name with arguments stands for what its derivation does, unless it is the bare `c` and some
argument is named. -/
theorem application_eq_ok_iff (start : Nat) (f : Name) (as : List ArgTree) (e : Expr) :
    application start f.text f.quoted (ArgTree.args as) = .ok e ↔
      (f = .list → ∀ a ∈ as, a.binding = none) ∧ e = (PrimaryTree.application f as).expr := by
  have hc : (f.text = "c" && !f.quoted) = true ↔ f = .list := by
    obtain ⟨text, quoted⟩ := f
    simp [Name.list]
  unfold application
  rw [PrimaryTree.expr]
  by_cases hf : f = .list
  · rw [if_pos (hc.2 hf), if_pos hf]
    have ha := args_any_name as
    split
    · rename_i h
      simp [hf, ha.1 h]
    · rename_i h
      have : ∀ a ∈ as, a.binding = none := not_not.1 fun hn => h (ha.2 hn)
      simpa [hf, eq_comm] using fun _ => this
  · rw [if_neg fun h => hf (hc.1 h), if_neg hf]
    simp [hf, eq_comm]

/-! ## Soundness -/

/-- What a reader reads has a derivation within some levels. -/
def Sound (read : Reading Expr) (levels : Nat) : Prop :=
  ∀ ls e rest, read ls = .ok (e, rest) →
    ∃ d : ExprTree, tokensOf ls = d.tokens ++ tokensOf rest ∧ d.expr = e ∧ d.levels ≤ levels ∧ d.Plain

theorem argList_sound {read : Reading Expr} {levels : Nat} (hr : Sound read levels) (fuel : Nat)
    {ls rest : List Lexeme} {args : List Arg} (h : argList read fuel ls = .ok (args, rest)) :
    ∃ as : List ArgTree,
      tokensOf ls = [.comma].intercalate (ArgTree.tokensAll as) ++ .closeParen :: tokensOf rest ∧
      ArgTree.args as = args ∧ ArgTree.levelsAll as ≤ levels ∧ ArgTree.PlainAll as ∧ as ≠ [] := by
  induction fuel generalizing ls args with
  | zero => cases h
  | succ fuel ih =>
    unfold argList at h
    rcases hb : binding ls with ⟨name, ls'⟩
    obtain ⟨b, ht, hn⟩ := binding_sound hb
    rw [hb] at h
    obtain ⟨⟨value, rest'⟩, hv, h⟩ := bind_eq_ok_iff.1 h
    obtain ⟨d, hd, rfl, hl, hp⟩ := hr _ _ _ hv
    have ha : tokensOf ls = (ArgTree.mk b d).tokens ++ tokensOf rest' := by
      rw [ht, hd, ArgTree.tokens, List.append_assoc]
    simp only at h
    split at h
    · rename_i s more
      obtain ⟨⟨args', rest''⟩, has, h⟩ := bind_eq_ok_iff.1 h
      cases h
      obtain ⟨as, hs, rfl, hls, hps, hne⟩ := ih has
      refine ⟨.mk b d :: as, ?_, by rw [ArgTree.args, ArgTree.arg, hn], ?_, ⟨hp, hps⟩, by simp⟩
      · rw [argTokens_cons, ha]
        cases as with
        | nil => exact absurd rfl hne
        | cons a as => rw [tailTokens, tokensOf_cons, hs]
      · rw [ArgTree.levelsAll, ArgTree.levels]
        omega
    · rename_i s more
      cases h
      refine ⟨[.mk b d], ?_, by simp [ArgTree.args, ArgTree.arg, hn], ?_, ⟨hp, trivial⟩, by simp⟩
      · rw [argTokens_cons, ha]
        rfl
      · simpa [ArgTree.levelsAll, ArgTree.levels] using hl
    · cases h

theorem args_sound {read : Reading Expr} {levels : Nat} (hr : Sound read levels) {ls rest : List Lexeme}
    {args : List Arg} (h : Parser.args read ls = .ok (args, rest)) :
    ∃ as : List ArgTree,
      tokensOf ls = [.comma].intercalate (ArgTree.tokensAll as) ++ .closeParen :: tokensOf rest ∧
      ArgTree.args as = args ∧ ArgTree.levelsAll as ≤ levels ∧ ArgTree.PlainAll as := by
  unfold Parser.args at h
  split at h
  · rename_i s more
    cases h
    exact ⟨[], rfl, rfl, Nat.zero_le _, trivial⟩
  · obtain ⟨as, ht, he, hl, hp, -⟩ := argList_sound hr _ h
    exact ⟨as, ht, he, hl, hp⟩

theorem primary_sound {read : Reading Expr} {levels : Nat} (hr : Sound read levels) {ls rest : List Lexeme}
    {e : Expr} (h : primary read ls = .ok (e, rest)) :
    ∃ p : PrimaryTree, tokensOf ls = p.tokens ++ tokensOf rest ∧ p.expr = e ∧ p.levels ≤ levels ∧
      p.Plain := by
  unfold primary at h
  split at h
  · rename_i function quoted start s more
    obtain ⟨⟨args, rest'⟩, ha, h⟩ := bind_eq_ok_iff.1 h
    obtain ⟨e', happ, h⟩ := bind_eq_ok_iff.1 h
    cases h
    obtain ⟨as, ht, rfl, hl, hp⟩ := args_sound hr ha
    obtain ⟨hc, rfl⟩ := (application_eq_ok_iff start ⟨function, quoted⟩ as e).1 happ
    refine ⟨.application ⟨function, quoted⟩ as, ?_, rfl, hl, hc, hp⟩
    simp [PrimaryTree.tokens, Name.token, ht]
  · rename_i name quoted s more hnot
    cases h
    exact ⟨.name ⟨name, quoted⟩, rfl, rfl, Nat.zero_le _, trivial⟩
  · cases h
    exact ⟨.number _, rfl, rfl, Nat.zero_le _, trivial⟩
  · cases h
    exact ⟨.str _, rfl, rfl, Nat.zero_le _, trivial⟩
  · cases h
    exact ⟨.bool _, rfl, rfl, Nat.zero_le _, trivial⟩
  · rename_i s more
    obtain ⟨⟨inner, rest'⟩, hi, h⟩ := bind_eq_ok_iff.1 h
    obtain ⟨d, ht, rfl, hl, hp⟩ := hr _ _ _ hi
    simp only at h
    split at h
    · rename_i s' more'
      cases h
      refine ⟨.group d, ?_, rfl, hl, hp⟩
      simp [PrimaryTree.tokens, ht]
    · cases h
  · cases h

theorem rangeOrPrimary_sound {read : Reading Expr} {levels : Nat} (hr : Sound read levels) :
    Sound (rangeOrPrimary read) (levels + 1) := by
  intro ls e rest h
  unfold rangeOrPrimary at h
  obtain ⟨⟨first, rest'⟩, hf, h⟩ := bind_eq_ok_iff.1 h
  obtain ⟨p, ht, rfl, hl, hp⟩ := primary_sound hr hf
  simp only at h
  split at h
  · rename_i s more
    obtain ⟨⟨last, rest''⟩, hq, h⟩ := bind_eq_ok_iff.1 h
    cases h
    obtain ⟨q, ht', rfl, hl', hp'⟩ := primary_sound hr hq
    refine ⟨.range p q, ?_, rfl, ?_, hp, hp'⟩
    · simp [ExprTree.tokens, ht, ht']
    · rw [ExprTree.levels]
      omega
  · cases h
    exact ⟨.single p, ht, rfl, Nat.succ_le_succ hl, hp⟩

/-- What the reader of expressions reads has a derivation within the levels it may open. -/
theorem expr_sound (levels : Nat) : Sound (Parser.expr levels) levels := by
  induction levels with
  | zero =>
    intro ls e rest h
    cases h
  | succ levels ih =>
    intro ls e rest h
    unfold Parser.expr at h
    simp only at h
    split at h
    · rename_i s more
      obtain ⟨⟨inner, rest'⟩, hi, h⟩ := bind_eq_ok_iff.1 h
      cases h
      obtain ⟨d, ht, rfl, hl, hp⟩ := ih _ _ _ hi
      exact ⟨.negated d, by simp [ExprTree.tokens, ht], rfl, Nat.succ_le_succ hl, hp⟩
    · exact rangeOrPrimary_sound ih _ _ _ h

theorem term_sound {ls rest : List Lexeme} {t : Term} (h : Parser.term ls = .ok (t, rest)) :
    ∃ d : TermTree, tokensOf ls = d.tokens ++ tokensOf rest ∧ d.term = t ∧ d.expr.levels ≤ maxNesting ∧
      d.expr.Plain := by
  unfold Parser.term at h
  rcases hb : binding ls with ⟨name, ls'⟩
  obtain ⟨b, ht, rfl⟩ := binding_sound hb
  rw [hb] at h
  obtain ⟨⟨e, rest'⟩, he, h⟩ := bind_eq_ok_iff.1 h
  cases h
  obtain ⟨d, hd, rfl, hl, hp⟩ := expr_sound maxNesting _ _ _ he
  exact ⟨⟨b, d⟩, by rw [ht, hd, TermTree.tokens, List.append_assoc], rfl, hl, hp⟩

theorem termList_sound (fuel : Nat) {ls : List Lexeme} {terms : List Term}
    (h : termList fuel ls = .ok terms) :
    ∃ ts, Derives ts (tokensOf ls) ∧ ts.map TermTree.term = terms ∧ ts ≠ [] := by
  induction fuel generalizing ls terms with
  | zero => cases h
  | succ fuel ih =>
    unfold termList at h
    obtain ⟨⟨first, rest⟩, hf, h⟩ := bind_eq_ok_iff.1 h
    obtain ⟨d, ht, rfl, hl, hp⟩ := term_sound hf
    simp only at h
    split at h
    · cases h
      refine ⟨[d], ⟨?_, by simpa using hl, by simpa using hp⟩, rfl, by simp⟩
      rw [sentence_cons, ht]
      rfl
    · rename_i s more
      obtain ⟨others, ho, h⟩ := bind_eq_ok_iff.1 h
      cases h
      obtain ⟨ts, hd, rfl, hne⟩ := ih ho
      refine ⟨d :: ts, ⟨?_, ?_, ?_⟩, rfl, by simp⟩
      · rw [sentence_cons, ht, tokensOf_cons, ← hd.tokens]
        cases ts with
        | nil => exact absurd rfl hne
        | cons t ts => rfl
      · exact List.forall_mem_cons.2 ⟨hl, hd.levels⟩
      · exact List.forall_mem_cons.2 ⟨hp, hd.plain⟩
    · cases h

theorem terms_sound {ls : List Lexeme} {terms : List Term} (h : Parser.terms ls = .ok terms) :
    ∃ ts, Derives ts (tokensOf ls) ∧ ts.map TermTree.term = terms := by
  unfold Parser.terms at h
  split at h
  · cases h
    exact ⟨[], ⟨rfl, by simp, by simp⟩, rfl⟩
  · obtain ⟨ts, hd, he, -⟩ := termList_sound _ h
    exact ⟨ts, hd, he⟩

/-! ## Completeness -/

/-- A reader reads whatever has a derivation within some levels, up to the tokens behind it. -/
def Complete (read : Reading Expr) (levels : Nat) : Prop :=
  ∀ d : ExprTree, d.levels ≤ levels → d.Plain → ∀ ls more, tokensOf ls = d.tokens ++ more →
    EndsExpr more → ∃ rest, read ls = .ok (d.expr, rest) ∧ tokensOf rest = more

theorem bound_complete {read : Reading Expr} {levels : Nat} (hr : Complete read levels) (b : Option Name)
    (e : ExprTree) (hl : e.levels ≤ levels) (hp : e.Plain) {ls : List Lexeme} {more : List Token}
    (h : tokensOf ls = bindingTokens b ++ (e.tokens ++ more)) (hm : EndsExpr more) :
    ∃ ls' rest, binding ls = (b.map Name.text, ls') ∧ read ls' = .ok (e.expr, rest) ∧
      tokensOf rest = more := by
  obtain ⟨ls', hb, h'⟩ := binding_complete b e hm h
  obtain ⟨rest, hv, hrest⟩ := hr e hl hp _ _ h' hm
  exact ⟨ls', rest, hb, hv, hrest⟩

theorem firstArg_complete {read : Reading Expr} {levels : Nat} (hr : Complete read levels)
    (b : Option Name) (value : ExprTree) (as : List ArgTree)
    (hl : ArgTree.levelsAll (.mk b value :: as) ≤ levels) (hp : ArgTree.PlainAll (.mk b value :: as))
    {ls : List Lexeme} {more : List Token}
    (h : tokensOf ls = [.comma].intercalate (ArgTree.tokensAll (.mk b value :: as)) ++ .closeParen :: more) :
    ∃ ls₁ ls₂, binding ls = (b.map Name.text, ls₁) ∧ read ls₁ = .ok (value.expr, ls₂) ∧
      tokensOf ls₂ = tailTokens as more ∧ ls₂.length ≤ ls.length := by
  rw [argTokens_cons, ArgTree.tokens, List.append_assoc] at h
  rw [ArgTree.levelsAll, ArgTree.levels] at hl
  obtain ⟨ls₁, ls₂, hb, hv, h₂⟩ := bound_complete hr b value (by omega) hp.1 h (endsExpr_tailTokens _ _)
  refine ⟨ls₁, ls₂, hb, hv, h₂, ?_⟩
  have hlen := congrArg List.length h
  rw [← h₂] at hlen
  simp only [List.length_append, length_tokensOf] at hlen
  omega

/-- Arguments are read in as many steps as there are, each of which takes a lexeme. -/
theorem argList_complete {read : Reading Expr} {levels : Nat} (hr : Complete read levels) (a : ArgTree)
    (as : List ArgTree) (hl : ArgTree.levelsAll (a :: as) ≤ levels) (hp : ArgTree.PlainAll (a :: as))
    {fuel : Nat} {ls : List Lexeme} {more : List Token} (hf : ls.length < fuel)
    (h : tokensOf ls = [.comma].intercalate (ArgTree.tokensAll (a :: as)) ++ .closeParen :: more) :
    ∃ rest, argList read fuel ls = .ok (ArgTree.args (a :: as), rest) ∧ tokensOf rest = more := by
  induction as generalizing a fuel ls with
  | nil =>
    obtain ⟨b, value⟩ := a
    obtain ⟨fuel, rfl⟩ := Nat.exists_eq_add_of_lt hf
    obtain ⟨ls₁, ls₂, hb, hv, h₂, -⟩ := firstArg_complete hr b value [] hl hp h
    obtain ⟨s, ls₃, rfl, h₃⟩ := tokensOf_eq_cons h₂
    refine ⟨ls₃, ?_, h₃⟩
    rw [argList, hb]
    exact bind_eq_ok_iff.2 ⟨_, hv, rfl⟩
  | cons a' as ih =>
    obtain ⟨b, value⟩ := a
    obtain ⟨fuel, rfl⟩ := Nat.exists_eq_add_of_lt hf
    obtain ⟨ls₁, ls₂, hb, hv, h₂, hle⟩ := firstArg_complete hr b value (a' :: as) hl hp h
    obtain ⟨s, ls₃, rfl, h₃⟩ := tokensOf_eq_cons h₂
    -- the comma is taken, so the fuel that is left still covers the lexemes
    have hshort : ls₃.length < ls.length + fuel := by
      rw [List.length_cons] at hle
      omega
    have hl' : ArgTree.levelsAll (a' :: as) ≤ levels := Nat.le_trans (Nat.le_max_right _ _) hl
    obtain ⟨ls₄, ha, h₄⟩ := ih a' hl' hp.2 hshort h₃
    refine ⟨ls₄, ?_, h₄⟩
    rw [argList, hb]
    exact bind_eq_ok_iff.2 ⟨_, hv, bind_eq_ok_iff.2 ⟨_, ha, rfl⟩⟩

theorem args_complete {read : Reading Expr} {levels : Nat} (hr : Complete read levels)
    (as : List ArgTree) (hl : ArgTree.levelsAll as ≤ levels) (hp : ArgTree.PlainAll as)
    {ls : List Lexeme} {more : List Token}
    (h : tokensOf ls = [.comma].intercalate (ArgTree.tokensAll as) ++ .closeParen :: more) :
    ∃ rest, Parser.args read ls = .ok (ArgTree.args as, rest) ∧ tokensOf rest = more := by
  cases as with
  | nil =>
    obtain ⟨s, ls', rfl, h'⟩ := tokensOf_eq_cons h
    exact ⟨ls', rfl, h'⟩
  | cons a as =>
    unfold Parser.args
    split
    · rename_i s rest
      rw [argTokens_cons] at h
      exact absurd h.symm (a.not_closeParen _ _)
    · exact argList_complete hr a as hl hp (Nat.lt_succ_self _) h

/-- A name that is read as a column is not followed by arguments. -/
theorem primary_name {read : Reading Expr} {n : String} {q : Bool} {s : Nat} {ls : List Lexeme}
    (h : EndsPrimary (tokensOf ls)) : primary read (⟨.name n q, s⟩ :: ls) = .ok (.column n, ls) := by
  unfold primary
  split
  · rename_i heq
    cases heq
    exact absurd h EndsPrimary.not_openParen
  · rename_i heq
    cases heq
    rfl
  · rename_i heq; cases heq
  · rename_i heq; cases heq
  · rename_i heq; cases heq
  · rename_i heq; cases heq
  · rename_i hn _ _ _ _
    exact absurd rfl (hn n q s ls)

theorem primary_complete {read : Reading Expr} {levels : Nat} (hr : Complete read levels) (p : PrimaryTree)
    (hl : p.levels ≤ levels) (hp : p.Plain) {ls : List Lexeme} {more : List Token}
    (h : tokensOf ls = p.tokens ++ more) (hm : EndsPrimary more) :
    ∃ rest, primary read ls = .ok (p.expr, rest) ∧ tokensOf rest = more := by
  cases p with
  | name n =>
    obtain ⟨s, ls', rfl, h'⟩ := tokensOf_eq_cons h
    -- the reader looks one token further, for a parenthesis that `hm` rules out
    replace h' : tokensOf ls' = more := h'
    rw [← h'] at hm
    exact ⟨ls', primary_name hm, h'⟩
  | number value =>
    obtain ⟨s, ls', rfl, h'⟩ := tokensOf_eq_cons h
    exact ⟨ls', rfl, h'⟩
  | str text =>
    obtain ⟨s, ls', rfl, h'⟩ := tokensOf_eq_cons h
    exact ⟨ls', rfl, h'⟩
  | bool value =>
    obtain ⟨s, ls', rfl, h'⟩ := tokensOf_eq_cons h
    exact ⟨ls', rfl, h'⟩
  | application f as =>
    simp only [PrimaryTree.tokens, List.cons_append, List.append_assoc, List.nil_append] at h
    obtain ⟨s, ls₁, rfl, h₁⟩ := tokensOf_eq_cons h
    obtain ⟨s', ls₂, rfl, h₂⟩ := tokensOf_eq_cons h₁
    obtain ⟨ls₃, ha, h₃⟩ := args_complete hr as hl hp.2 h₂
    have happ := (application_eq_ok_iff s f as _).2 ⟨hp.1, rfl⟩
    exact ⟨ls₃, bind_eq_ok_iff.2 ⟨_, ha, bind_eq_ok_iff.2 ⟨_, happ, rfl⟩⟩, h₃⟩
  | group inner =>
    simp only [PrimaryTree.tokens, List.cons_append, List.append_assoc, List.nil_append] at h
    obtain ⟨s, ls₁, rfl, h₁⟩ := tokensOf_eq_cons h
    obtain ⟨ls₂, hi, h₂⟩ := hr inner hl hp _ _ h₁ (endsExpr_closeParen _)
    obtain ⟨s', ls₃, rfl, h₃⟩ := tokensOf_eq_cons h₂
    exact ⟨ls₃, bind_eq_ok_iff.2 ⟨_, hi, rfl⟩, h₃⟩

theorem rangeOrPrimary_single {read : Reading Expr} {levels : Nat} (hr : Complete read levels)
    (p : PrimaryTree) (hl : p.levels ≤ levels) (hp : p.Plain) {ls : List Lexeme} {more : List Token}
    (h : tokensOf ls = p.tokens ++ more) (hm : EndsExpr more) :
    ∃ rest, rangeOrPrimary read ls = .ok (p.expr, rest) ∧ tokensOf rest = more := by
  obtain ⟨ls', hp', h'⟩ := primary_complete hr p hl hp h hm.primary
  refine ⟨ls', bind_eq_ok_iff.2 ⟨_, hp', ?_⟩, h'⟩
  simp only
  split
  · rw [← h'] at hm
    exact absurd hm EndsExpr.not_colon
  · rfl

theorem rangeOrPrimary_range {read : Reading Expr} {levels : Nat} (hr : Complete read levels)
    (p q : PrimaryTree) (hl : p.levels ≤ levels) (hl' : q.levels ≤ levels) (hp : p.Plain) (hq : q.Plain)
    {ls : List Lexeme} {more : List Token} (h : tokensOf ls = p.tokens ++ .colon :: (q.tokens ++ more))
    (hm : EndsExpr more) :
    ∃ rest, rangeOrPrimary read ls = .ok (.range p.expr q.expr, rest) ∧ tokensOf rest = more := by
  obtain ⟨ls₁, hp', h₁⟩ := primary_complete hr p hl hp h (endsPrimary_colon _)
  obtain ⟨s, ls₂, rfl, h₂⟩ := tokensOf_eq_cons h₁
  obtain ⟨ls₃, hq', h₃⟩ := primary_complete hr q hl' hq h₂ hm.primary
  exact ⟨ls₃, bind_eq_ok_iff.2 ⟨_, hp', bind_eq_ok_iff.2 ⟨_, hq', rfl⟩⟩, h₃⟩

/-- The reader of expressions reads whatever has a derivation within the levels it may open. -/
theorem expr_complete (levels : Nat) : Complete (Parser.expr levels) levels := by
  induction levels with
  | zero =>
    intro d hl
    cases d <;> exact absurd hl (Nat.not_succ_le_zero _)
  | succ levels ih =>
    intro d hl hp ls more h hm
    -- what is no negation does not begin with a minus sign
    have hplain : (∀ l, d.tokens ++ more ≠ .minus :: l) →
        Parser.expr (levels + 1) ls = rangeOrPrimary (Parser.expr levels) ls := by
      intro hn
      unfold Parser.expr
      simp only
      split
      · exact absurd h.symm (hn _)
      · rfl
    cases d with
    | negated inner =>
      obtain ⟨s, ls₁, rfl, h₁⟩ := tokensOf_eq_cons h
      obtain ⟨ls₂, hi, h₂⟩ := ih inner (Nat.le_of_succ_le_succ hl) hp _ _ h₁ hm
      exact ⟨ls₂, bind_eq_ok_iff.2 ⟨_, hi, rfl⟩, h₂⟩
    | single p =>
      rw [hplain (p.not_minus more)]
      exact rangeOrPrimary_single ih p (Nat.le_of_succ_le_succ hl) hp h hm
    | range p q =>
      rw [ExprTree.levels] at hl
      rw [ExprTree.tokens, List.append_assoc, List.cons_append] at h hplain
      rw [hplain (p.not_minus _)]
      exact rangeOrPrimary_range ih p q (by omega) (by omega) hp.1 hp.2 h hm

theorem term_complete (d : TermTree) (hl : d.expr.levels ≤ maxNesting) (hp : d.expr.Plain)
    {ls : List Lexeme} {more : List Token} (h : tokensOf ls = d.tokens ++ more) (hm : EndsExpr more) :
    ∃ rest, Parser.term ls = .ok (d.term, rest) ∧ tokensOf rest = more := by
  rw [TermTree.tokens, List.append_assoc] at h
  obtain ⟨ls', rest, hb, he, hrest⟩ := bound_complete (expr_complete maxNesting) d.binding d.expr hl hp h hm
  refine ⟨rest, ?_, hrest⟩
  unfold Parser.term
  rw [hb]
  exact bind_eq_ok_iff.2 ⟨_, he, rfl⟩

theorem termList_complete (t : TermTree) (ts : List TermTree) {ls : List Lexeme}
    (h : Derives (t :: ts) (tokensOf ls)) {fuel : Nat} (hf : ls.length ≤ fuel) :
    termList fuel ls = .ok ((t :: ts).map TermTree.term) := by
  induction ts generalizing t ls fuel with
  | nil =>
    obtain ⟨ht, hl, hp⟩ := h
    rw [sentence_cons] at ht
    obtain ⟨rest, hread, hrest⟩ :=
      term_complete t (hl t (by simp)) (hp t (by simp)) ht.symm (endsExpr_tailSentence _)
    cases tokensOf_eq_nil hrest
    cases fuel with
    | zero =>
      cases List.eq_nil_of_length_eq_zero (Nat.le_zero.1 hf)
      exact absurd ht (t.tokens_ne_nil _)
    | succ fuel => exact bind_eq_ok_iff.2 ⟨_, hread, rfl⟩
  | cons t' ts ih =>
    obtain ⟨ht, hl, hp⟩ := h
    rw [sentence_cons] at ht
    obtain ⟨rest, hread, hrest⟩ :=
      term_complete t (hl t (by simp)) (hp t (by simp)) ht.symm (endsExpr_tailSentence _)
    obtain ⟨s, rest', rfl, hrest'⟩ := tokensOf_eq_cons hrest
    -- the first term and the comma leave fewer lexemes than the fuel covers
    have hlen := congrArg List.length ht
    rw [tailSentence, ← hrest'] at hlen
    simp only [List.length_append, List.length_cons, length_tokensOf] at hlen
    cases fuel with
    | zero => omega
    | succ fuel =>
      have hothers : termList fuel rest' = .ok ((t' :: ts).map TermTree.term) :=
        ih t' ⟨hrest'.symm, fun u hu => hl u (.tail _ hu), fun u hu => hp u (.tail _ hu)⟩ (by omega)
      exact bind_eq_ok_iff.2 ⟨_, hread, bind_eq_ok_iff.2 ⟨_, hothers, rfl⟩⟩

theorem terms_complete {ts : List TermTree} {ls : List Lexeme} (h : Derives ts (tokensOf ls)) :
    Parser.terms ls = .ok (ts.map TermTree.term) := by
  unfold Parser.terms
  cases ts with
  | nil =>
    cases tokensOf_eq_nil h.tokens.symm
    rfl
  | cons t ts =>
    split
    · have ht := h.tokens
      rw [sentence_cons] at ht
      exact absurd ht (t.tokens_ne_nil _)
    · exact termList_complete t ts h (Nat.le_refl _)

/-! ## Reading -/

/-- Lexemes are read as terms exactly when their tokens have a derivation with these terms. -/
theorem terms_eq_ok_iff {ls : List Lexeme} {terms : List Term} :
    Parser.terms ls = .ok terms ↔ ∃ ts, Derives ts (tokensOf ls) ∧ ts.map TermTree.term = terms := by
  constructor
  · exact terms_sound
  · rintro ⟨ts, h, rfl⟩
    exact terms_complete h

end Parser

/-- The terms that lexemes are read as, with each list that is a whole unnamed term spread. -/
def Term.ofLexemes (lexemes : List Lexeme) : Except Misreading (List Term) :=
  (Parser.terms lexemes).map (·.flatMap Term.spread)

theorem Term.ofLexemes_eq_ok_iff {lexemes : List Lexeme} {terms : List Term} :
    Term.ofLexemes lexemes = .ok terms ↔
      ∃ ts, Derives ts (tokensOf lexemes) ∧ (ts.map TermTree.term).flatMap Term.spread = terms := by
  unfold Term.ofLexemes
  rw [map_eq_ok_iff]
  constructor
  · rintro ⟨terms', h, rfl⟩
    obtain ⟨ts, hd, rfl⟩ := Parser.terms_eq_ok_iff.1 h
    exact ⟨ts, hd, rfl⟩
  · rintro ⟨ts, hd, rfl⟩
    exact ⟨_, Parser.terms_eq_ok_iff.2 ⟨ts, hd, rfl⟩, rfl⟩

/-- A text is read as the terms of its lexemes. -/
theorem Term.ofText_eq_ok_iff {text : String} {terms : List Term} :
    Term.ofText text = .ok terms ↔
      ∃ lexemes, Lexeme.readAll text.toList = .ok lexemes ∧ Term.ofLexemes lexemes = .ok terms := by
  unfold Term.ofText Term.readAll Term.ofLexemes
  rw [mapError_eq_ok_iff, bind_eq_ok_iff]
  simp only [map_eq_ok_iff, bind_eq_ok_iff]
  constructor
  · rintro ⟨lexemes, hl, read, hr, h⟩
    cases h
    exact ⟨lexemes, hl, read, hr, rfl⟩
  · rintro ⟨lexemes, hl, read, hr, rfl⟩
    exact ⟨lexemes, hl, read, hr, rfl⟩

/-- Lexemes, and so every text that has lexemes, are read exactly when their tokens have a derivation
of at most `maxNesting` levels in which no bare `c` has a named argument. The grammar has no other
derivation of them then, and the terms read are those of the derivation, with each list that is a
whole unnamed term spread. -/
theorem Term.ofLexemes_iff_derives (lexemes : List Lexeme) :
    ((∃ terms, Term.ofLexemes lexemes = .ok terms) ↔ ∃ ts, Derives ts (tokensOf lexemes)) ∧
    (∀ terms, Term.ofLexemes lexemes = .ok terms → ∃ ts, Derives ts (tokensOf lexemes) ∧
      (∀ ts', sentence ts' = tokensOf lexemes → ts' = ts) ∧
      terms = (ts.map TermTree.term).flatMap Term.spread) ∧
    ∀ text : String, Lexeme.readAll text.toList = .ok lexemes →
      ∀ terms, Term.ofText text = .ok terms ↔ Term.ofLexemes lexemes = .ok terms := by
  refine ⟨⟨?_, ?_⟩, ?_, ?_⟩
  · rintro ⟨terms, h⟩
    obtain ⟨ts, hd, -⟩ := Term.ofLexemes_eq_ok_iff.1 h
    exact ⟨ts, hd⟩
  · rintro ⟨ts, hd⟩
    exact ⟨_, Term.ofLexemes_eq_ok_iff.2 ⟨ts, hd, rfl⟩⟩
  · intro terms h
    obtain ⟨ts, hd, rfl⟩ := Term.ofLexemes_eq_ok_iff.1 h
    exact ⟨ts, hd, fun ts' h' => sentence_inj (h'.trans hd.tokens.symm), rfl⟩
  · intro text hl terms
    rw [Term.ofText_eq_ok_iff]
    constructor
    · rintro ⟨lexemes', hl', h⟩
      cases hl.symm.trans hl'
      exact h
    · intro h
      exact ⟨lexemes, hl, h⟩

end ColumnSelect
