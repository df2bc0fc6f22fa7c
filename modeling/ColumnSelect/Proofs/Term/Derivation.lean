/-
What a derivation stands for, by what it derives: tokens without empty names and negative numbers
make expressions without any (`ExprTree.proper_expr`), and the written form of the expression nests
no deeper than the derivation (`ExprTree.writtenNesting_le`). Spreading the lists that are whole
unnamed terms keeps both, and takes one node of each such list (`nodes_flatMap_spread`).
-/
import ColumnSelect.Proofs.Expr.Every
import ColumnSelect.Proofs.Term.Grammar
import ColumnSelect.Proofs.Token.Lexer
import ColumnSelect.Term.Parser

namespace ColumnSelect

namespace Grammar

/-! ## Names and numbers -/

theorem mem_intercalate_comma {tss : List (List Token)} {ts : List Token} {t : Token} (hts : ts ∈ tss)
    (ht : t ∈ ts) : t ∈ [.comma].intercalate tss := by
  induction tss with
  | nil => cases hts
  | cons us tss ih =>
    cases tss with
    | nil =>
      rw [List.intercalate_singleton]
      rw [List.mem_singleton.1 hts] at ht
      exact ht
    | cons vs tss =>
      rw [List.intercalate_cons_cons, List.mem_append, List.mem_append]
      rcases List.mem_cons.1 hts with rfl | hts
      · exact .inl (.inl ht)
      · exact .inr (ih hts)

theorem bindingTokens_proper {b : Option Name} (h : ∀ t ∈ bindingTokens b, t.Proper) :
    b.map Name.text ≠ some "" := by
  cases b with
  | none => simp
  | some n =>
    have hn : n.text ≠ "" := h n.token (by simp [bindingTokens])
    simpa using hn

mutual

/-- Without empty names and negative numbers in the tokens there are none in the expression. -/
theorem ExprTree.proper_expr : ∀ (d : ExprTree), (∀ t ∈ d.tokens, t.Proper) → d.expr.Every Expr.Proper
  | .negated inner, h =>
    ⟨Expr.proper_of_names_eq_nil rfl nofun, ExprTree.proper_expr inner fun t ht => h t (.tail _ ht)⟩
  | .single p, h => PrimaryTree.proper_expr p h
  | .range first last, h => by
    refine ⟨Expr.proper_of_names_eq_nil rfl nofun, ?_, ?_⟩
    · exact PrimaryTree.proper_expr first fun t ht => h t (List.mem_append_left _ ht)
    · exact PrimaryTree.proper_expr last fun t ht => h t (List.mem_append_right _ (.tail _ ht))

theorem PrimaryTree.proper_expr : ∀ (p : PrimaryTree), (∀ t ∈ p.tokens, t.Proper) →
    p.expr.Every Expr.Proper
  | .name n, h => by
    have hn : n.text ≠ "" := h n.token (by simp [PrimaryTree.tokens])
    exact ⟨Expr.named_column.2 hn, nofun⟩
  | .number value, h => by
    have hv : 0 ≤ value.toInt := h (.number value) (by simp [PrimaryTree.tokens])
    refine ⟨by simp [Expr.Named, Expr.names], ?_⟩
    rintro v ⟨⟩
    exact hv
  | .str _, _ => Expr.proper_of_names_eq_nil rfl nofun
  | .bool _, _ => Expr.proper_of_names_eq_nil rfl nofun
  | .application function args, h => by
    have hf : function.text ≠ "" := h function.token (by simp [PrimaryTree.tokens])
    obtain ⟨hargs, hnames⟩ := ArgTree.proper_args args fun ts hts t ht =>
      h t (.tail _ (.tail _ (List.mem_append_left _ (mem_intercalate_comma hts ht))))
    rw [PrimaryTree.expr]
    split
    · exact ⟨Expr.proper_of_names_eq_nil rfl nofun, Expr.everyAll_map_value hargs⟩
    · exact ⟨⟨Expr.named_call.2 ⟨hf, hnames⟩, nofun⟩, hargs⟩
  | .group inner, h =>
    ExprTree.proper_expr inner fun t ht => h t (.tail _ (List.mem_append_left _ ht))

theorem ArgTree.proper_arg : ∀ (a : ArgTree), (∀ t ∈ a.tokens, t.Proper) →
    a.arg.Every Expr.Proper ∧ a.arg.name ≠ some ""
  | .mk _ value, h =>
    ⟨ExprTree.proper_expr value fun t ht => h t (List.mem_append_right _ ht),
      bindingTokens_proper fun t ht => h t (List.mem_append_left _ ht)⟩

theorem ArgTree.proper_args : ∀ (as : List ArgTree), (∀ ts ∈ ArgTree.tokensAll as, ∀ t ∈ ts, t.Proper) →
    Arg.EveryAll Expr.Proper (ArgTree.args as) ∧ ∀ a ∈ ArgTree.args as, a.name ≠ some ""
  | [], _ => ⟨trivial, nofun⟩
  | a :: as, h => by
    obtain ⟨ha, hn⟩ := ArgTree.proper_arg a (h _ (by simp [ArgTree.tokensAll]))
    obtain ⟨has, hns⟩ := ArgTree.proper_args as fun ts hts => h ts (.tail _ hts)
    exact ⟨⟨ha, has⟩, List.forall_mem_cons.2 ⟨hn, hns⟩⟩

end

/-! ## Nesting -/

mutual

/-- The written form of the expression nests no deeper than the derivation. -/
theorem ExprTree.writtenNesting_le : ∀ (d : ExprTree), d.expr.writtenNesting ≤ d.levels
  | .negated inner => by
    have := ExprTree.writtenNesting_le inner
    rw [ExprTree.expr, Expr.writtenNesting, ExprTree.levels]
    omega
  | .single p => by
    have := PrimaryTree.writtenNesting_le p
    rw [ExprTree.expr, ExprTree.levels]
    omega
  | .range first last => by
    have := PrimaryTree.writtenNesting_le first
    have := PrimaryTree.writtenNesting_le last
    rw [ExprTree.expr, Expr.writtenNesting, ExprTree.levels]
    omega

/-- The parentheses around an end of a range are those of a group. -/
theorem PrimaryTree.writtenNesting_le : ∀ (p : PrimaryTree),
    (p.expr.writtenNesting + if p.expr.grouped then 1 else 0) ≤ p.levels + 1
  | .name _ => Nat.le_refl 1
  | .number _ => Nat.le_refl 1
  | .str _ => Nat.le_refl 1
  | .bool _ => Nat.le_refl 1
  | .application function args => by
    have := ArgTree.writtenNestingAll_le args
    rw [PrimaryTree.expr, PrimaryTree.levels]
    split
    · rw [Expr.writtenNesting, Expr.writtenNestingAll_map_value]
      exact Nat.succ_le_succ this
    · exact Nat.succ_le_succ this
  | .group inner => by
    have := ExprTree.writtenNesting_le inner
    rw [PrimaryTree.expr, PrimaryTree.levels]
    split <;> omega

theorem ArgTree.writtenNestingAll_le : ∀ (as : List ArgTree),
    Arg.writtenNestingAll (ArgTree.args as) ≤ ArgTree.levelsAll as
  | [] => Nat.le_refl 0
  | .mk _ value :: as => by
    have := ExprTree.writtenNesting_le value
    have := ArgTree.writtenNestingAll_le as
    rw [ArgTree.args, ArgTree.arg, Arg.writtenNestingAll, Arg.writtenNesting, ArgTree.levelsAll,
      ArgTree.levels]
    omega

end

end Grammar

namespace Term

/-! ## Lists that are whole terms -/

/-- The term is a list without a name, which stands for its items. -/
def wholeList : Term → Bool
  | ⟨none, .list _⟩ => true
  | _ => false

theorem wholeList_iff {t : Term} : t.wholeList = true ↔ t.name = none ∧ ∃ items, t.expr = .list items := by
  unfold wholeList
  split
  · simp
  · rename_i h
    simp only [Bool.false_eq_true, false_iff, not_and, not_exists]
    intro hn items he
    obtain ⟨name, expr⟩ := t
    subst hn he
    exact h items rfl

/-- Only a list without a name is spread, to terms without names. -/
theorem spread_eq (t : Term) :
    t.spread = [t] ∧ t.wholeList = false ∨
      ∃ items, t = ⟨none, .list items⟩ ∧ t.spread = items.map (⟨none, ·⟩) ∧ t.wholeList = true := by
  unfold spread
  split
  · rename_i items
    exact .inr ⟨items, rfl, rfl, rfl⟩
  · rename_i h
    refine .inl ⟨rfl, Bool.eq_false_iff.2 ?_⟩
    intro hw
    obtain ⟨hn, items, he⟩ := wholeList_iff.1 hw
    obtain ⟨name, expr⟩ := t
    subst hn he
    exact h items rfl

theorem mem_spread {t u : Term} (h : u ∈ t.spread) :
    u = t ∨ ∃ items, t = ⟨none, .list items⟩ ∧ ∃ e ∈ items, u = ⟨none, e⟩ := by
  rcases spread_eq t with ⟨hs, -⟩ | ⟨items, ht, hs, -⟩
  · rw [hs] at h
    exact .inl (List.mem_singleton.1 h)
  · rw [hs] at h
    obtain ⟨e, he, hu⟩ := List.mem_map.1 h
    exact .inr ⟨items, ht, e, he, hu.symm⟩

/-- What holds of every expression of a term holds of those of the terms it is spread to. -/
theorem every_spread {P : Expr → Prop} {t u : Term} (h : t.expr.Every P) (hu : u ∈ t.spread) :
    u.expr.Every P := by
  rcases mem_spread hu with rfl | ⟨items, rfl, e, he, rfl⟩
  · exact h
  · exact Expr.everyAll_iff.1 h.2 e he

theorem name_spread {t u : Term} (hu : u ∈ t.spread) : u.name = none ∨ u.name = t.name := by
  rcases mem_spread hu with rfl | ⟨items, rfl, e, he, rfl⟩
  · exact .inr rfl
  · exact .inl rfl

theorem writtenNesting_spread {t u : Term} (hu : u ∈ t.spread) :
    u.expr.writtenNesting ≤ t.expr.writtenNesting := by
  rcases mem_spread hu with rfl | ⟨items, rfl, e, he, rfl⟩
  · exact Nat.le_refl _
  · exact Nat.le_succ_of_le (Expr.writtenNesting_le_all he)

/-- The number of nodes of the expressions of some terms. -/
def nodes (terms : List Term) : Nat := Expr.nodesAll (terms.map Term.expr)

theorem nodes_append (ts us : List Term) : nodes (ts ++ us) = nodes ts + nodes us := by
  induction ts with
  | nil => simp [nodes, Expr.nodesAll]
  | cons t ts ih =>
    simp only [nodes, List.cons_append, List.map_cons, Expr.nodesAll] at ih ⊢
    omega

theorem nodes_unnamed (items : List Expr) : nodes (items.map (⟨none, ·⟩)) = Expr.nodesAll items := by
  simp [nodes, Function.comp_def]

/-- Spreading takes one node of each list that is a whole term. -/
theorem nodes_flatMap_spread (terms : List Term) :
    nodes (terms.flatMap spread) + terms.countP wholeList = nodes terms := by
  induction terms with
  | nil => rfl
  | cons t terms ih =>
    have ht : nodes (t :: terms) = t.expr.nodes + nodes terms := rfl
    rw [List.flatMap_cons, nodes_append, ht, ← ih]
    -- either the term stays, or its own node goes and it is counted
    rcases spread_eq t with ⟨hs, hw⟩ | ⟨items, rfl, hs, hw⟩
    · have hone : nodes [t] = t.expr.nodes := Nat.add_zero _
      rw [hs, hone, List.countP_cons_of_neg (by simp [hw])]
      omega
    · rw [hs, List.countP_cons_of_pos hw, nodes_unnamed, Expr.nodes]
      omega

/-- Terms that spreading leaves as they are hold no list that is a whole term. -/
theorem wholeList_of_flatMap_spread {terms : List Term} (h : terms.flatMap spread = terms) :
    ∀ t ∈ terms, t.wholeList = false := by
  have hn := nodes_flatMap_spread terms
  rw [h] at hn
  have hzero : terms.countP wholeList = 0 := by omega
  intro t ht
  exact Bool.eq_false_iff.2 (List.countP_eq_zero.1 hzero t ht)

theorem flatMap_spread {terms : List Term} (h : ∀ t ∈ terms, t.wholeList = false) :
    terms.flatMap spread = terms := by
  induction terms with
  | nil => rfl
  | cons t terms ih =>
    obtain ⟨ht, hts⟩ := List.forall_mem_cons.1 h
    rw [List.flatMap_cons, ih hts]
    rcases spread_eq t with ⟨hs, -⟩ | ⟨items, -, -, hw⟩
    · rw [hs]
      rfl
    · rw [ht] at hw
      cases hw

end Term

end ColumnSelect
