/-
What is read from a text passes the depth check. The parser counts the parentheses of a text and the
check the constructors of an expression, but the text of an expression nests at least as deep as the
expression does (`Expr.nesting_le_writtenNesting`), so that the limit of the one holds for the other. A
selection, its explanation and a rename may still fail, but not for the nesting. Main statement:
`checkDepth_of_ofText`.
-/
import ColumnSelect.Pattern.Standard
import ColumnSelect.Proofs.Selection.Fault
import ColumnSelect.Proofs.Term.RoundTrip

namespace ColumnSelect

/-! ## Failing for the nesting -/

theorem Term.Fault.not_tooDeep [Pattern.Engine] {catalog : Catalog} {policy : MultiRename} {t : Term} {own : Error}
    (h : t.expr.depth ≤ maxNesting) (hf : t.Fault catalog policy own) : ¬ own.TooDeep := by
  cases hf with
  | evaluation he =>
    intro hd
    have := (Term.evaluate_error he).2 hd
    omega
  | refusal => rintro ⟨_, _, ⟨⟩⟩

theorem Term.RenameFault.not_tooDeep {catalog : Catalog} {t : Term} {own : Error}
    (h : t.expr.depth ≤ maxNesting) (hf : t.RenameFault catalog own) : ¬ own.TooDeep := by
  cases hf with
  | tooDeep hd => omega
  | _ => rintro ⟨_, _, ⟨⟩⟩

/-- A selection is refused for the nesting only where a term is nested too deep. -/
theorem Refusal.not_tooDeep [Pattern.Engine] {catalog : Catalog} {options : Options} {terms : List Term} {e : Error}
    (hn : ∀ t ∈ terms, t.expr.depth ≤ maxNesting) (h : Refusal catalog options terms e) : ¬ e.TooDeep := by
  cases h with
  | term hf =>
    obtain ⟨t, ht, hf⟩ := hf.fault
    have hown := hf.not_tooDeep (hn t ht)
    -- the number of the term is no part of the cause
    exact hown
  | option => rintro ⟨_, _, ⟨⟩⟩

theorem not_tooDeep_of_rename {catalog : Catalog} {terms : List Term} {e : Error}
    (hn : ∀ t ∈ terms, t.expr.depth ≤ maxNesting) (h : rename catalog terms = .error e) : ¬ e.TooDeep := by
  obtain ⟨number, own, hf, rfl⟩ := rename_eq_error_iff.1 h
  obtain ⟨t, ht, hf⟩ := hf.fault
  have hown := hf.not_tooDeep (hn t ht)
  exact hown

/-! ## Terms of a text -/

theorem depth_of_ofText {text : String} {terms : List Term} (h : Term.ofText text = .ok terms) :
    ∀ t ∈ terms, t.expr.depth ≤ maxNesting := by
  intro t ht
  calc t.expr.depth
      = t.expr.nesting := t.expr.depth_eq_nesting
    _ ≤ t.expr.writtenNesting := t.expr.nesting_le_writtenNesting
    _ ≤ maxNesting := Term.writtenNesting_of_ofText h t ht

/-- Terms that are read from a text are nested no deeper than the limit and have no path of more than
twice as many expressions. So the check of the depth passes them all, and neither a selection, nor its
explanation, nor a rename of them is ever refused for their depth. -/
theorem checkDepth_of_ofText [Pattern.Engine] {text : String} {terms : List Term} (h : Term.ofText text = .ok terms) :
    (∀ t ∈ terms, t.expr.depth ≤ maxNesting ∧ t.expr.checkDepth = .ok () ∧
      ∀ path, t.expr.Path path → path.length ≤ 2 * maxNesting) ∧
    ∀ catalog,
      (∀ options e, resolve catalog options terms = .error e → ¬ e.TooDeep) ∧
      (∀ options code reason,
        Explanation.ofOutcome (resolution catalog options terms) = .rejected code reason →
          ∃ e, resolution catalog options terms = .error e ∧ ¬ e.TooDeep ∧ e.code.text = code ∧ e.text = reason) ∧
      ∀ e, rename catalog terms = .error e → ¬ e.TooDeep := by
  have hn := depth_of_ofText h
  refine ⟨fun t ht => ⟨hn t ht, if_neg (Nat.not_lt.2 (hn t ht)), (Term.bounded_of_ofText h t ht).paths⟩,
    fun catalog => ⟨fun options e he => ?_, fun options code reason he => ?_, fun e he => ?_⟩⟩
  · exact (resolve_eq_error_iff.1 he).not_tooDeep hn
  · cases ho : resolution catalog options terms with
    | ok r =>
      rw [ho] at he
      cases he
    | error e =>
      rw [ho] at he
      cases he
      exact ⟨e, rfl, (resolution_eq_error_iff.1 ho).not_tooDeep hn, rfl, rfl⟩
  · exact not_tooDeep_of_rename hn he

/-- The parentheses around a range that ends another are gone from the expression. The column that the
catalog lacks makes the selection fail, and not the nesting. -/
theorem checkDepth_of_ofText_unknown :
    Term.ofText "x = -(a:(b:z))" =
        .ok [⟨some "x", .negate (.range (.column "a") (.range (.column "b") (.column "z")))⟩] ∧
      (Expr.negate (.range (.column "a") (.range (.column "b") (.column "z")))).checkDepth = .ok () ∧
      (∀ path, (Expr.negate (.range (.column "a") (.range (.column "b") (.column "z")))).Path path →
        path.length ≤ 2 * maxNesting) ∧
      ∃ e, resolve ["a", "b"] (.plain .numbered)
          [⟨some "x", .negate (.range (.column "a") (.range (.column "b") (.column "z")))⟩] = .error e ∧
        ¬ e.TooDeep := by
  have hread : Term.ofText "x = -(a:(b:z))" =
      .ok [⟨some "x", .negate (.range (.column "a") (.range (.column "b") (.column "z")))⟩] := rfl
  have hfail : resolve ["a", "b"] (.plain .numbered)
      [⟨some "x", .negate (.range (.column "a") (.range (.column "b") (.column "z")))⟩] =
        .error ⟨.unknownVariable "z", some 1⟩ := by
    decide +kernel
  obtain ⟨hterms, hrun⟩ := checkDepth_of_ofText hread
  obtain ⟨-, hcheck, hpaths⟩ := hterms _ (List.mem_singleton_self _)
  exact ⟨hread, hcheck, hpaths, _, hfail, (hrun _).1 _ _ hfail⟩

end ColumnSelect
