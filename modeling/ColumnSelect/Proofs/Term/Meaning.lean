/-
Terms written and read again select the same columns. Reading back may give other terms: a list that
is a whole term without a name is read as one term for every item, and a call of `c` is read as a
list. The terms read stand in for the one written (`standsFor_written`), and terms resolve as whatever
stands in for each of them (`resolve_flatMap`). Main statement: if the terms of a text resolve, then
their written form can be read, and what is read resolves to the same mapping (`resolve_reread`).
-/
import ColumnSelect.Pattern.Standard
import ColumnSelect.Proofs.Expr.Meaning
import ColumnSelect.Proofs.Selection.Success
import ColumnSelect.Proofs.Term.RoundTrip

namespace ColumnSelect

open Grammar

/-! ## Terms in place of a term -/

theorem MultiRename.takes_unnamed (policy : MultiRename) (indices : List Int) :
    policy.Takes ⟨indices, none⟩ := fun _ => nofun

/-- Terms that together do what one term does: wherever that gives a result, they give results that
name the same positions in the same order, and a policy that takes the one takes all of these. -/
def StandsFor [Pattern.Engine] (catalog : Catalog) (ts : List Term) (t : Term) : Prop :=
  ∀ r, t.Gives catalog r → ∃ rs, List.Forall₂ (Term.Gives catalog) ts rs ∧
    rs.flatMap TermResult.named = r.named ∧
      ∀ policy : MultiRename, policy.Takes r → ∀ r' ∈ rs, policy.Takes r'

theorem exists_results_flatMap [Pattern.Engine] {catalog : Catalog} {terms : List Term} {results : List TermResult}
    {f : Term → List Term} (hf : ∀ t ∈ terms, StandsFor catalog (f t) t)
    (h : List.Forall₂ (Term.Gives catalog) terms results) :
    ∃ rs, List.Forall₂ (Term.Gives catalog) (terms.flatMap f) rs ∧
      rs.flatMap TermResult.named = results.flatMap TermResult.named ∧
        ∀ policy : MultiRename, (∀ r ∈ results, policy.Takes r) → ∀ r ∈ rs, policy.Takes r := by
  induction h with
  | nil => exact ⟨[], .nil, rfl, fun _ h => h⟩
  | @cons t r terms results hr _ ih =>
    obtain ⟨hft, hfts⟩ := List.forall_mem_cons.1 hf
    obtain ⟨rs, hg, hn, hp⟩ := hft r hr
    obtain ⟨rss, hgs, hns, hps⟩ := ih hfts
    refine ⟨rs ++ rss, List.rel_append hg hgs, ?_, fun policy ht => ?_⟩
    · rw [List.flatMap_append, hn, hns, List.flatMap_cons]
    · obtain ⟨ht, hts⟩ := List.forall_mem_cons.1 ht
      exact List.forall_mem_append.2 ⟨hp policy ht, hps policy hts⟩

/-- Terms resolve as the terms that stand in for each of them. -/
theorem resolve_flatMap [Pattern.Engine] {catalog : Catalog} {options : Options} {terms : List Term}
    {mapping : Mapping} {f : Term → List Term} (hf : ∀ t ∈ terms, StandsFor catalog (f t) t)
    (h : resolve catalog options terms = .ok mapping) :
    resolve catalog options (terms.flatMap f) = .ok mapping := by
  obtain ⟨results, ⟨hr, ht, hk⟩, rfl⟩ := resolve_eq_ok_iff.1 h
  simp only [Term.evaluate_eq_ok_iff] at hr
  obtain ⟨rs, hg, hn, hp⟩ := exists_results_flatMap hf hr
  refine resolve_eq_ok_iff.2 ⟨rs, ⟨?_, hp _ ht, hk⟩, ?_⟩
  · simpa only [Term.evaluate_eq_ok_iff] using hg
  · rw [mappingOf, mappingOf, hn]

/-! ## Terms read from a written form -/

theorem gives_items [Pattern.Engine] {catalog : Catalog} {items : List Expr} {rows : List (List Int)}
    (h : List.Forall₂ (fun e row => e.eval catalog = .ok (.ints row)) items rows)
    (hn : ∀ e ∈ items, e.nesting ≤ maxNesting)
    (hb : ∀ row ∈ rows, ∀ i ∈ row, i ≠ 0 ∧ i.natAbs ≤ catalog.length) :
    List.Forall₂ (fun e row => Term.Gives catalog ⟨none, e⟩ ⟨row, none⟩) items rows := by
  induction h with
  | nil => exact .nil
  | cons hv _ ih =>
    obtain ⟨hn, hns⟩ := List.forall_mem_cons.1 hn
    obtain ⟨hb, hbs⟩ := List.forall_mem_cons.1 hb
    exact .cons ⟨hn, hv, hb, rfl⟩ (ih hns hbs)

theorem flatMap_named_unnamed (rows : List (List Int)) :
    (rows.map fun row => (⟨row, none⟩ : TermResult)).flatMap TermResult.named =
      rows.flatten.map (⟨·, none⟩) := by
  simp [TermResult.named_unnamed, List.map_flatten, List.flatMap_def, Function.comp_def]

namespace Term

/-- A list that is a whole term does what its items do as terms. -/
theorem standsFor_spread [Pattern.Engine] (catalog : Catalog) (t : Term) : StandsFor catalog t.spread t := by
  intro r h
  rcases t.spread_eq with ⟨hs, -⟩ | ⟨items, rfl, hs, -⟩
  · rw [hs]
    exact ⟨[r], .cons h .nil, by simp, by simp⟩
  · obtain ⟨indices, name⟩ := r
    obtain rfl : name = none := h.name
    obtain ⟨rows, hrows, hv⟩ := Expr.eval_list_eq_ok_iff.1 h.value
    cases hv
    have hn : ∀ e ∈ items, e.nesting ≤ maxNesting :=
      Expr.nestingAll_le_iff.1 (Nat.le_of_succ_le h.nesting)
    have hb : ∀ row ∈ rows, ∀ i ∈ row, i ≠ 0 ∧ i.natAbs ≤ catalog.length :=
      fun row hrow i hi => h.bound i (List.mem_flatten_of_mem hrow hi)
    rw [hs]
    refine ⟨rows.map (⟨·, none⟩), ?_, ?_, ?_⟩
    · rw [List.forall₂_map_left_iff, List.forall₂_map_right_iff]
      exact gives_items hrows hn hb
    · rw [flatMap_named_unnamed, TermResult.named_unnamed]
    · intro policy _
      simp [MultiRename.takes_unnamed]

theorem Gives.written [Pattern.Engine] {catalog : Catalog} {t : Term} {r : TermResult}
    (hu : t.expr.Every Expr.Unsigned) (h : t.Gives catalog r) : t.written.term.Gives catalog r where
  nesting := Nat.le_trans (Expr.nesting_expr_written_le hu) h.nesting
  value := Expr.eval_expr_written hu h.value
  bound := h.bound
  name := by
    rw [h.name]
    obtain ⟨name, expr⟩ := t
    cases name <;> rfl

/-- What is read from the written form of a term stands in for it. -/
theorem standsFor_written [Pattern.Engine] (catalog : Catalog) {t : Term} (hu : t.expr.Every Expr.Unsigned) :
    StandsFor catalog t.written.term.spread t :=
  fun r h => standsFor_spread catalog t.written.term r (h.written hu)

theorem Gives.plain_written [Pattern.Engine] {catalog : Catalog} {t : Term} {r : TermResult} (h : t.Gives catalog r) :
    t.expr.written.Plain := t.expr.plain_written (Expr.unnamedItems_of_eval h.value)

/-- What a text selects, its terms select when they are written and read again, even where other terms
are read than those that were written. -/
theorem resolve_reread [Pattern.Engine] {origin : String} {terms : List Term} (h : Term.ofText origin = .ok terms)
    {catalog : Catalog} {options : Options} {mapping : Mapping}
    (hm : resolve catalog options terms = .ok mapping) :
    ∃ back, Term.ofText (", ".intercalate (terms.map text)) = .ok back ∧
      resolve catalog options back = .ok mapping := by
  have hproper := proper_of_ofText h
  have hunsigned : ∀ t ∈ terms, t.expr.Every Expr.Unsigned := fun t ht =>
    (hproper t ht).2.imp fun _ he => he.unsigned
  have hwritable : ∀ t ∈ terms, t.name ≠ some "" ∧ t.expr.Every Expr.Writable := fun t ht =>
    ⟨(hproper t ht).1, (hproper t ht).2.imp fun _ he => he.writable⟩
  obtain ⟨results, hr, -⟩ := resolve_eq_ok_iff.1 hm
  refine ⟨_, (ofText_written_iff hwritable).2 ⟨?_, rfl⟩, ?_⟩
  · intro t ht
    obtain ⟨r, -, hv⟩ := exists_of_forall₂ hr.evaluate t ht
    rw [Expr.levels_written t.expr (hunsigned t ht)]
    exact ⟨writtenNesting_of_ofText h t ht, (evaluate_eq_ok_iff.1 hv).plain_written⟩
  · rw [List.flatMap_map]
    exact resolve_flatMap (fun t ht => standsFor_written catalog (hunsigned t ht)) hm

/-- A list in a list and a call of the quoted `c` are read back without the one and as a list: the terms
differ, the columns do not. -/
theorem resolve_reread_regrouped :
    Term.ofText "c(c(b)), x = `c`(c, a)" = .ok [⟨none, .list [.column "b"]⟩,
        ⟨some "x", .call "c" [.mk none (.column "c"), .mk none (.column "a")]⟩] ∧
      resolve ["a", "b", "c"] (.plain .numbered) [⟨none, .list [.column "b"]⟩,
        ⟨some "x", .call "c" [.mk none (.column "c"), .mk none (.column "a")]⟩] =
          .ok [⟨"b", "b"⟩, ⟨"x1", "c"⟩, ⟨"x2", "a"⟩] ∧
      ∃ back, Term.ofText (", ".intercalate ([⟨none, .list [.column "b"]⟩,
        ⟨some "x", .call "c" [.mk none (.column "c"), .mk none (.column "a")]⟩].map text)) = .ok back ∧
          resolve ["a", "b", "c"] (.plain .numbered) back = .ok [⟨"b", "b"⟩, ⟨"x1", "c"⟩, ⟨"x2", "a"⟩] := by
  have hread : Term.ofText "c(c(b)), x = `c`(c, a)" = .ok [⟨none, .list [.column "b"]⟩,
    ⟨some "x", .call "c" [.mk none (.column "c"), .mk none (.column "a")]⟩] := rfl
  have hmapping : resolve ["a", "b", "c"] (.plain .numbered) [⟨none, .list [.column "b"]⟩,
    ⟨some "x", .call "c" [.mk none (.column "c"), .mk none (.column "a")]⟩] =
      .ok [⟨"b", "b"⟩, ⟨"x1", "c"⟩, ⟨"x2", "a"⟩] := by decide +kernel
  exact ⟨hread, hmapping, resolve_reread hread hmapping⟩

end Term

end ColumnSelect
