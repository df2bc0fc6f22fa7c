/-
A list as a term without a name. It may stand for its items, each a term without a name, and a negated
list for the negated items: a selection resolves with the one as with the others, to the same mapping,
as long as the list is not nested too deep. Both the list and its negation evaluate to what the items, or
the negated items, evaluate to in a row (`joins_list`, `joins_negate_list`), and nothing else of them
counts (`resolve_joins_iff`). Main statement: `resolve_list_term_iff`.
-/
import ColumnSelect.Proofs.Selection.Order
import ColumnSelect.Proofs.Term.Meaning

namespace ColumnSelect

/-! ## Terms in a row -/

theorem resolves_append_iff [Pattern.Engine] {catalog : Catalog} {options : Options} {ts us : List Term}
    {results : List TermResult} : Resolves catalog options (ts ++ us) results ↔
      ∃ rs ss, Resolves catalog options ts rs ∧ Resolves catalog options us ss ∧ rs ++ ss = results := by
  constructor
  · rintro ⟨he, ht, hk⟩
    obtain ⟨rs, ss, hr, hs, rfl⟩ := forall₂_append_left_iff.1 he
    obtain ⟨htr, hts⟩ := List.forall_mem_append.1 ht
    exact ⟨rs, ss, ⟨hr, htr, hk⟩, ⟨hs, hts, hk⟩, rfl⟩
  · rintro ⟨rs, ss, hr, hs, rfl⟩
    exact ⟨List.rel_append hr.evaluate hs.evaluate, List.forall_mem_append.2 ⟨hr.takes, hs.takes⟩, hr.known⟩

/-- Terms between others may give way to terms that name the same positions. -/
theorem resolve_replace [Pattern.Engine] {catalog : Catalog} {options : Options} {before ts us after : List Term}
    {mapping : Mapping}
    (h : ∀ rs, Resolves catalog options ts rs →
      ∃ ss, Resolves catalog options us ss ∧ ss.flatMap TermResult.named = rs.flatMap TermResult.named)
    (hm : resolve catalog options (before ++ ts ++ after) = .ok mapping) :
    resolve catalog options (before ++ us ++ after) = .ok mapping := by
  obtain ⟨results, hr, rfl⟩ := resolve_eq_ok_iff.1 hm
  obtain ⟨_, back, hinner, hback, rfl⟩ := resolves_append_iff.1 hr
  obtain ⟨front, rs, hfront, hts, rfl⟩ := resolves_append_iff.1 hinner
  obtain ⟨ss, hus, hnamed⟩ := h rs hts
  refine resolve_eq_ok_iff.2 ⟨front ++ ss ++ back, ?_, ?_⟩
  · exact resolves_append_iff.2 ⟨_, _, resolves_append_iff.2 ⟨_, _, hfront, hus, rfl⟩, hback, rfl⟩
  · simp only [mappingOf, List.flatMap_append, hnamed]

theorem evaluate_unnamed_eq_ok_iff [Pattern.Engine] {catalog : Catalog} {e : Expr} {r : TermResult} :
    (⟨none, e⟩ : Term).evaluate catalog = .ok r ↔
      ∃ row, Term.Gives catalog ⟨none, e⟩ ⟨row, none⟩ ∧ ⟨row, none⟩ = r := by
  rw [Term.evaluate_eq_ok_iff]
  constructor
  · intro h
    obtain ⟨row, name⟩ := r
    cases h.name
    exact ⟨row, h, rfl⟩
  · rintro ⟨row, h, rfl⟩
    exact h

/-- Terms without names resolve to the positions of their expressions. -/
theorem resolves_unnamed_iff [Pattern.Engine] {catalog : Catalog} {options : Options} {es : List Expr}
    {results : List TermResult} : Resolves catalog options (es.map (⟨none, ·⟩)) results ↔
      (∀ name ∈ options.keep ++ options.leave, name ∈ catalog) ∧
        ∃ rows, List.Forall₂ (fun e row => Term.Gives catalog ⟨none, e⟩ ⟨row, none⟩) es rows ∧
          rows.map (⟨·, none⟩) = results := by
  simp only [← forall₂_image_iff, ← evaluate_unnamed_eq_ok_iff]
  constructor
  · rintro ⟨he, -, hk⟩
    exact ⟨hk, List.forall₂_map_left_iff.1 he⟩
  · rintro ⟨hk, he⟩
    refine ⟨List.forall₂_map_left_iff.2 he, fun r hr => ?_, hk⟩
    obtain ⟨e, -, hv⟩ := exists_of_forall₂ he.flip r hr
    obtain ⟨row, -, rfl⟩ := evaluate_unnamed_eq_ok_iff.1 hv
    exact MultiRename.takes_unnamed _ row

/-! ## Expressions joined from others -/

/-- The expression evaluates to what the pieces evaluate to in a row, and no piece is nested deeper. -/
structure Expr.Joins [Pattern.Engine] (catalog : Catalog) (whole : Expr) (pieces : List Expr) : Prop where
  nesting : ∀ e ∈ pieces, e.nesting ≤ whole.nesting
  eval : ∀ v, whole.eval catalog = .ok v ↔
    ∃ rows, List.Forall₂ (fun e row => e.eval catalog = .ok (.ints row)) pieces rows ∧ .ints rows.flatten = v

theorem Expr.joins_list [Pattern.Engine] (catalog : Catalog) (items : List Expr) : Joins catalog
    (.list items) items where
  nesting e he := by
    rw [Expr.nesting]
    exact Nat.le_succ_of_le (nestingAll_le_iff.1 (Nat.le_refl _) e he)
  eval _ := eval_list_eq_ok_iff

theorem Expr.joins_negate_list [Pattern.Engine] (catalog : Catalog) (items : List Expr) :
    Joins catalog (.negate (.list items)) (items.map .negate) where
  nesting := by
    intro e he
    obtain ⟨item, hi, rfl⟩ := List.mem_map.1 he
    have hle := nestingAll_le_iff.1 (Nat.le_refl (nestingAll items)) item hi
    simp only [Expr.nesting]
    omega
  eval v := by
    have hnegate (e : Expr) (row : List Int) : (Expr.negate e).eval catalog = .ok (.ints row) ↔
        ∃ numbers, e.eval catalog = .ok (.ints numbers) ∧ numbers.map Value.opposite = row := by
      simp only [eval_negate_eq_ok_iff, Value.ints.injEq]
    simp only [eval_negate_eq_ok_iff, eval_list_eq_ok_iff, List.forall₂_map_left_iff, hnegate, forall₂_image_iff]
    constructor
    · rintro ⟨numbers, ⟨rows, hr, hv⟩, rfl⟩
      cases hv
      exact ⟨_, ⟨rows, hr, rfl⟩, by rw [List.map_flatten]⟩
    · rintro ⟨_, ⟨rows, hr, rfl⟩, rfl⟩
      exact ⟨_, ⟨rows, hr, rfl⟩, by rw [List.map_flatten]⟩

theorem gives_joins_iff [Pattern.Engine] {catalog : Catalog} {whole : Expr} {pieces : List Expr}
    (h : whole.Joins catalog pieces) {row : List Int} :
    Term.Gives catalog ⟨none, whole⟩ ⟨row, none⟩ ↔ whole.nesting ≤ maxNesting ∧
      ∃ rows, List.Forall₂ (fun e row => Term.Gives catalog ⟨none, e⟩ ⟨row, none⟩) pieces rows ∧
        rows.flatten = row := by
  constructor
  · rintro ⟨hn, hv, hb, -⟩
    obtain ⟨rows, hrows, hrow⟩ := (h.eval _).1 hv
    cases hrow
    refine ⟨hn, rows, gives_items hrows (fun e he => Nat.le_trans (h.nesting e he) hn) ?_, rfl⟩
    exact fun row hrow i hi => hb i (List.mem_flatten_of_mem hrow hi)
  · rintro ⟨hn, rows, hrows, rfl⟩
    refine ⟨hn, (h.eval _).2 ⟨rows, hrows.imp fun e row hg => hg.value, rfl⟩, ?_, rfl⟩
    intro i hi
    obtain ⟨row, hrow, hi⟩ := List.mem_flatten.1 hi
    obtain ⟨e, -, hg⟩ := exists_of_forall₂ hrows.flip row hrow
    exact hg.bound i hi

/-- A term without a name resolves as the pieces that it is joined from, unless it is nested too deep. -/
theorem resolve_joins_iff [Pattern.Engine] {catalog : Catalog} {options : Options} {before after : List Term}
    {whole : Expr} {pieces : List Expr} (h : whole.Joins catalog pieces) {mapping : Mapping} :
    resolve catalog options (before ++ ⟨none, whole⟩ :: after) = .ok mapping ↔
      whole.nesting ≤ maxNesting ∧
        resolve catalog options (before ++ pieces.map (⟨none, ·⟩) ++ after) = .ok mapping := by
  have hone : before ++ ⟨none, whole⟩ :: after = before ++ [whole].map (⟨none, ·⟩) ++ after := by simp
  rw [hone]
  constructor
  · intro hm
    refine ⟨?_, resolve_replace (fun rs hr => ?_) hm⟩
    · obtain ⟨_, hr, -⟩ := resolve_eq_ok_iff.1 hm
      obtain ⟨r, -, hv⟩ := exists_of_forall₂ hr.evaluate ⟨none, whole⟩ (by simp)
      exact (Term.evaluate_eq_ok_iff.1 hv).nesting
    · obtain ⟨hk, _, _ | ⟨hg, _ | _⟩, rfl⟩ := resolves_unnamed_iff.1 hr
      obtain ⟨-, rows, hrows, rfl⟩ := (gives_joins_iff h).1 hg
      refine ⟨_, resolves_unnamed_iff.2 ⟨hk, rows, hrows, rfl⟩, ?_⟩
      simp only [flatMap_named_unnamed, List.flatten_singleton]
  · rintro ⟨hn, hm⟩
    refine resolve_replace (fun rs hr => ?_) hm
    obtain ⟨hk, rows, hrows, rfl⟩ := resolves_unnamed_iff.1 hr
    have hg := (gives_joins_iff h).2 ⟨hn, rows, hrows, rfl⟩
    refine ⟨_, resolves_unnamed_iff.2 ⟨hk, [rows.flatten], .cons hg .nil, rfl⟩, ?_⟩
    simp only [flatMap_named_unnamed, List.flatten_singleton]

/-- A list without a name selects what its items select as terms in its place, and a negated list what the
negated items select: the one resolves exactly when the others do and the list is not nested too deep, and
to the same mapping. -/
theorem resolve_list_term_iff [Pattern.Engine] (catalog : Catalog) (options : Options) (before after : List Term)
    (items : List Expr) (mapping : Mapping) :
    (resolve catalog options (before ++ ⟨none, .list items⟩ :: after) = .ok mapping ↔
      (Expr.list items).depth ≤ maxNesting ∧
        resolve catalog options (before ++ items.map (⟨none, ·⟩) ++ after) = .ok mapping) ∧
    (resolve catalog options (before ++ ⟨none, .negate (.list items)⟩ :: after) = .ok mapping ↔
      (Expr.negate (.list items)).depth ≤ maxNesting ∧
        resolve catalog options (before ++ items.map (fun e => ⟨none, .negate e⟩) ++ after) = .ok mapping) := by
  rw [Expr.depth_eq_nesting, Expr.depth_eq_nesting]
  refine ⟨resolve_joins_iff (Expr.joins_list catalog items), ?_⟩
  have hpieces : items.map (fun e => (⟨none, .negate e⟩ : Term)) = (items.map .negate).map (⟨none, ·⟩) := by
    rw [List.map_map]
    rfl
  rw [hpieces]
  exact resolve_joins_iff (Expr.joins_negate_list catalog items)

end ColumnSelect
