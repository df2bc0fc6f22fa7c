/-
When a selection succeeds, and with which mapping. A term by itself gives a result exactly when it is
not nested too deep and evaluates to positions of the catalog (`Term.evaluate_eq_ok_iff`). Terms
resolve exactly when each gives a result, the policy takes all of these, and the options name columns
of the catalog; the resolution follows from the results and the options (`resolution_eq_ok_iff`), and so
does its mapping (`resolve_eq_ok_iff`).
-/
import ColumnSelect.Proofs.Catalog
import ColumnSelect.Proofs.Expr.Depth
import ColumnSelect.Proofs.Selection.Resolution

namespace ColumnSelect

/-! ## One term -/

/-- A term gives a result: its expression is not nested too deep and has these positions, all of the
catalog. -/
structure Term.Gives [Pattern.Engine] (catalog : Catalog) (t : Term) (r : TermResult) : Prop where
  nesting : t.expr.nesting ≤ maxNesting
  value : t.expr.eval catalog = .ok (.ints r.indices)
  bound : ∀ i ∈ r.indices, i ≠ 0 ∧ i.natAbs ≤ catalog.length
  name : r.name = t.name

theorem firstOutside?_eq_none_iff {columns : Nat} {indices : List Int} :
    firstOutside? columns indices = none ↔ ∀ i ∈ indices, i ≠ 0 ∧ i.natAbs ≤ columns := by
  simp [firstOutside?, List.find?_eq_none]

theorem Term.evaluate_eq_ok_iff [Pattern.Engine] {catalog : Catalog} {t : Term} {r : TermResult} :
    t.evaluate catalog = .ok r ↔ t.Gives catalog r := by
  unfold Term.evaluate
  rw [bind_eq_ok_iff]
  constructor
  · rintro ⟨⟨⟩, hd, h⟩
    obtain ⟨v, hv, h⟩ := bind_eq_ok_iff.1 h
    cases v with
    | ints indices =>
      simp only at h
      split at h
      · cases h
      · rename_i hf
        cases h
        exact ⟨Expr.checkDepth_eq_ok_iff.1 hd, hv, firstOutside?_eq_none_iff.1 hf, rfl⟩
    | _ => cases h
  · rintro ⟨hn, hv, hb, hr⟩
    refine ⟨(), Expr.checkDepth_eq_ok_iff.2 hn, bind_eq_ok_iff.2 ⟨_, hv, ?_⟩⟩
    obtain ⟨indices, name⟩ := r
    simp only at hr hb ⊢
    rw [firstOutside?_eq_none_iff.2 hb, hr]
    rfl

theorem checkDepth_column (name : String) : (Expr.column name).checkDepth = .ok () :=
  Expr.checkDepth_eq_ok_iff.2 (by simp [Expr.nesting, maxNesting])

theorem bound_of_mem_singleton {columns : Nat} {i : Int} (h : 1 ≤ i ∧ i ≤ columns) :
    ∀ j ∈ [i], j ≠ 0 ∧ j.natAbs ≤ columns := by
  intro j hj
  rw [List.mem_singleton.1 hj]
  omega

/-- A column that no matcher hides evaluates to its position, or fails like the look-up of its name. -/
theorem Term.evaluate_column [Pattern.Engine] {catalog : Catalog} {column : String}
    (h : Matcher.ofName? column = none) (name : Option String) : (⟨name, .column column⟩ : Term).evaluate catalog =
      (catalog.position column).map fun p => ⟨[(p : Int)], name⟩ := by
  have hvalue : (Expr.column column).eval catalog = (catalog.position column).map fun p => .ints [(p : Int)] := by
    rw [Expr.eval, Expr.columnValue, Catalog.lookup?, h, Catalog.position]
    cases catalog.position? column <;> rfl
  cases hp : catalog.position? column with
  | none =>
    rw [Catalog.position, hp] at hvalue ⊢
    rw [Term.evaluate, checkDepth_column, hvalue]
    rfl
  | some p =>
    rw [Catalog.position, hp] at hvalue ⊢
    -- a position that was looked up is in the catalog, so the check of the bounds passes
    have hbound := bound_of_nameAt? (position?_eq_some_iff.1 hp).1
    refine Term.evaluate_eq_ok_iff.2 ⟨Expr.checkDepth_eq_ok_iff.1 (checkDepth_column column), hvalue, ?_, rfl⟩
    exact bound_of_mem_singleton (by omega)

/-- A column that a matcher hides gives no result. -/
theorem ofName?_eq_none_of_evaluate_column [Pattern.Engine] {catalog : Catalog} {column : String}
    {name : Option String} {r : TermResult} (h : (⟨name, .column column⟩ : Term).evaluate catalog = .ok r) :
    Matcher.ofName? column = none := by
  have hvalue : Expr.columnValue catalog column = .ok (.ints r.indices) := (Term.evaluate_eq_ok_iff.1 h).value
  unfold Expr.columnValue Catalog.lookup? at hvalue
  cases ho : Matcher.ofName? column with
  | none => rfl
  | some m =>
    rw [ho] at hvalue
    cases hvalue

/-! ## Options -/

theorem position?_eq_none_iff {catalog : Catalog} {name : String} :
    catalog.position? name = none ↔ name ∉ catalog := by
  simp only [Catalog.position?, Option.map_eq_none_iff, List.findIdx?_eq_none_iff, beq_eq_false_iff_ne]
  constructor
  · intro h hm
    exact h name hm rfl
  · rintro h x hx rfl
    exact h hx

theorem unknownName?_eq {catalog : Catalog} {names : List String} :
    unknownName? catalog names = names.find? (· ∉ catalog) := by
  unfold unknownName?
  congr 1
  funext name
  rw [Bool.eq_iff_iff, Option.isNone_iff_eq_none, position?_eq_none_iff, decide_eq_true_iff]

theorem unknownName?_eq_none_iff {catalog : Catalog} {names : List String} :
    unknownName? catalog names = none ↔ ∀ name ∈ names, name ∈ catalog := by
  simp [unknownName?_eq, List.find?_eq_none]

theorem Options.apply_eq_ok_iff {options : Options} {catalog : Catalog} {mapping adjusted : Mapping} :
    options.apply catalog mapping = .ok adjusted ↔
      (∀ name ∈ options.keep ++ options.leave, name ∈ catalog) ∧ options.adjust mapping = adjusted := by
  rw [← unknownName?_eq_none_iff, Options.apply]
  cases unknownName? catalog (options.keep ++ options.leave) <;> simp

/-! ## All terms -/

/-- The mapping of the results of terms before the options apply. -/
def mappingOf (catalog : Catalog) (results : List TermResult) : Mapping :=
  entriesAt catalog (keptPositions catalog.length (results.flatMap TermResult.named))

/-- The terms resolve with these results. -/
structure Resolves [Pattern.Engine] (catalog : Catalog) (options : Options) (terms : List Term)
    (results : List TermResult) : Prop where
  evaluate : List.Forall₂ (fun t r => t.evaluate catalog = .ok r) terms results
  takes : ∀ r ∈ results, options.multiRename.Takes r
  known : ∀ name ∈ options.keep ++ options.leave, name ∈ catalog

theorem forall₂_of_evaluateTerms [Pattern.Engine] {catalog : Catalog} {policy : MultiRename} {number : Nat}
    {terms : List Term} {es : List Evaluated} (h : evaluateTerms catalog policy number terms = (es, none)) :
    ∃ results, List.Forall₂ (fun t r => t.evaluate catalog = .ok r) terms results := by
  induction terms generalizing number es with
  | nil => exact ⟨[], .nil⟩
  | cons t ts ih =>
    rw [evaluateTerms] at h
    split at h
    · cases h
    · rename_i first hf
      rcases ho : evaluateTerms catalog policy (number + 1) ts with ⟨others, failure⟩
      rw [ho] at h
      cases h
      obtain ⟨rs, hrs⟩ := ih ho
      obtain ⟨r, hr, -⟩ := bind_eq_ok_iff.1 (mapError_eq_ok_iff.1 hf)
      exact ⟨r :: rs, .cons hr hrs⟩

/-- The resolution of terms with these results. -/
def resolutionOf (catalog : Catalog) (options : Options) (terms : List Term) (results : List TermResult) :
    Resolution where
  terms := evaluatedFrom 1 terms results
  included := (firstPositions [] (results.flatMap TermResult.named)).map Prod.fst
  excluded := excludedPositions catalog.length (results.flatMap TermResult.named)
  identityDefault := (firstPositions [] (results.flatMap TermResult.named)).isEmpty
  mapping := options.adjust (mappingOf catalog results)

theorem reduce_evaluatedFrom_eq_ok_iff [Pattern.Engine] {catalog : Catalog} {options : Options} {terms : List Term}
    {results : List TermResult} (h : List.Forall₂ (fun t r => t.evaluate catalog = .ok r) terms results)
    {r : Resolution} : reduce catalog options (evaluatedFrom 1 terms results) = .ok r ↔
      (∀ name ∈ options.keep ++ options.leave, name ∈ catalog) ∧ resolutionOf catalog options terms results = r := by
  unfold reduce
  rw [flatMap_evaluatedFrom 1 h]
  show (options.apply catalog (mappingOf catalog results) >>= _) = _ ↔ _
  rw [bind_eq_ok_iff]
  constructor
  · rintro ⟨mapping, hm, hr⟩
    obtain ⟨hk, rfl⟩ := Options.apply_eq_ok_iff.1 hm
    cases hr
    exact ⟨hk, rfl⟩
  · rintro ⟨hk, rfl⟩
    exact ⟨_, Options.apply_eq_ok_iff.2 ⟨hk, rfl⟩, rfl⟩

/-- Terms resolve when each of them gives a result that the policy takes and the options name known
columns. All of the resolution follows from the results. -/
theorem resolution_eq_ok_iff [Pattern.Engine] {catalog : Catalog} {options : Options} {terms : List Term}
    {r : Resolution} :
    resolution catalog options terms = .ok r ↔
      ∃ results, Resolves catalog options terms results ∧ resolutionOf catalog options terms results = r := by
  unfold resolution
  constructor
  · intro h
    rcases he : evaluateTerms catalog options.multiRename 1 terms with ⟨es, _ | e⟩
    · rw [he] at h
      obtain ⟨results, hr⟩ := forall₂_of_evaluateTerms he
      obtain ⟨ht, rfl⟩ := (evaluateTerms_eq_iff hr _ _ _).1 he
      obtain ⟨hk, hr'⟩ := (reduce_evaluatedFrom_eq_ok_iff hr).1 h
      exact ⟨results, ⟨hr, ht, hk⟩, hr'⟩
    · rw [he] at h
      cases h
  · rintro ⟨results, ⟨hr, ht, hk⟩, hm⟩
    rw [(evaluateTerms_eq_iff hr options.multiRename 1 _).2 ⟨ht, rfl⟩]
    exact (reduce_evaluatedFrom_eq_ok_iff hr).2 ⟨hk, hm⟩

theorem resolve_eq_ok_iff [Pattern.Engine] {catalog : Catalog} {options : Options} {terms : List Term}
    {mapping : Mapping} :
    resolve catalog options terms = .ok mapping ↔
      ∃ results, Resolves catalog options terms results ∧
        options.adjust (mappingOf catalog results) = mapping := by
  rw [resolve, map_eq_ok_iff]
  simp only [resolution_eq_ok_iff]
  constructor
  · rintro ⟨_, ⟨results, hr, rfl⟩, hm⟩
    exact ⟨results, hr, hm⟩
  · rintro ⟨results, hr, hm⟩
    exact ⟨_, ⟨results, hr, rfl⟩, hm⟩

end ColumnSelect
