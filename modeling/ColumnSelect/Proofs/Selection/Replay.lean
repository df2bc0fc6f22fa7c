/-
What an explanation tells of a selection. Of one that is accepted it tells enough to replay it: each term
with its own result, the positions that these include and exclude, and whether all columns stood in for
none; from these and the options alone the columns of the result follow (`Replays`). Of one that is refused
it tells the error that the selection ends with, and nothing else (`Refused`). Main statement:
`replays_or_refused`.
-/
import ColumnSelect.Pattern.Standard
import ColumnSelect.Proofs.FirstOccurrence
import ColumnSelect.Proofs.Selection.Order
import ColumnSelect.Selection.Explain

namespace ColumnSelect

/-! ## The terms -/

theorem map_number_evaluatedFrom {R : Term → TermResult → Prop} {terms : List Term} {results : List TermResult}
    (h : List.Forall₂ R terms results) (number : Nat) :
    (evaluatedFrom number terms results).map Evaluated.number = List.range' number terms.length := by
  induction h generalizing number with
  | nil => rfl
  | cons _ _ ih => rw [evaluatedFrom, List.map_cons, ih, List.length_cons, List.range'_succ]

theorem forall₂_evaluatedFrom {R : Term → TermResult → Prop} {terms : List Term} {results : List TermResult}
    (h : List.Forall₂ R terms results) (number : Nat) :
    List.Forall₂ (fun t e => e.term = t ∧ R t e.result) terms (evaluatedFrom number terms results) := by
  induction h generalizing number with
  | nil => exact .nil
  | cons ht _ ih => exact .cons ⟨rfl, ht⟩ (ih (number + 1))

theorem flatMap_indices_evaluatedFrom {R : Term → TermResult → Prop} {terms : List Term}
    {results : List TermResult} (h : List.Forall₂ R terms results) (number : Nat) :
    (evaluatedFrom number terms results).flatMap (fun e => e.result.indices) = indicesOf results := by
  induction h generalizing number with
  | nil => rfl
  | cons _ _ ih => rw [evaluatedFrom, List.flatMap_cons, ih, indicesOf, indicesOf, List.flatMap_cons]

/-! ## The positions -/

/-- The positions included are the positive indices without their repetitions. -/
theorem map_fst_firstPositions (seen : List Nat) (as : List Assignment) :
    (firstPositions seen as).map Prod.fst =
      (((as.map Assignment.index).filter (0 < ·)).map Int.natAbs).eraseDups.filter fun p => !seen.contains p := by
  induction as generalizing seen with
  | nil => rfl
  | cons a as ih =>
    rw [firstPositions, List.map_cons]
    by_cases hpos : 0 < a.index
    · rw [List.filter_cons_of_pos (by simpa using hpos), List.map_cons, List.eraseDups_cons, eraseDups_filter]
      by_cases hseen : a.index.natAbs ∈ seen
      · rw [if_neg (by simp [hseen]), ih, List.filter_cons_of_neg (by simp [hseen]), List.filter_filter]
        -- what is not among those seen is not this position
        refine List.filter_congr fun p _ => ?_
        by_cases hp : p = a.index.natAbs <;> simp [hp, hseen]
      · rw [if_pos (by simp [hpos, hseen]), List.map_cons, ih, List.filter_cons_of_pos (by simp [hseen]),
          List.filter_filter]
        congr 1
        refine List.filter_congr fun p _ => ?_
        by_cases hp : p = a.index.natAbs <;> simp [hp]
    · rw [List.filter_cons_of_neg (by simpa using hpos), if_neg (by simp [hpos]), ih]

theorem pairwise_excludedPositions (columns : Nat) (as : List Assignment) :
    (excludedPositions columns as).Pairwise (· < ·) :=
  List.Pairwise.filter _ List.pairwise_lt_range'

/-- The positions excluded are those of negative indices. -/
theorem mem_excludedPositions_of_bound {columns : Nat} {results : List TermResult}
    (hb : ∀ r ∈ results, ∀ i ∈ r.indices, i ≠ 0 ∧ i.natAbs ≤ columns) (p : Nat) :
    p ∈ excludedPositions columns (results.flatMap TermResult.named) ↔
      ∃ i ∈ indicesOf results, i < 0 ∧ i.natAbs = p := by
  rw [mem_excludedPositions, map_index_flatMap_named]
  constructor
  · rintro ⟨hp, hi⟩
    exact ⟨_, hi, by omega, by omega⟩
  · rintro ⟨i, hi, hneg, rfl⟩
    obtain ⟨r, hr, hir⟩ := (mem_indicesOf _ _).1 hi
    have hbound := (hb r hr i hir).2
    refine ⟨by omega, ?_⟩
    rwa [show -(i.natAbs : Int) = i by omega]

/-- The sources of a mapping are the names of its positions. -/
theorem Reads.map_nameAt? {catalog : Catalog} {results : List TermResult} {positions : List Nat}
    {mapping : Mapping} (h : Reads catalog results positions mapping) :
    positions.map catalog.nameAt? = mapping.sources.map some := by
  unfold Reads at h
  induction h with
  | nil => rfl
  | cons he _ ih =>
    rw [List.map_cons, ih, he.1]
    rfl

/-- What the options do to the sources of a mapping follows from these. -/
theorem sources_adjust_congr (options : Options) {mapping mapping' : Mapping}
    (h : mapping.sources = mapping'.sources) : (options.adjust mapping).sources = (options.adjust mapping').sources := by
  rw [sources_adjust, sources_adjust, h]

/-! ## Explanations -/

namespace Explanation

/-- The indices of all terms in a row. -/
def indices (e : Explanation) : List Int := e.terms.flatMap fun item => item.result.indices

/-- The positions that the account leads to: those included, or all columns where these stand in for none,
without those excluded. -/
def positions (columns : Nat) (e : Explanation) : List Nat :=
  (if e.identityDefault then allPositions columns else e.included).filter fun p => !e.excluded.contains p

/-- The account of a selection that was resolved, from which the selection can be replayed. -/
structure Replays [Pattern.Engine] (catalog : Catalog) (options : Options) (terms : List Term)
    (e : Explanation) : Prop where
  /-- The terms have the numbers from 1 on. -/
  numbers : e.terms.map Evaluated.number = List.range' 1 terms.length
  /-- Each term is told with its own result and name. -/
  results : List.Forall₂ (fun t item => item.term = t ∧ t.evaluate catalog = .ok item.result ∧
    item.result.name = t.name) terms e.terms
  /-- The positive indices are included, each where it first occurs. -/
  included : e.included = ((e.indices.filter (0 < ·)).map Int.natAbs).eraseDups
  /-- The negative ones are excluded. -/
  mem_excluded : ∀ p, p ∈ e.excluded ↔ ∃ i ∈ e.indices, i < 0 ∧ i.natAbs = p
  ascending : e.excluded.Pairwise (· < ·)
  identityDefault : e.identityDefault = true ↔ e.included = []
  /-- The names at the positions, with the options applied, are the sources of the result. -/
  mapping : ∃ mapping names, resolve catalog options terms = .ok mapping ∧ e.mapping? = some mapping ∧
    (e.positions catalog.length).map catalog.nameAt? = names.map some ∧
    mapping.sources = (options.adjust (.identity names)).sources
  code : e.code? = none
  reason : e.reason? = none

/-- The account of a selection that was refused, which tells its error only. -/
structure Refused [Pattern.Engine] (catalog : Catalog) (options : Options) (terms : List Term)
    (e : Explanation) : Prop where
  error : ∃ own, resolve catalog options terms = .error own ∧ e.code? = some own.code.text ∧
    e.reason? = some own.text
  terms : e.terms = []
  included : e.included = []
  excluded : e.excluded = []
  identityDefault : e.identityDefault = false
  mapping : e.mapping? = none

theorem sources_identity (names : List String) : (Mapping.identity names).sources = names := by
  rw [Mapping.identity, Mapping.sources, List.map_map]
  exact List.map_id names

theorem positions_resolutionOf (catalog : Catalog) (options : Options) (terms : List Term)
    (results : List TermResult) :
    positions catalog.length (accepted (resolutionOf catalog options terms results)) =
      (keptPositions catalog.length (results.flatMap TermResult.named)).map Prod.fst := by
  rw [map_fst_keptPositions]
  show ((if _ then _ else _) : List Nat).filter _ = _
  congr 1
  unfold takenPositions
  show (if (firstPositions [] _).isEmpty then _ else _) = _
  split
  · rw [List.map_map, Function.comp_def, List.map_id']
  · rfl

theorem replays_of_resolves [Pattern.Engine] {catalog : Catalog} {options : Options} {terms : List Term}
    {results : List TermResult} (h : Resolves catalog options terms results) :
    Replays catalog options terms (accepted (resolutionOf catalog options terms results)) := by
  have hindices : indices (accepted (resolutionOf catalog options terms results)) = indicesOf results :=
    flatMap_indices_evaluatedFrom h.evaluate 1
  have hreads := (keptPositions_reads h.bound).map_nameAt?
  refine {
    numbers := map_number_evaluatedFrom h.evaluate 1
    results := ?_
    included := ?_
    mem_excluded := fun p => ?_
    ascending := pairwise_excludedPositions _ _
    identityDefault := ?_
    mapping := ?_
    code := rfl
    reason := rfl }
  · refine (forall₂_evaluatedFrom h.evaluate 1).imp fun t item hitem => ?_
    exact ⟨hitem.1, hitem.2, (Term.evaluate_eq_ok_iff.1 hitem.2).name⟩
  · show (firstPositions [] _).map Prod.fst = _
    rw [hindices, map_fst_firstPositions, map_index_flatMap_named]
    exact List.filter_eq_self.2 fun _ _ => rfl
  · rw [hindices]
    exact mem_excludedPositions_of_bound h.bound p
  · show (firstPositions [] _).isEmpty = true ↔ (firstPositions [] _).map Prod.fst = []
    rw [List.isEmpty_iff, List.map_eq_nil_iff]
  · refine ⟨_, (mappingOf catalog results).sources, resolve_eq_ok_iff.2 ⟨results, h, rfl⟩, rfl, ?_, ?_⟩
    · rw [positions_resolutionOf]
      exact hreads
    · exact sources_adjust_congr options (sources_identity _).symm

end Explanation

/-- An explanation that is accepted tells each term with its own result under its number, the positions that
the results include and exclude, and whether all columns stood in for none, and from these and the options
the columns of the result follow. An explanation that is not accepted tells the error of the selection. -/
theorem replays_or_refused [Pattern.Engine] {catalog : Catalog} {options : Options} {terms : List Term}
    {e : Explanation} (h : Explanation.ofOutcome (resolution catalog options terms) = e) :
    (e.isAccepted = true → e.Replays catalog options terms) ∧
      (e.isAccepted = false → e.Refused catalog options terms) := by
  subst h
  cases hr : resolution catalog options terms with
  | ok r =>
    obtain ⟨results, hresolves, rfl⟩ := resolution_eq_ok_iff.1 hr
    exact ⟨fun _ => Explanation.replays_of_resolves hresolves, nofun⟩
  | error own =>
    have hresolve : resolve catalog options terms = .error own := map_eq_error_iff.2 hr
    exact ⟨nofun, fun _ => ⟨⟨own, hresolve, rfl, rfl⟩, rfl, rfl, rfl, rfl, rfl⟩⟩

/-- A position that is included twice and one that is excluded again; the column of the latter is kept by
the options. Without the first term all columns stand in for none. A term that fails leaves its error. -/
theorem replays_or_refused_repeated :
    (Explanation.ofOutcome (resolution ["a", "b", "c"] ⟨["c"], [], .numbered⟩
        [⟨some "x", .list [.column "b", .int 3, .column "b"]⟩, ⟨none, .negate (.column "c")⟩])).Replays
        ["a", "b", "c"] ⟨["c"], [], .numbered⟩
        [⟨some "x", .list [.column "b", .int 3, .column "b"]⟩, ⟨none, .negate (.column "c")⟩] ∧
      (Explanation.ofOutcome (resolution ["a", "b", "c"] ⟨["c"], [], .numbered⟩
        [⟨none, .negate (.column "c")⟩])).Replays ["a", "b", "c"] ⟨["c"], [], .numbered⟩
          [⟨none, .negate (.column "c")⟩] ∧
      (Explanation.ofOutcome (resolution ["a", "b", "c"] ⟨["c"], [], .numbered⟩
        [⟨none, .column "a"⟩, ⟨none, .int 4⟩])).Refused ["a", "b", "c"] ⟨["c"], [], .numbered⟩
          [⟨none, .column "a"⟩, ⟨none, .int 4⟩] :=
  ⟨(replays_or_refused rfl).1 (by decide +kernel), (replays_or_refused rfl).1 (by decide +kernel),
    (replays_or_refused rfl).2 (by decide +kernel)⟩

end ColumnSelect
