/-
The columns that a selection reads are columns of the catalog, none more often than it is there: the
sources are some of the names of the catalog in another order. Positions are taken once each, while the
options go by names; as a name is only put in front where no position of that name is taken, the two
never add up to more than there is. Along a chain of selections and renames there are therefore never
more columns than before. Main statement: `count_sources_le`.
-/
import ColumnSelect.Pattern.Standard
import ColumnSelect.Proofs.Catalog
import ColumnSelect.Proofs.Selection.Options
import ColumnSelect.Proofs.Selection.Order
import ColumnSelect.Proofs.Selection.Rename
import Mathlib.Data.List.Perm.Subperm

namespace ColumnSelect

/-! ## Sources -/

/-- Positions are taken at most once each. -/
theorem sources_mappingOf_subperm {catalog : Catalog} {results : List TermResult}
    (hb : ∀ r ∈ results, ∀ i ∈ r.indices, i ≠ 0 ∧ i.natAbs ≤ catalog.length) :
    (mappingOf catalog results).sources.Subperm catalog := by
  have hs := keptPositions_selects hb
  obtain ⟨positions, hp, hsub⟩ : List.Subperm _ (allPositions catalog.length) :=
    List.subperm_of_subset hs.nodup fun p hp => (mem_allPositions _ _).2 ((hs.mem p).1 hp).1
  have hsub := hsub.filterMap catalog.nameAt?
  rw [filterMap_nameAt?_allPositions] at hsub
  rw [mappingOf, sources_entriesAt]
  exact ⟨_, hp.filterMap _, hsub⟩

/-- What is put in front of a mapping it does not read yet, so no name comes too often. -/
theorem sources_adjust_subperm {catalog : Catalog} {options : Options} {mapping : Mapping}
    (hk : ∀ name ∈ options.keep ++ options.leave, name ∈ catalog) (h : mapping.sources.Subperm catalog) :
    (options.adjust mapping).sources.Subperm catalog := by
  obtain ⟨names, hn, hm⟩ := Options.adjust_eq_iff.1 (Eq.refl (options.adjust mapping))
  rw [← hm, sources_inFront_append]
  have hrest : (mapping.sources.filter (· ∉ options.leave)).Sublist mapping.sources := List.filter_sublist
  rw [List.subperm_ext_iff]
  intro name _
  rw [List.count_append]
  by_cases hmem : name ∈ names
  · -- the mapping does not read the name, so it is there once only
    obtain ⟨hkeep, hnew, -⟩ := (hn.mem name).1 hmem
    have hone : names.count name ≤ 1 := List.nodup_iff_count_le_one.1 hn.nodup name
    have hnone : (mapping.sources.filter (· ∉ options.leave)).count name = 0 :=
      List.count_eq_zero.2 fun hin => hnew (hrest.subset hin)
    have hin : 0 < catalog.count name := List.count_pos_iff.2 (hk name (List.mem_append_left _ hkeep))
    omega
  · have hnone : names.count name = 0 := List.count_eq_zero.2 hmem
    have hle := hrest.count_le name
    have hcat := h.count_le name
    omega

/-- The sources of a selection are some names of the catalog. -/
theorem sources_resolve_subperm [Pattern.Engine] {catalog : Catalog} {options : Options} {terms : List Term}
    {mapping : Mapping} (h : resolve catalog options terms = .ok mapping) :
    mapping.sources.Subperm catalog := by
  obtain ⟨results, hr, rfl⟩ := resolve_eq_ok_iff.1 h
  exact sources_adjust_subperm hr.known (sources_mappingOf_subperm hr.bound)

/-! ## Chains -/

/-- A step of a chain: a selection or a rename. -/
inductive Step where
  | select (options : Options) (terms : List Term)
  | rename (terms : List Term)

/-- The mapping of a step. -/
def Step.mapping [Pattern.Engine] (catalog : Catalog) : Step → Except Error Mapping
  | select options terms => resolve catalog options terms
  | rename terms => ColumnSelect.rename catalog terms

/-- The catalog after a step: the output names of its mapping. A step that fails leaves the catalog. -/
def Step.after [Pattern.Engine] (catalog : Catalog) (step : Step) : Catalog :=
  match step.mapping catalog with
  | .ok mapping => mapping.outputs
  | .error _ => catalog

/-- The catalog after the steps of a chain. -/
def catalogAfter [Pattern.Engine] (catalog : Catalog) (steps : List Step) : Catalog := steps.foldl Step.after catalog

theorem catalogAfter_append [Pattern.Engine] (catalog : Catalog) (steps others : List Step) :
    catalogAfter catalog (steps ++ others) = catalogAfter (catalogAfter catalog steps) others :=
  List.foldl_append

/-- A step selects or renames columns that are there. -/
theorem Step.sources_subperm [Pattern.Engine] {catalog : Catalog} {step : Step} {mapping : Mapping}
    (h : step.mapping catalog = .ok mapping) : mapping.sources.Subperm catalog := by
  cases step with
  | select options terms => exact sources_resolve_subperm h
  | rename terms => exact (sources_rename h) ▸ List.Subperm.refl _

theorem Step.length_after_le [Pattern.Engine] (catalog : Catalog) (step : Step) :
    (step.after catalog).length ≤ catalog.length := by
  unfold after
  cases hm : step.mapping catalog with
  | error e => exact Nat.le_refl _
  | ok mapping =>
    have hle := (Step.sources_subperm hm).length_le
    simpa [Mapping.outputs, Mapping.sources] using hle

theorem length_catalogAfter_le [Pattern.Engine] (catalog : Catalog) (steps : List Step) :
    (catalogAfter catalog steps).length ≤ catalog.length := by
  induction steps generalizing catalog with
  | nil => exact Nat.le_refl _
  | cons step steps ih => exact Nat.le_trans (ih _) (step.length_after_le catalog)

/-- A selection reads no column that is not in the catalog, and none more often than it is there; so it
has at most as many columns, and different ones where the names of the catalog are different. Along a
chain of selections and renames there are never more columns than before. -/
theorem count_sources_le [Pattern.Engine] (catalog : Catalog) :
    (∀ options terms mapping, resolve catalog options terms = .ok mapping →
      (∀ name, mapping.sources.count name ≤ catalog.count name) ∧
        (∀ name ∈ mapping.sources, name ∈ catalog) ∧ mapping.length ≤ catalog.length ∧
          (catalog.Nodup → mapping.sources.Nodup)) ∧
    ∀ steps others, (catalogAfter catalog (steps ++ others)).length ≤ (catalogAfter catalog steps).length := by
  refine ⟨fun options terms mapping h => ?_, fun steps others => ?_⟩
  · have hs := sources_resolve_subperm h
    refine ⟨hs.count_le, fun name hname => hs.subset hname, ?_, fun hc => ?_⟩
    · have hle := hs.length_le
      rwa [Mapping.sources, List.length_map] at hle
    · refine List.nodup_iff_count_le_one.2 fun name => ?_
      exact Nat.le_trans (hs.count_le name) (List.nodup_iff_count_le_one.1 hc name)
  · rw [catalogAfter_append]
    exact length_catalogAfter_le _ others

/-- Both columns `a` are read, and the columns that are kept fill up the catalog, one of them against a
term that excludes it; a rename then keeps what is there. -/
theorem count_sources_le_repeated :
    resolve ["a", "b", "a", "g"] ⟨["g", "b", "g"], [], .numbered⟩
        [⟨some "x", .list [.int 3, .column "a"]⟩, ⟨none, .negate (.column "b")⟩] =
          .ok [⟨"g", "g"⟩, ⟨"b", "b"⟩, ⟨"x1", "a"⟩, ⟨"x2", "a"⟩] ∧
      Mapping.sources [⟨"g", "g"⟩, ⟨"b", "b"⟩, ⟨"x1", "a"⟩, ⟨"x2", "a"⟩] = ["g", "b", "a", "a"] ∧
      (∀ name, ["g", "b", "a", "a"].count name ≤ ["a", "b", "a", "g"].count name) ∧
      catalogAfter ["a", "b", "a", "g"] [.select ⟨["g"], ["b"], .numbered⟩ [⟨none, .column "a"⟩],
        .rename [⟨some "a", .column "g"⟩], .rename [⟨some "x", .column "b"⟩]] = ["a", "a"] ∧
      (catalogAfter ["a", "b", "a", "g"] ([.select ⟨["g"], ["b"], .numbered⟩ [⟨none, .column "a"⟩]] ++
        [.rename [⟨some "a", .column "g"⟩], .rename [⟨some "x", .column "b"⟩]])).length ≤
          (catalogAfter ["a", "b", "a", "g"]
            [.select ⟨["g"], ["b"], .numbered⟩ [⟨none, .column "a"⟩]]).length := by
  have hm : resolve ["a", "b", "a", "g"] ⟨["g", "b", "g"], [], .numbered⟩
      [⟨some "x", .list [.int 3, .column "a"]⟩, ⟨none, .negate (.column "b")⟩] =
        .ok [⟨"g", "g"⟩, ⟨"b", "b"⟩, ⟨"x1", "a"⟩, ⟨"x2", "a"⟩] := by
    decide +kernel
  obtain ⟨hselect, hchain⟩ := count_sources_le ["a", "b", "a", "g"]
  exact ⟨hm, rfl, (hselect _ _ _ hm).1, by decide +kernel, hchain _ _⟩

end ColumnSelect
