/-
What the order of the terms decides. Whether terms resolve and which columns they select does not
depend on their order; in which order and under which names, the terms that include a position decide
by their own order alone. Main statement: `resolve_perm`.
-/
import ColumnSelect.Pattern.Standard
import ColumnSelect.Proofs.Selection.Success
import Mathlib.Data.List.Perm.Basic

namespace ColumnSelect

/-! ## Results in another order -/

/-- Terms in another order resolve with the same results in that order. -/
theorem Resolves.perm [Pattern.Engine] {catalog : Catalog} {options : Options} {terms terms' : List Term}
    {results : List TermResult} (h : Resolves catalog options terms results) (hp : terms.Perm terms') :
    ∃ results', Resolves catalog options terms' results' ∧ results'.Perm results := by
  obtain ⟨results', he, hr⟩ := List.perm_comp_forall₂ hp.symm h.evaluate
  exact ⟨results', ⟨he, fun r hm => h.takes r (hr.subset hm), h.known⟩, hr⟩

theorem Resolves.bound [Pattern.Engine] {catalog : Catalog} {options : Options} {terms : List Term}
    {results : List TermResult} (h : Resolves catalog options terms results) :
    ∀ r ∈ results, ∀ i ∈ r.indices, i ≠ 0 ∧ i.natAbs ≤ catalog.length :=
  bound_of_evaluate h.evaluate

/-- Terms evaluate to one list of results, whatever the options are. -/
theorem results_unique [Pattern.Engine] {catalog : Catalog} {terms : List Term} {results results' : List TermResult}
    (h : List.Forall₂ (fun t r => t.evaluate catalog = .ok r) terms results)
    (h' : List.Forall₂ (fun t r => t.evaluate catalog = .ok r) terms results') : results = results' :=
  List.right_unique_forall₂' (fun _ _ _ hr hr' => Except.ok.inj (hr.symm.trans hr')) h h'

theorem Resolves.unique [Pattern.Engine] {catalog : Catalog} {options : Options} {terms : List Term}
    {results results' : List TermResult} (h : Resolves catalog options terms results)
    (h' : Resolves catalog options terms results') : results = results' :=
  results_unique h.evaluate h'.evaluate

/-! ## Sources -/

theorem sources_entriesAt (catalog : Catalog) (positions : List (Nat × Option String)) :
    (entriesAt catalog positions).sources = (positions.map Prod.fst).filterMap catalog.nameAt? := by
  induction positions with
  | nil => rfl
  | cons p positions ih =>
    obtain ⟨p, name⟩ := p
    cases hn : catalog.nameAt? p <;> simp_all [entriesAt, Mapping.sources]

theorem sources_adjust (options : Options) (mapping : Mapping) :
    (options.adjust mapping).sources =
      ((options.keep.filter fun name => !mapping.sources.contains name).eraseDups ++ mapping.sources).filter
        fun source => !options.leave.contains source := by
  have hs (names : List String) : (names.map Entry.same).map Entry.source = names := by
    rw [List.map_map]
    exact List.map_id names
  simp only [Options.adjust, Mapping.sources]
  conv_rhs => rw [← hs ((options.keep.filter _).eraseDups), ← List.map_append, List.filter_map]
  rfl

/-- Results in another order select the same columns. -/
theorem sources_mappingOf_perm {catalog : Catalog} {results results' : List TermResult}
    (hb : ∀ r ∈ results, ∀ i ∈ r.indices, i ≠ 0 ∧ i.natAbs ≤ catalog.length) (hp : results'.Perm results) :
    (mappingOf catalog results').sources.Perm (mappingOf catalog results).sources := by
  rw [mappingOf, mappingOf, sources_entriesAt, sources_entriesAt]
  have hs := keptPositions_selects hb
  have hs' := keptPositions_selects fun r hr => hb r (hp.subset hr)
  refine ((List.perm_ext_iff_of_nodup hs'.nodup hs.nodup).2 fun p => ?_).filterMap _
  rw [hs.mem, hs'.mem]
  simp only [IsSelected, hp.mem_iff]

theorem sources_adjust_perm (options : Options) {mapping mapping' : Mapping}
    (h : mapping'.sources.Perm mapping.sources) :
    (options.adjust mapping').sources.Perm (options.adjust mapping).sources := by
  rw [sources_adjust, sources_adjust]
  have hc : (fun name => !mapping'.sources.contains name) = fun name => !mapping.sources.contains name := by
    funext name
    rw [h.contains_eq]
  rw [hc]
  exact (h.append_left _).filter _

/-! ## Terms that include a position -/

/-- The result includes a position. -/
def TermResult.includes (r : TermResult) : Bool := r.indices.any (0 < ·)

/-- The term by itself includes a position. -/
def Term.includes [Pattern.Engine] (catalog : Catalog) (t : Term) : Bool :=
  match t.evaluate catalog with
  | .ok r => r.includes
  | .error _ => false

/-- Only positive positions are kept. -/
theorem firstPositions_filter (seen : List Nat) (as : List Assignment) :
    firstPositions seen (as.filter fun a => 0 < a.index) = firstPositions seen as := by
  induction as generalizing seen with
  | nil => rfl
  | cons a as ih =>
    by_cases h : 0 < a.index
    · rw [List.filter_cons_of_pos (by simpa using h), firstPositions, firstPositions, ih, ih]
    · rw [List.filter_cons_of_neg (by simpa using h), ih, firstPositions, if_neg (by simp [h])]

theorem filter_named_of_not_includes {r : TermResult} (h : r.includes = false) :
    (r.named.filter fun a => 0 < a.index) = [] := by
  rw [List.filter_eq_nil_iff]
  intro a ha
  have hi : a.index ∈ r.indices := by
    rw [← r.map_index_namedFrom 0 r.indices]
    exact List.mem_map_of_mem ha
  simpa using List.any_eq_false.1 h a.index hi

/-- Results that include no position add nothing to the positive assignments. -/
theorem filter_flatMap_named (results : List TermResult) :
    (((results.filter TermResult.includes).flatMap TermResult.named).filter fun a => 0 < a.index) =
      (results.flatMap TermResult.named).filter fun a => 0 < a.index := by
  induction results with
  | nil => rfl
  | cons r rs ih =>
    cases h : r.includes with
    | true => rw [List.filter_cons_of_pos h, List.flatMap_cons, List.flatMap_cons, List.filter_append, ih,
        List.filter_append]
    | false =>
      rw [List.filter_cons_of_neg (by simp [h]), ih, List.flatMap_cons, List.filter_append,
        filter_named_of_not_includes h, List.nil_append]

/-- The first positions and the excluded ones decide what is kept. -/
theorem keptPositions_congr {columns : Nat} {as as' : List Assignment}
    (hf : firstPositions [] as = firstPositions [] as')
    (hx : ∀ i, i ∈ as.map Assignment.index ↔ i ∈ as'.map Assignment.index) :
    keptPositions columns as = keptPositions columns as' := by
  have he (p : Nat) : (excludedPositions columns as).contains p = (excludedPositions columns as').contains p := by
    rw [Bool.eq_iff_iff, List.contains_iff_mem, List.contains_iff_mem, mem_excludedPositions,
      mem_excludedPositions, hx]
  simp only [keptPositions, takenPositions, hf, he]

/-- Results in another order give the same mapping if those that include a position keep theirs. -/
theorem mappingOf_eq {catalog : Catalog} {results results' : List TermResult} (hp : results'.Perm results)
    (h : results'.filter TermResult.includes = results.filter TermResult.includes) :
    mappingOf catalog results' = mappingOf catalog results := by
  rw [mappingOf, mappingOf, keptPositions_congr]
  · rw [← firstPositions_filter, ← filter_flatMap_named, h, filter_flatMap_named, firstPositions_filter]
  · intro i
    exact ((hp.flatMap_right _).map _).mem_iff

/-- The terms that include a position are those whose results do. -/
theorem forall₂_filter_includes [Pattern.Engine] {catalog : Catalog} {terms : List Term} {results : List TermResult}
    (h : List.Forall₂ (fun t r => t.evaluate catalog = .ok r) terms results) :
    List.Forall₂ (fun t r => t.evaluate catalog = .ok r) (terms.filter (·.includes catalog))
      (results.filter TermResult.includes) := by
  induction h with
  | nil => exact .nil
  | @cons t r ts rs ht _ ih =>
    have hi : t.includes catalog = r.includes := by rw [Term.includes, ht]
    rw [List.filter_cons, List.filter_cons, hi]
    split
    · exact .cons ht ih
    · exact ih

/-! ## The order of the terms -/

/-- Terms in another order resolve as well, and select the same columns. Where those that include a
position keep their order among themselves, the mapping is the same. -/
theorem resolve_perm [Pattern.Engine] {catalog : Catalog} {options : Options} {terms terms' : List Term}
    (h : terms.Perm terms') :
    ((∃ m, resolve catalog options terms = .ok m) ↔ ∃ m, resolve catalog options terms' = .ok m) ∧
      ∀ m m', resolve catalog options terms = .ok m → resolve catalog options terms' = .ok m' →
        m.sources.Perm m'.sources ∧
          (terms.filter (·.includes catalog) = terms'.filter (·.includes catalog) → m = m') := by
  have hres {ts ts' : List Term} (hp : ts.Perm ts') (hm : ∃ m, resolve catalog options ts = .ok m) :
      ∃ m, resolve catalog options ts' = .ok m := by
    obtain ⟨m, hm⟩ := hm
    obtain ⟨results, hr, -⟩ := resolve_eq_ok_iff.1 hm
    obtain ⟨results', hr', -⟩ := hr.perm hp
    exact ⟨_, resolve_eq_ok_iff.2 ⟨results', hr', rfl⟩⟩
  refine ⟨⟨hres h, hres h.symm⟩, ?_⟩
  intro m m' hm hm'
  obtain ⟨results, hr, rfl⟩ := resolve_eq_ok_iff.1 hm
  obtain ⟨results', hr', rfl⟩ := resolve_eq_ok_iff.1 hm'
  obtain ⟨permuted, hr'', hp⟩ := hr'.perm h.symm
  rw [hr''.unique hr] at hp
  refine ⟨sources_adjust_perm options (sources_mappingOf_perm hr'.bound hp), fun ho => ?_⟩
  have hf := forall₂_filter_includes hr.evaluate
  have hf' := forall₂_filter_includes hr'.evaluate
  rw [ho] at hf
  rw [mappingOf_eq hp (results_unique hf hf')]

/-- A term that excludes moves in front of one that includes, which leaves the mapping as it is. -/
theorem resolve_perm_excluding :
    resolve ["a", "b", "c"] ⟨["c"], [], .numbered⟩
        [⟨some "x", .list [.column "c", .column "a"]⟩, ⟨none, .column "b"⟩, ⟨none, .negate (.column "c")⟩] =
          .ok [⟨"c", "c"⟩, ⟨"x2", "a"⟩, ⟨"b", "b"⟩] ∧
      resolve ["a", "b", "c"] ⟨["c"], [], .numbered⟩
        [⟨some "x", .list [.column "c", .column "a"]⟩, ⟨none, .negate (.column "c")⟩, ⟨none, .column "b"⟩] =
          .ok [⟨"c", "c"⟩, ⟨"x2", "a"⟩, ⟨"b", "b"⟩] := by
  have hm : resolve ["a", "b", "c"] ⟨["c"], [], .numbered⟩
      [⟨some "x", .list [.column "c", .column "a"]⟩, ⟨none, .column "b"⟩, ⟨none, .negate (.column "c")⟩] =
        .ok [⟨"c", "c"⟩, ⟨"x2", "a"⟩, ⟨"b", "b"⟩] := by
    decide +kernel
  obtain ⟨hsome, hsame⟩ := @resolve_perm _ ["a", "b", "c"] ⟨["c"], [], .numbered⟩ _ _
    (.cons ⟨some "x", .list [.column "c", .column "a"]⟩
      (.swap ⟨none, .negate (.column "c")⟩ ⟨none, .column "b"⟩ []))
  obtain ⟨m, hm'⟩ := hsome.1 ⟨_, hm⟩
  have hx : Term.includes ["a", "b", "c"] ⟨none, .negate (.column "c")⟩ = false := by decide +kernel
  have heq := (hsame _ _ hm hm').2 (by simp only [List.filter_cons, hx, Bool.false_eq_true, if_false])
  exact ⟨hm, heq ▸ hm'⟩

end ColumnSelect
