/-
A term and its negation. A term that includes some positions selects those, once each; its negation
includes none, so it selects every column but those. Together they select all columns, each once
(`resolve_negate_complement`), however the positions are repeated in the term and wherever they stand.
-/
import ColumnSelect.Pattern.Standard
import ColumnSelect.Proofs.Catalog
import ColumnSelect.Proofs.Expr.Eval
import ColumnSelect.Proofs.Selection.Options
import ColumnSelect.Proofs.Selection.Order

namespace ColumnSelect

/-! ## One term without a name -/

/-- A term without a name resolves by itself, under either policy, to the columns at the positions that its
result selects. -/
theorem resolve_unnamed [Pattern.Engine] {catalog : Catalog} {e : Expr} {indices : List Int}
    (h : Term.Gives catalog ⟨none, e⟩ ⟨indices, none⟩) (policy : MultiRename) :
    ∃ mapping positions, resolve catalog (.plain policy) [⟨none, e⟩] = .ok mapping ∧
      Selects catalog [⟨indices, none⟩] positions ∧ mapping.sources = positions.filterMap catalog.nameAt? := by
  have hr : Resolves catalog (.plain policy) [⟨none, e⟩] [⟨indices, none⟩] :=
    ⟨.cons (Term.evaluate_eq_ok_iff.2 h) .nil, by simp [MultiRename.Takes], nofun⟩
  refine ⟨_, _, resolve_eq_ok_iff.2 ⟨_, hr, rfl⟩, keptPositions_selects hr.bound, ?_⟩
  rw [Options.adjust_plain, mappingOf, sources_entriesAt]

/-! ## What is selected and what is left -/

theorem Value.opposite_of_pos {i : Int} (h : 0 < i) : Value.opposite i = -i := by
  unfold opposite maxInt
  omega

section

variable {catalog : Catalog} {indices : List Int} (hpos : ∀ i ∈ indices, 1 ≤ i ∧ i ≤ catalog.length)
include hpos

theorem map_opposite_of_pos : indices.map Value.opposite = indices.map (- ·) :=
  List.map_congr_left fun i hi => Value.opposite_of_pos (by have := (hpos i hi).1; omega)

/-- Positive positions select themselves. -/
theorem isSelected_iff_of_pos (hne : indices ≠ []) (p : Nat) :
    IsSelected catalog [⟨indices, none⟩] p ↔ (p : Int) ∈ indices := by
  obtain ⟨first, hfirst⟩ := List.exists_mem_of_ne_nil indices hne
  have hsome : ∃ i ∈ indices, 0 < i := ⟨first, hfirst, by have := (hpos first hfirst).1; omega⟩
  simp only [IsSelected, List.mem_singleton, exists_eq_left, hsome, not_true, or_false]
  constructor
  · rintro ⟨-, hp, -⟩
    exact hp
  · intro hp
    refine ⟨by have := hpos p hp; omega, hp, fun hx => ?_⟩
    have := (hpos _ hx).1
    omega

/-- Their opposites select all others. -/
theorem isSelected_opposite_iff_of_pos (p : Nat) :
    IsSelected catalog [⟨indices.map Value.opposite, none⟩] p ↔
      (1 ≤ p ∧ p ≤ catalog.length) ∧ (p : Int) ∉ indices := by
  have hnone : ¬ ∃ i ∈ indices.map (- ·), 0 < i := by
    rintro ⟨i, hi, h0⟩
    obtain ⟨j, hj, rfl⟩ := List.mem_map.1 hi
    have := (hpos j hj).1
    omega
  simp only [IsSelected, List.mem_singleton, exists_eq_left, map_opposite_of_pos hpos, hnone, not_false_eq_true,
    or_true, true_and]
  simp

/-- The selected positions and the others are all positions, each once. -/
theorem perm_allPositions_of_selects (hne : indices ≠ []) {positions others : List Nat}
    (hp : Selects catalog [⟨indices, none⟩] positions)
    (ho : Selects catalog [⟨indices.map Value.opposite, none⟩] others) :
    (positions ++ others).Perm (allPositions catalog.length) := by
  have hmem (p : Nat) : p ∈ positions ↔ (p : Int) ∈ indices :=
    (hp.mem p).trans (isSelected_iff_of_pos hpos hne p)
  have hother (p : Nat) : p ∈ others ↔ (1 ≤ p ∧ p ≤ catalog.length) ∧ (p : Int) ∉ indices :=
    (ho.mem p).trans (isSelected_opposite_iff_of_pos hpos p)
  have hnodup : (positions ++ others).Nodup := by
    refine List.nodup_append.2 ⟨hp.nodup, ho.nodup, ?_⟩
    rintro p hin q hout rfl
    exact ((hother p).1 hout).2 ((hmem p).1 hin)
  refine (List.perm_ext_iff_of_nodup hnodup List.nodup_range').2 fun p => ?_
  rw [← allPositions, mem_allPositions, List.mem_append, hmem, hother]
  constructor
  · rintro (hi | ⟨hb, -⟩)
    · have := hpos p hi
      omega
    · exact hb
  · intro hb
    by_cases hi : (p : Int) ∈ indices
    · exact .inl hi
    · exact .inr ⟨hb, hi⟩

end

/-! ## A term and its negation -/

/-- A term that can be negated without being nested too deep gives its indices, and its negation their
opposites. -/
theorem gives_negate [Pattern.Engine] {catalog : Catalog} {e : Expr} {indices : List Int} (hd : e.depth < maxNesting)
    (hv : e.eval catalog = .ok (.ints indices)) (hpos : ∀ i ∈ indices, 1 ≤ i ∧ i ≤ catalog.length) :
    Term.Gives catalog ⟨none, e⟩ ⟨indices, none⟩ ∧
      Term.Gives catalog ⟨none, .negate e⟩ ⟨indices.map Value.opposite, none⟩ := by
  rw [Expr.depth_eq_nesting] at hd
  refine ⟨⟨Nat.le_of_lt hd, hv, fun i hi => ?_, rfl⟩,
    ⟨by rw [Expr.nesting]; exact hd, Expr.eval_negate_eq_ok_iff.2 ⟨indices, hv, rfl⟩, fun i hi => ?_, rfl⟩⟩
  · have := hpos i hi
    omega
  · rw [map_opposite_of_pos hpos] at hi
    obtain ⟨j, hj, rfl⟩ := List.mem_map.1 hi
    have := hpos j hj
    omega

/-- A term that includes some positions and no others, and its negation, select complementary columns: what
the one reads and what the other reads make up the catalog. Of the positions, none is in both and none in
neither. -/
theorem resolve_negate_complement [Pattern.Engine] {catalog : Catalog} {e : Expr} {indices : List Int}
    (hd : e.depth < maxNesting) (hv : e.eval catalog = .ok (.ints indices)) (hne : indices ≠ [])
    (hpos : ∀ i ∈ indices, 1 ≤ i ∧ i ≤ catalog.length) (policy : MultiRename) :
    ∃ selected rest, resolve catalog (.plain policy) [⟨none, e⟩] = .ok selected ∧
      resolve catalog (.plain policy) [⟨none, .negate e⟩] = .ok rest ∧
      (selected.sources ++ rest.sources).Perm catalog ∧
      ∃ positions others : List Nat, selected.sources = positions.filterMap catalog.nameAt? ∧
        rest.sources = others.filterMap catalog.nameAt? ∧
        (positions ++ others).Perm (allPositions catalog.length) := by
  obtain ⟨hgives, hnegate⟩ := gives_negate hd hv hpos
  obtain ⟨selected, positions, hselected, hp, hsources⟩ := resolve_unnamed hgives policy
  obtain ⟨rest, others, hrest, ho, hothers⟩ := resolve_unnamed hnegate policy
  have hall := perm_allPositions_of_selects hpos hne hp ho
  refine ⟨selected, rest, hselected, hrest, ?_, positions, others, hsources, hothers, hall⟩
  have hnames := hall.filterMap catalog.nameAt?
  rwa [List.filterMap_append, filterMap_nameAt?_allPositions, ← hsources, ← hothers] at hnames

/-- A range, a double negation and a number that all name the column in the middle. The catalog has a name
twice, and of its two columns one is selected. -/
theorem resolve_negate_complement_repeated :
    (Expr.list [.range (.column "b") (.int 3), .negate (.negate (.column "b")), .int 2]).eval ["a", "b", "a", "d"] =
        .ok (.ints [2, 3, 2, 2]) ∧
      ∃ selected rest,
        resolve ["a", "b", "a", "d"] (.plain .numbered)
          [⟨none, .list [.range (.column "b") (.int 3), .negate (.negate (.column "b")), .int 2]⟩] = .ok selected ∧
        resolve ["a", "b", "a", "d"] (.plain .numbered)
          [⟨none, .negate (.list [.range (.column "b") (.int 3), .negate (.negate (.column "b")), .int 2])⟩] =
            .ok rest ∧
        (selected.sources ++ rest.sources).Perm ["a", "b", "a", "d"] := by
  have hv : (Expr.list [.range (.column "b") (.int 3), .negate (.negate (.column "b")), .int 2]).eval
      ["a", "b", "a", "d"] = .ok (.ints [2, 3, 2, 2]) := by
    decide +kernel
  obtain ⟨selected, rest, hselected, hrest, hperm, -⟩ :=
    resolve_negate_complement (by decide +kernel) hv (by decide) (by decide) .numbered
  exact ⟨hv, selected, rest, hselected, hrest, hperm⟩

end ColumnSelect
