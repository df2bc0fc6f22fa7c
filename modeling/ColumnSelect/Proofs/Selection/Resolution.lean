/-
What a selection without options stands for. Over the results of its terms, the positions of the
mapping are those that some term includes (all of them, when no term includes any) and no term
excludes, once each, in the order of their first inclusion; the term of that first inclusion alone
decides the output name. The rules determine the mapping, so `resolve` is characterised by them.
-/
import ColumnSelect.Pattern.Standard
import ColumnSelect.Proofs.Outcome
import ColumnSelect.Selection.Resolution
import Mathlib.Data.List.Basic
import Mathlib.Data.List.Forall2
import Mathlib.Data.List.Nodup

namespace ColumnSelect

/-! ## Names of the positions of one term -/

/-- The name that a result gives to the index at an offset, where it gives one. -/
def TermResult.nameOf? (r : TermResult) (offset : Nat) : Option String :=
  r.name.map fun stem =>
    if r.indices.length = 1 then stem else stem ++ toString (offset + 1)

/-- The indices of a result from an offset on, each with its name. -/
def TermResult.namedFrom (r : TermResult) (offset : Nat) : List Int → List Assignment
  | [] => []
  | i :: is => ⟨i, r.nameOf? offset⟩ :: r.namedFrom (offset + 1) is

/-- The indices of a result, each with its name. -/
def TermResult.named (r : TermResult) : List Assignment := r.namedFrom 0 r.indices

/-- A policy takes a result unless it refuses one name for other than one column. -/
def MultiRename.Takes (policy : MultiRename) (r : TermResult) : Prop :=
  policy = .reject → r.name.isSome → r.indices.length = 1

theorem TermResult.namedFrom_unnamed (r : TermResult) (h : r.name = none) (offset : Nat)
    (is : List Int) : r.namedFrom offset is = is.map (⟨·, none⟩) := by
  induction is generalizing offset with
  | nil => rfl
  | cons i is ih =>
    rw [namedFrom, ih, nameOf?, h]
    rfl

theorem TermResult.named_unnamed (indices : List Int) :
    (⟨indices, none⟩ : TermResult).named = indices.map (⟨·, none⟩) :=
  namedFrom_unnamed _ rfl 0 indices

theorem TermResult.namedFrom_numbered (r : TermResult) {stem : String} (h : r.name = some stem)
    (hl : r.indices.length ≠ 1) (offset : Nat) (is : List Int) :
    r.namedFrom offset is = (is.zipIdx (offset + 1)).map fun p => ⟨p.1, some (stem ++ toString p.2)⟩ := by
  induction is generalizing offset with
  | nil => rfl
  | cons i is ih =>
    rw [namedFrom, ih, nameOf?, h, Option.map_some, if_neg hl, List.zipIdx_cons, List.map_cons]

theorem TermResult.map_index_namedFrom (r : TermResult) (offset : Nat) (is : List Int) :
    (r.namedFrom offset is).map Assignment.index = is := by
  induction is generalizing offset with
  | nil => rfl
  | cons i is ih => rw [namedFrom, List.map_cons, ih]

/-- Names are given exactly when the policy takes the result. -/
theorem TermResult.assignments_eq_ok_iff (policy : MultiRename) (r : TermResult)
    (as : List Assignment) : r.assignments policy = .ok as ↔ policy.Takes r ∧ as = r.named := by
  obtain ⟨indices, name⟩ := r
  cases name with
  | none => simp [assignments, MultiRename.Takes, named_unnamed, eq_comm]
  | some stem =>
    by_cases hl : indices.length = 1
    · obtain ⟨i, rfl⟩ := List.length_eq_one_iff.1 hl
      simp [assignments, MultiRename.Takes, named, namedFrom, nameOf?, eq_comm]
    · have hn := namedFrom_numbered ⟨indices, some stem⟩ rfl hl 0 indices
      cases policy with
      | numbered =>
        have ha : assignments .numbered ⟨indices, some stem⟩ = .ok (named ⟨indices, some stem⟩) := by
          rw [named, hn]
          rcases indices with _ | ⟨i, _ | ⟨j, is⟩⟩
          · rfl
          · exact absurd rfl hl
          · rfl
        rw [ha]
        simp [MultiRename.Takes, eq_comm]
      | reject =>
        have ha : assignments .reject ⟨indices, some stem⟩ =
            .error (.misuse stem (.oneNameForMany indices.length stem)) := by
          rcases indices with _ | ⟨i, _ | ⟨j, is⟩⟩
          · rfl
          · exact absurd rfl hl
          · rfl
        rw [ha]
        simp [MultiRename.Takes, hl]

/-! ## Evaluation of all terms -/

theorem Term.evaluated_eq_ok_iff [Pattern.Engine] {catalog : Catalog} {t : Term} {r : TermResult}
    (h : t.evaluate catalog = .ok r) (policy : MultiRename) (number : Nat) (e : Evaluated) :
    t.evaluated catalog policy number = .ok e ↔ policy.Takes r ∧ e = ⟨t, number, r, r.named⟩ := by
  unfold Term.evaluated
  rw [mapError_eq_ok_iff, h]
  show (r.assignments policy >>= fun as => Except.ok _) = _ ↔ _
  rw [bind_eq_ok_iff]
  constructor
  · rintro ⟨as, ha, he⟩
    obtain ⟨hp, rfl⟩ := (r.assignments_eq_ok_iff policy as).1 ha
    cases he
    exact ⟨hp, rfl⟩
  · rintro ⟨hp, rfl⟩
    exact ⟨r.named, (r.assignments_eq_ok_iff policy _).2 ⟨hp, rfl⟩, rfl⟩

/-- Terms that all evaluate, in order, numbered from `number` on. -/
def evaluatedFrom (number : Nat) : List Term → List TermResult → List Evaluated
  | t :: ts, r :: rs => ⟨t, number, r, r.named⟩ :: evaluatedFrom (number + 1) ts rs
  | _, _ => []

theorem evaluateTerms_eq_iff [Pattern.Engine] {catalog : Catalog} {terms : List Term} {results : List TermResult}
    (h : List.Forall₂ (fun t r => t.evaluate catalog = .ok r) terms results) (policy : MultiRename)
    (number : Nat) (es : List Evaluated) :
    evaluateTerms catalog policy number terms = (es, none) ↔
      (∀ r ∈ results, policy.Takes r) ∧ es = evaluatedFrom number terms results := by
  induction h generalizing number es with
  | nil => simp [evaluateTerms, evaluatedFrom, eq_comm]
  | @cons t r ts rs ht _ ih =>
    unfold evaluateTerms
    cases he : t.evaluated catalog policy number with
    | error e =>
      have hp : ¬ policy.Takes r := fun hp => by
        rw [(Term.evaluated_eq_ok_iff ht policy number _).2 ⟨hp, rfl⟩] at he; cases he
      simp [hp]
    | ok first =>
      obtain ⟨hp, rfl⟩ := (Term.evaluated_eq_ok_iff ht policy number first).1 he
      have ih := ih (number + 1)
      generalize evaluateTerms catalog policy (number + 1) ts = others at ih
      obtain ⟨others, failure⟩ := others
      simp only [Prod.mk.injEq, List.forall_mem_cons, hp, true_and, evaluatedFrom]
      constructor
      · rintro ⟨rfl, rfl⟩
        obtain ⟨hr, rfl⟩ := (ih others).1 rfl
        exact ⟨hr, rfl⟩
      · rintro ⟨hr, rfl⟩
        obtain ⟨rfl, rfl⟩ := Prod.mk.inj ((ih _).2 ⟨hr, rfl⟩)
        exact ⟨rfl, rfl⟩

theorem flatMap_evaluatedFrom (number : Nat) {R : Term → TermResult → Prop} {terms : List Term}
    {results : List TermResult} (h : List.Forall₂ R terms results) :
    (evaluatedFrom number terms results).flatMap Evaluated.assignments =
      results.flatMap TermResult.named := by
  induction h generalizing number with
  | nil => rfl
  | cons _ _ ih => rw [evaluatedFrom, List.flatMap_cons, List.flatMap_cons, ih]

/-! ## First positions -/

theorem find?_index_cons (p : Nat) (a : Assignment) (as : List Assignment) :
    (a :: as).find? (fun a => a.index = (p : Int)) =
      if a.index = (p : Int) then some a else as.find? fun a => a.index = (p : Int) := by
  rw [List.find?_cons]
  by_cases h : a.index = (p : Int) <;> simp [h]

/-- A position is kept with the name of its first assignment. -/
theorem mem_firstPositions (seen : List Nat) (as : List Assignment) (p : Nat) (n : Option String) :
    (p, n) ∈ firstPositions seen as ↔
      p ∉ seen ∧ 0 < p ∧ as.find? (fun a => a.index = (p : Int)) = some ⟨p, n⟩ := by
  induction as generalizing seen with
  | nil => simp [firstPositions]
  | cons a as ih =>
    rw [find?_index_cons]
    unfold firstPositions
    split
    · rename_i h
      simp only [Bool.and_eq_true, decide_eq_true_eq, Bool.not_eq_true', List.contains_eq_mem,
        decide_eq_false_iff_not] at h
      rw [List.mem_cons, ih]
      by_cases hp : a.index = (p : Int)
      · have hn : a.index.natAbs = p := by omega
        rw [if_pos hp, hn]
        have := h.2
        rw [hn] at this
        obtain ⟨i, name⟩ := a
        simp only [Prod.mk.injEq, true_and, List.mem_cons, true_or, not_true, false_and, or_false,
          Option.some.injEq, Assignment.mk.injEq] at hp ⊢
        constructor
        · rintro rfl; exact ⟨this, by omega, hp, rfl⟩
        · rintro ⟨-, -, -, rfl⟩; rfl
      · have hn : p ≠ a.index.natAbs := by omega
        simp [if_neg hp, hn]
    · rename_i h
      simp only [Bool.and_eq_true, decide_eq_true_eq, Bool.not_eq_true', List.contains_eq_mem,
        decide_eq_false_iff_not] at h
      rw [ih]
      by_cases hp : a.index = (p : Int)
      · have hn : a.index.natAbs = p := by omega
        rw [hn] at h
        constructor
        · rintro ⟨hs, h0, -⟩; exact absurd ⟨by omega, hs⟩ h
        · rintro ⟨hs, h0, -⟩; exact absurd ⟨by omega, hs⟩ h
      · rw [if_neg hp]

theorem idxOf_index_cons {p : Nat} {a : Assignment} (h : a.index ≠ p) (as : List Assignment) :
    ((a :: as).map Assignment.index).idxOf (p : Int) = (as.map Assignment.index).idxOf (p : Int) + 1 := by
  rw [List.map_cons, List.idxOf_cons_ne _ h]

theorem fst_mem_firstPositions (seen : List Nat) (as : List Assignment) (p : Nat) :
    p ∈ (firstPositions seen as).map Prod.fst ↔
      p ∉ seen ∧ 0 < p ∧ (p : Int) ∈ as.map Assignment.index := by
  simp only [List.mem_map, Prod.exists, exists_and_right, exists_eq_right, mem_firstPositions]
  constructor
  · rintro ⟨n, hs, h0, hf⟩
    exact ⟨hs, h0, ⟨p, n⟩, List.mem_of_find?_eq_some hf, rfl⟩
  · rintro ⟨hs, h0, a, ha, hi⟩
    cases hf : as.find? (fun a => a.index = (p : Int)) with
    | none => exact absurd hi (by simpa using List.find?_eq_none.1 hf a ha)
    | some b =>
      obtain ⟨i, n⟩ := b
      have hb : i = (p : Int) := by simpa using List.find?_some hf
      exact ⟨n, hs, h0, by rw [hb]⟩

/-- The positions stand in the order in which they first occur. -/
theorem pairwise_firstPositions (seen : List Nat) (as : List Assignment) :
    ((firstPositions seen as).map Prod.fst).Pairwise fun (p q : Nat) =>
      (as.map Assignment.index).idxOf (p : Int) < (as.map Assignment.index).idxOf (q : Int) := by
  induction as generalizing seen with
  | nil => simp [firstPositions]
  | cons a as ih =>
    -- positions other than that of `a` keep their order behind it
    have tail (seen' : List Nat) (hne : ∀ p ∈ (firstPositions seen' as).map Prod.fst, a.index ≠ p) :
        ((firstPositions seen' as).map Prod.fst).Pairwise fun (p q : Nat) =>
          ((a :: as).map Assignment.index).idxOf (p : Int) <
            ((a :: as).map Assignment.index).idxOf (q : Int) := by
      refine (ih seen').imp_of_mem fun hp hq h => ?_
      rw [idxOf_index_cons (hne _ hp), idxOf_index_cons (hne _ hq)]
      omega
    unfold firstPositions
    split
    · rename_i h
      simp only [Bool.and_eq_true, decide_eq_true_eq] at h
      have hne : ∀ p ∈ (firstPositions (a.index.natAbs :: seen) as).map Prod.fst, a.index ≠ p := by
        intro p hp he
        exact ((fst_mem_firstPositions _ _ _).1 hp).1 (by rw [he]; simp)
      refine List.pairwise_cons.2 ⟨fun q hq => ?_, tail _ hne⟩
      have h0 : ((a :: as).map Assignment.index).idxOf (a.index.natAbs : Int) = 0 := by
        rw [List.map_cons, Int.natAbs_of_nonneg (by omega), List.idxOf_cons_self]
      rw [h0, idxOf_index_cons (hne q hq)]
      omega
    · rename_i h
      simp only [Bool.and_eq_true, decide_eq_true_eq, Bool.not_eq_true', List.contains_eq_mem,
        decide_eq_false_iff_not] at h
      refine tail _ fun p hp he => h ?_
      obtain ⟨hs, h0, -⟩ := (fst_mem_firstPositions _ _ _).1 hp
      exact ⟨by omega, by rw [he]; exact hs⟩

theorem mem_allPositions (columns p : Nat) : p ∈ allPositions columns ↔ 1 ≤ p ∧ p ≤ columns := by
  rw [allPositions, List.mem_range'_1]
  omega

theorem mem_excludedPositions (columns : Nat) (as : List Assignment) (p : Nat) :
    p ∈ excludedPositions columns as ↔
      (1 ≤ p ∧ p ≤ columns) ∧ -(p : Int) ∈ as.map Assignment.index := by
  unfold excludedPositions
  simp only [List.mem_filter, mem_allPositions, List.contains_eq_mem, List.mem_map,
    decide_eq_true_eq]
  refine and_congr_right fun hp => ⟨?_, ?_⟩
  · rintro ⟨a, ⟨ha, hi⟩, rfl⟩; exact ⟨a, ha, by omega⟩
  · rintro ⟨a, ha, hi⟩; exact ⟨a, ⟨ha, by omega⟩, by omega⟩

/-! ## The term of the first occurrence -/

/-- The indices of all results in a row. -/
def indicesOf (results : List TermResult) : List Int := results.flatMap TermResult.indices

/-- The output name of a column: that which the first result with its position gives it, its own
where there is none. -/
def outputName (results : List TermResult) (p : Nat) (own : String) : String :=
  match results.find? fun r => (p : Int) ∈ r.indices with
  | some r => (r.nameOf? (r.indices.idxOf (p : Int))).getD own
  | none => own

theorem map_index_flatMap_named (results : List TermResult) :
    (results.flatMap TermResult.named).map Assignment.index = indicesOf results := by
  rw [List.map_flatMap, indicesOf]
  congr 1
  funext r
  exact r.map_index_namedFrom 0 r.indices

theorem TermResult.find?_namedFrom (r : TermResult) (offset : Nat) (is : List Int) (p : Nat) :
    (r.namedFrom offset is).find? (fun a => a.index = (p : Int)) =
      if (p : Int) ∈ is then some ⟨p, r.nameOf? (offset + is.idxOf (p : Int))⟩ else none := by
  induction is generalizing offset with
  | nil => simp [namedFrom]
  | cons i is ih =>
    rw [namedFrom, find?_index_cons]
    by_cases hi : i = (p : Int)
    · subst hi; simp
    · rw [if_neg hi, ih, List.idxOf_cons_ne _ hi]
      simp only [List.mem_cons, Ne.symm hi, false_or, Nat.succ_eq_add_one]
      rw [Nat.add_right_comm, Nat.add_assoc]

theorem find?_flatMap_named (results : List TermResult) (p : Nat) :
    (results.flatMap TermResult.named).find? (fun a => a.index = (p : Int)) =
      (results.find? fun r => (p : Int) ∈ r.indices).map fun r =>
        ⟨p, r.nameOf? (r.indices.idxOf (p : Int))⟩ := by
  induction results with
  | nil => rfl
  | cons r rs ih =>
    rw [List.flatMap_cons, List.find?_append, TermResult.named, r.find?_namedFrom, ih,
      List.find?_cons]
    by_cases h : (p : Int) ∈ r.indices <;> simp [h]

/-- The name with which a position is kept leads to its output name. -/
theorem outputName_of_mem {results : List TermResult} {p : Nat} {n : Option String}
    (h : (p, n) ∈ firstPositions [] (results.flatMap TermResult.named)) (own : String) :
    n.getD own = outputName results p own := by
  obtain ⟨-, -, hf⟩ := (mem_firstPositions _ _ _ _).1 h
  rw [find?_flatMap_named] at hf
  unfold outputName
  cases hr : results.find? fun r => (p : Int) ∈ r.indices with
  | none => rw [hr] at hf; cases hf
  | some r =>
    rw [hr] at hf
    simp only [Option.map_some, Option.some.injEq, Assignment.mk.injEq, true_and] at hf
    rw [← hf]

theorem outputName_of_notMem {results : List TermResult} {p : Nat}
    (h : (p : Int) ∉ indicesOf results) (own : String) : outputName results p own = own := by
  have hn : results.find? (fun r => (p : Int) ∈ r.indices) = none := by
    rw [List.find?_eq_none]
    intro r hr
    simpa using fun hp => h (List.mem_flatMap.2 ⟨r, hr, hp⟩)
  rw [outputName, hn]

/-- Without names every column keeps its own. -/
theorem outputName_of_unnamed {results : List TermResult} (h : ∀ r ∈ results, r.name = none) (p : Nat)
    (own : String) : outputName results p own = own := by
  unfold outputName
  cases hr : results.find? fun r => (p : Int) ∈ r.indices with
  | none => rfl
  | some r => simp [TermResult.nameOf?, h r (List.mem_of_find?_eq_some hr)]

/-! ## The positions of a mapping -/

/-- A position is in the mapping: some term includes it, or none includes any, and none excludes it. -/
def IsSelected (catalog : Catalog) (results : List TermResult) (p : Nat) : Prop :=
  (1 ≤ p ∧ p ≤ catalog.length) ∧
    ((∃ r ∈ results, (p : Int) ∈ r.indices) ∨ ¬ ∃ r ∈ results, ∃ i ∈ r.indices, 0 < i) ∧
    ¬ ∃ r ∈ results, -(p : Int) ∈ r.indices

/-- The positions of the mapping, in order: each that is selected once, by first inclusion where
some term includes a position and as in the catalog where none does. -/
structure Selects (catalog : Catalog) (results : List TermResult) (positions : List Nat) : Prop where
  mem : ∀ p, p ∈ positions ↔ IsSelected catalog results p
  nodup : positions.Nodup
  included : (∃ r ∈ results, ∃ i ∈ r.indices, 0 < i) →
    positions.Pairwise fun (p q : Nat) =>
      (indicesOf results).idxOf (p : Int) < (indicesOf results).idxOf (q : Int)
  standing : (¬ ∃ r ∈ results, ∃ i ∈ r.indices, 0 < i) → positions.Pairwise (· < ·)

theorem mem_indicesOf (results : List TermResult) (i : Int) :
    i ∈ indicesOf results ↔ ∃ r ∈ results, i ∈ r.indices := List.mem_flatMap

/-- The rules leave no choice. -/
theorem Selects.unique {catalog : Catalog} {results : List TermResult} {ps qs : List Nat}
    (hp : Selects catalog results ps) (hq : Selects catalog results qs) : ps = qs := by
  have hperm : ps.Perm qs :=
    (List.perm_ext_iff_of_nodup hp.nodup hq.nodup).2 fun p => (hp.mem p).trans (hq.mem p).symm
  by_cases h : ∃ r ∈ results, ∃ i ∈ r.indices, 0 < i
  · exact hperm.eq_of_pairwise (fun _ _ _ _ h1 h2 => absurd h1 (Nat.lt_asymm h2)) (hp.included h)
      (hq.included h)
  · exact hperm.eq_of_pairwise (fun _ _ _ _ h1 h2 => absurd h1 (Nat.lt_asymm h2)) (hp.standing h)
      (hq.standing h)

/-- The positions that are taken, with their names, before the excluded ones are left out. -/
def takenPositions (columns : Nat) (as : List Assignment) : List (Nat × Option String) :=
  if (firstPositions [] as).isEmpty then (allPositions columns).map (·, none)
  else firstPositions [] as

/-- The positions that are kept, with their names. -/
def keptPositions (columns : Nat) (as : List Assignment) : List (Nat × Option String) :=
  (takenPositions columns as).filter fun p => !(excludedPositions columns as).contains p.1

theorem firstPositions_isEmpty_iff (results : List TermResult) :
    (firstPositions [] (results.flatMap TermResult.named)).isEmpty = true ↔
      ¬ ∃ r ∈ results, ∃ i ∈ r.indices, 0 < i := by
  rw [List.isEmpty_iff, ← List.map_eq_nil_iff (f := Prod.fst), List.eq_nil_iff_forall_not_mem]
  simp only [fst_mem_firstPositions, map_index_flatMap_named, mem_indicesOf]
  constructor
  · rintro h ⟨r, hr, i, hi, h0⟩
    refine h i.natAbs ⟨by simp, by omega, r, hr, ?_⟩
    rw [Int.natAbs_of_nonneg (by omega)]
    exact hi
  · rintro h p ⟨-, h0, r, hr, hp⟩
    exact h ⟨r, hr, p, hp, by omega⟩

/-- Indices lie in the catalog when every result comes of an evaluation. -/
theorem Term.evaluate_bound [Pattern.Engine] {catalog : Catalog} {t : Term} {r : TermResult}
    (h : t.evaluate catalog = .ok r) : ∀ i ∈ r.indices, i ≠ 0 ∧ i.natAbs ≤ catalog.length := by
  unfold Term.evaluate at h
  obtain ⟨-, -, h⟩ := bind_eq_ok_iff.1 h
  obtain ⟨v, -, h⟩ := bind_eq_ok_iff.1 h
  cases v with
  | ints indices =>
    simp only at h
    split at h
    · cases h
    · rename_i hf
      cases h
      intro i hi
      have := List.find?_eq_none.1 hf i hi
      simpa using this
  | _ => cases h

theorem bound_of_evaluate [Pattern.Engine] {catalog : Catalog} {terms : List Term} {results : List TermResult}
    (h : List.Forall₂ (fun t r => t.evaluate catalog = .ok r) terms results) :
    ∀ r ∈ results, ∀ i ∈ r.indices, i ≠ 0 ∧ i.natAbs ≤ catalog.length := by
  intro r hr
  obtain ⟨t, -, ht⟩ := exists_of_forall₂ h.flip r hr
  exact Term.evaluate_bound ht

theorem mem_takenPositions {columns : Nat} {results : List TermResult}
    (hb : ∀ r ∈ results, ∀ i ∈ r.indices, i ≠ 0 ∧ i.natAbs ≤ columns) (p : Nat) :
    p ∈ (takenPositions columns (results.flatMap TermResult.named)).map Prod.fst ↔
      (1 ≤ p ∧ p ≤ columns) ∧
        ((∃ r ∈ results, (p : Int) ∈ r.indices) ∨ ¬ ∃ r ∈ results, ∃ i ∈ r.indices, 0 < i) := by
  have he := firstPositions_isEmpty_iff results
  unfold takenPositions
  split
  · rename_i h
    have hn := he.1 h
    simp [mem_allPositions, hn]
  · rename_i h
    have hn : ¬ ¬ ∃ r ∈ results, ∃ i ∈ r.indices, 0 < i := fun hn => h (he.2 hn)
    rw [fst_mem_firstPositions, map_index_flatMap_named, mem_indicesOf, or_iff_left hn]
    constructor
    · rintro ⟨-, h0, r, hr, hp⟩
      have := hb r hr p hp
      exact ⟨⟨by omega, by omega⟩, r, hr, hp⟩
    · rintro ⟨⟨h1, -⟩, h⟩
      exact ⟨by simp, by omega, h⟩

theorem map_fst_keptPositions (columns : Nat) (as : List Assignment) :
    (keptPositions columns as).map Prod.fst =
      ((takenPositions columns as).map Prod.fst).filter fun p =>
        !(excludedPositions columns as).contains p := by
  rw [keptPositions, List.filter_map]
  rfl

theorem keptPositions_selects {catalog : Catalog} {results : List TermResult}
    (hb : ∀ r ∈ results, ∀ i ∈ r.indices, i ≠ 0 ∧ i.natAbs ≤ catalog.length) :
    Selects catalog results
      ((keptPositions catalog.length (results.flatMap TermResult.named)).map Prod.fst) := by
  rw [map_fst_keptPositions]
  have he := firstPositions_isEmpty_iff results
  have hincl (h : ∃ r ∈ results, ∃ i ∈ r.indices, 0 < i) :
      takenPositions catalog.length (results.flatMap TermResult.named) =
        firstPositions [] (results.flatMap TermResult.named) :=
    if_neg fun hn => he.1 hn h
  have hstand (h : ¬ ∃ r ∈ results, ∃ i ∈ r.indices, 0 < i) :
      (takenPositions catalog.length (results.flatMap TermResult.named)).map Prod.fst =
        allPositions catalog.length := by
    rw [takenPositions, if_pos (he.2 h), List.map_map, Function.comp_def, List.map_id']
  have hfirst := pairwise_firstPositions [] (results.flatMap TermResult.named)
  rw [map_index_flatMap_named] at hfirst
  have hall : (allPositions catalog.length).Pairwise (· < ·) := List.pairwise_lt_range'
  refine ⟨fun p => ?_, ?_, fun h => ?_, fun h => ?_⟩
  · simp only [List.mem_filter, mem_takenPositions hb, List.contains_eq_mem, Bool.not_eq_true',
      decide_eq_false_iff_not, mem_excludedPositions, map_index_flatMap_named, mem_indicesOf,
      IsSelected]
    constructor
    · rintro ⟨⟨hp, hs⟩, hx⟩; exact ⟨hp, hs, fun h => hx ⟨hp, h⟩⟩
    · rintro ⟨hp, hs, hx⟩; exact ⟨⟨hp, hs⟩, fun h => hx h.2⟩
  · refine List.Nodup.filter _ ?_
    by_cases h : ∃ r ∈ results, ∃ i ∈ r.indices, 0 < i
    · rw [hincl h]; exact hfirst.imp fun hpq he => absurd hpq (by rw [he]; omega)
    · rw [hstand h]; exact hall.imp fun hpq => Nat.ne_of_lt hpq
  · rw [hincl h]; exact hfirst.filter _
  · rw [hstand h]; exact hall.filter _

/-! ## The mapping -/

theorem nameAt?_isSome {catalog : Catalog} {p : Nat} (h : 1 ≤ p ∧ p ≤ catalog.length) :
    ∃ name, catalog.nameAt? p = some name := by
  obtain ⟨k, rfl⟩ : ∃ k, p = k + 1 := ⟨p - 1, by omega⟩
  exact ⟨_, List.getElem?_eq_getElem (by omega)⟩

theorem entriesAt_forall₂ {catalog : Catalog} {kept : List (Nat × Option String)}
    (h : ∀ p ∈ kept.map Prod.fst, 1 ≤ p ∧ p ≤ catalog.length) :
    List.Forall₂ (fun p e => catalog.nameAt? p.1 = some e.source ∧ e.output = p.2.getD e.source) kept
      (entriesAt catalog kept) := by
  induction kept with
  | nil => exact .nil
  | cons p kept ih =>
    obtain ⟨name, hn⟩ := nameAt?_isSome (h p.1 (by simp))
    have hc : entriesAt catalog (p :: kept) = ⟨p.2.getD name, name⟩ :: entriesAt catalog kept := by
      simp [entriesAt, hn]
    rw [hc]
    exact .cons ⟨hn, rfl⟩ (ih fun q hq => h q (List.mem_cons_of_mem _ hq))

/-- The columns at positions, with the output names that results give them. -/
def Reads (catalog : Catalog) (results : List TermResult) (positions : List Nat)
    (mapping : Mapping) : Prop :=
  List.Forall₂ (fun p e => catalog.nameAt? p = some e.source ∧
    e.output = outputName results p e.source) positions mapping

theorem Reads.unique {catalog : Catalog} {results : List TermResult} {ps : List Nat} {m m' : Mapping}
    (h : Reads catalog results ps m) (h' : Reads catalog results ps m') : m = m' := by
  unfold Reads at h h'
  induction h generalizing m' with
  | nil => cases h'; rfl
  | @cons p e ps es he _ ih =>
    obtain _ | ⟨he', h'⟩ := h'
    rename_i e' es'
    have hs : e.source = e'.source := Option.some.inj (he.1.symm.trans he'.1)
    have ho : e.output = e'.output := by rw [he.2, he'.2, hs]
    rw [ih h']
    obtain ⟨o, s⟩ := e
    obtain ⟨o', s'⟩ := e'
    cases hs; cases ho; rfl

theorem keptPositions_reads {catalog : Catalog} {results : List TermResult}
    (hb : ∀ r ∈ results, ∀ i ∈ r.indices, i ≠ 0 ∧ i.natAbs ≤ catalog.length) :
    Reads catalog results
      ((keptPositions catalog.length (results.flatMap TermResult.named)).map Prod.fst)
      (entriesAt catalog (keptPositions catalog.length (results.flatMap TermResult.named))) := by
  have hsel := (keptPositions_selects hb).mem
  have hall := entriesAt_forall₂ fun p hp => ((hsel p).1 hp).1
  have hname : ∀ p ∈ keptPositions catalog.length (results.flatMap TermResult.named),
      ∀ own : String, p.2.getD own = outputName results p.1 own := by
    intro p hp own
    have hp := (List.mem_filter.1 hp).1
    unfold takenPositions at hp
    split at hp
    · -- every column stands in for none, and no term can name it
      rename_i he
      obtain ⟨q, hq, rfl⟩ := List.mem_map.1 hp
      have hq := ((mem_allPositions _ _).1 hq).1
      have hn := (firstPositions_isEmpty_iff results).1 he
      refine (outputName_of_notMem (fun hi => hn ?_) own).symm
      obtain ⟨r, hr, hi⟩ := (mem_indicesOf _ _).1 hi
      exact ⟨r, hr, q, hi, by omega⟩
    · exact outputName_of_mem hp own
  unfold Reads
  rw [List.forall₂_map_left_iff]
  refine ((List.forall₂_and_left _ _).2 ⟨hname, hall⟩).imp fun p e h => ⟨h.2.1, ?_⟩
  rw [h.2.2, h.1]

theorem Options.apply_plain (policy : MultiRename) (catalog : Catalog) (mapping : Mapping) :
    (Options.plain policy).apply catalog mapping = .ok mapping := by
  simp [Options.apply, Options.plain, unknownName?, Options.adjust]

/-- The mapping of evaluated terms follows from their assignments and the options. -/
theorem map_reduce (catalog : Catalog) (options : Options) (es : List Evaluated) :
    (reduce catalog options es).map Resolution.mapping =
      options.apply catalog
        (entriesAt catalog (keptPositions catalog.length (es.flatMap Evaluated.assignments))) := by
  unfold reduce
  show (options.apply catalog
    (entriesAt catalog (keptPositions catalog.length (es.flatMap Evaluated.assignments))) >>= _).map _ = _
  cases options.apply catalog _ <;> rfl

theorem reduce_plain (catalog : Catalog) (policy : MultiRename) (es : List Evaluated) :
    (reduce catalog (.plain policy) es).map Resolution.mapping =
      .ok (entriesAt catalog (keptPositions catalog.length (es.flatMap Evaluated.assignments))) := by
  rw [map_reduce, Options.apply_plain]

/-- A selection without options of terms that all evaluate, under either policy: it succeeds exactly
when the policy takes every result, and then gives exactly the mapping of the rules. -/
theorem resolve_plain_iff [Pattern.Engine] {catalog : Catalog} {terms : List Term} {results : List TermResult}
    (h : List.Forall₂ (fun t r => t.evaluate catalog = .ok r) terms results) (policy : MultiRename)
    (mapping : Mapping) :
    resolve catalog (.plain policy) terms = .ok mapping ↔
      (∀ r ∈ results, policy.Takes r) ∧
        ∃ positions, Selects catalog results positions ∧ Reads catalog results positions mapping := by
  -- evaluation has checked the indices, so no position is out of range
  have hb : ∀ r ∈ results, ∀ i ∈ r.indices, i ≠ 0 ∧ i.natAbs ≤ catalog.length := by
    clear mapping
    induction h with
    | nil => simp
    | cons ht _ ih => exact List.forall_mem_cons.2 ⟨Term.evaluate_bound ht, ih⟩
  have hsel := keptPositions_selects hb
  have hread := keptPositions_reads hb
  have hterms := evaluateTerms_eq_iff h policy 1
  unfold resolve resolution
  constructor
  · intro hm
    rcases he : evaluateTerms catalog policy 1 terms with ⟨es, _ | e⟩
    · obtain ⟨hp, rfl⟩ := (hterms es).1 he
      simp only [Options.plain] at hm
      rw [he] at hm
      have hm : (reduce catalog (.plain policy) _).map Resolution.mapping = .ok mapping := hm
      rw [reduce_plain, flatMap_evaluatedFrom 1 h] at hm
      cases hm
      exact ⟨hp, _, hsel, hread⟩
    · simp only [Options.plain] at hm
      rw [he] at hm
      cases hm
  · rintro ⟨hp, positions, hs, hr⟩
    rw [show (Options.plain policy).multiRename = policy from rfl, (hterms _).2 ⟨hp, rfl⟩]
    simp only
    rw [reduce_plain, flatMap_evaluatedFrom 1 h]
    rw [hs.unique hsel] at hr
    rw [hr.unique hread]

/-- A column that two named terms include keeps the name of the first, with its number there, and a
later exclusion leaves no gap in the numbers of the others. -/
theorem resolve_plain_iff_numbered :
    resolve ["a", "b", "c"] (.plain .numbered)
        [⟨some "x", .list [.column "b", .column "a", .column "c"]⟩, ⟨some "y", .column "a"⟩,
          ⟨none, .negate (.column "b")⟩] = .ok [⟨"x2", "a"⟩, ⟨"x3", "c"⟩] ∧
      ∃ positions,
        Selects ["a", "b", "c"] [⟨[2, 1, 3], some "x"⟩, ⟨[1], some "y"⟩, ⟨[-2], none⟩] positions ∧
        Reads ["a", "b", "c"] [⟨[2, 1, 3], some "x"⟩, ⟨[1], some "y"⟩, ⟨[-2], none⟩] positions
          [⟨"x2", "a"⟩, ⟨"x3", "c"⟩] := by
  have hm : resolve ["a", "b", "c"] (.plain .numbered)
      [⟨some "x", .list [.column "b", .column "a", .column "c"]⟩, ⟨some "y", .column "a"⟩,
        ⟨none, .negate (.column "b")⟩] = .ok [⟨"x2", "a"⟩, ⟨"x3", "c"⟩] := by
    decide +kernel
  exact ⟨hm, ((resolve_plain_iff
    (.cons (by decide +kernel) (.cons (by decide +kernel) (.cons (by decide +kernel) .nil)))
    .numbered _).1 hm).2⟩

end ColumnSelect
