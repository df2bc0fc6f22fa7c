/-
The columns of a result asked for again, each by its own name. They come back once each, in the order in
which their names first occur, unless one has the name of a matcher, which hides it
(`resolve_columns_eq_ok_iff`). So a result stays as it is exactly when its output names are distinct and
none is that of a matcher. Main statement: `resolve_outputs_eq_identity_iff`.
-/
import ColumnSelect.Pattern.Standard
import ColumnSelect.Proofs.Selection.Options
import ColumnSelect.Proofs.Selection.Order

namespace ColumnSelect

/-! ## Columns by themselves -/

/-- The term that asks for a column under its own name. -/
def columnTerm (name : String) : Term := ⟨none, .column name⟩

/-- The result of the term that asks for a column of the catalog. -/
def columnResult (catalog : Catalog) (name : String) : TermResult := ⟨[((catalog.idxOf name + 1 : Nat) : Int)], none⟩

theorem evaluate_columnTerm_eq_ok_iff [Pattern.Engine] {catalog : Catalog} {name : String} (h : name ∈ catalog)
    {r : TermResult} :
    (columnTerm name).evaluate catalog = .ok r ↔ Matcher.ofName? name = none ∧ columnResult catalog name = r := by
  have hvalue (ho : Matcher.ofName? name = none) :
      (columnTerm name).evaluate catalog = .ok (columnResult catalog name) := by
    rw [columnTerm, Term.evaluate_column ho, Catalog.position, position?_of_mem h]
    rfl
  constructor
  · intro hr
    have ho := ofName?_eq_none_of_evaluate_column hr
    rw [hvalue ho] at hr
    exact ⟨ho, Except.ok.inj hr⟩
  · rintro ⟨ho, rfl⟩
    exact hvalue ho

theorem forall₂_evaluate_columnTerm_iff [Pattern.Engine] {catalog : Catalog} {names : List String}
    (h : ∀ name ∈ names, name ∈ catalog) {results : List TermResult} :
    List.Forall₂ (fun t r => t.evaluate catalog = .ok r) (names.map columnTerm) results ↔
      (∀ name ∈ names, Matcher.ofName? name = none) ∧ names.map (columnResult catalog) = results := by
  induction names generalizing results with
  | nil => simp [eq_comm]
  | cons name names ih =>
    obtain ⟨hname, hnames⟩ := List.forall_mem_cons.1 h
    simp only [List.map_cons, List.forall₂_cons_left_iff, evaluate_columnTerm_eq_ok_iff hname, ih hnames,
      List.forall_mem_cons]
    constructor
    · rintro ⟨r, rs, ⟨ho, rfl⟩, ⟨hos, rfl⟩, rfl⟩
      exact ⟨⟨ho, hos⟩, rfl⟩
    · rintro ⟨⟨ho, hos⟩, rfl⟩
      exact ⟨_, _, ⟨ho, rfl⟩, ⟨hos, rfl⟩, rfl⟩

/-! ## What the columns of a catalog select -/

theorem indicesOf_columnResults (catalog : Catalog) (names : List String) :
    indicesOf (names.map (columnResult catalog)) = names.map fun name => ((catalog.idxOf name + 1 : Nat) : Int) := by
  rw [indicesOf, List.flatMap_map, List.map_eq_flatMap]
  rfl

section

variable (names : List String)

/-- A name selects the position at which it first stands. -/
theorem isSelected_columnResults_iff (p : Nat) :
    IsSelected names (names.map (columnResult names)) p ↔ ∃ name ∈ names, names.idxOf name + 1 = p := by
  unfold IsSelected
  have hin (i : Int) : (∃ r ∈ names.map (columnResult names), i ∈ r.indices) ↔
      ∃ name ∈ names, ((names.idxOf name + 1 : Nat) : Int) = i := by
    rw [← mem_indicesOf, indicesOf_columnResults, List.mem_map]
  rw [hin, hin]
  constructor
  · rintro ⟨hb, ⟨name, hname, hp⟩ | hnone, -⟩
    · exact ⟨name, hname, by omega⟩
    · -- a position of the catalog has a name, and so some position is included
      obtain ⟨name, hname⟩ := List.exists_mem_of_length_pos (l := names) (by omega)
      exact absurd ⟨_, List.mem_map_of_mem hname, _, List.mem_singleton_self _, by omega⟩ hnone
  · rintro ⟨name, hname, rfl⟩
    have hlt := List.idxOf_lt_length_of_mem hname
    refine ⟨by omega, .inl ⟨name, hname, rfl⟩, ?_⟩
    rintro ⟨other, -, hp⟩
    omega

/-- The names of a catalog, each asked for by itself, select the first position of each. -/
theorem selects_columnResults :
    Selects names (names.map (columnResult names)) (names.eraseDups.map fun name => names.idxOf name + 1) := by
  have hstanding : (names.eraseDups.map fun name => names.idxOf name + 1).Pairwise (· < ·) :=
    List.pairwise_map.2 ((pairwise_eraseDups names).imp Nat.succ_lt_succ)
  have horder {name : String} (hname : name ∈ names) :
      (indicesOf (names.map (columnResult names))).idxOf ((names.idxOf name + 1 : Nat) : Int) =
        names.idxOf name := by
    rw [indicesOf_columnResults]
    refine idxOf_map_of_inj (f := fun name => ((names.idxOf name + 1 : Nat) : Int)) fun other hother he => ?_
    exact (List.idxOf_inj hother).1 (by omega)
  refine ⟨fun p => ?_, hstanding.imp Nat.ne_of_lt, fun _ => ?_, fun _ => hstanding⟩
  · rw [isSelected_columnResults_iff, List.mem_map]
    simp only [List.mem_eraseDups]
  · refine List.pairwise_map.2 ((pairwise_eraseDups names).imp_of_mem fun ha hb h => ?_)
    rwa [horder (List.mem_eraseDups.1 ha), horder (List.mem_eraseDups.1 hb)]

/-- They are read under their own names. -/
theorem reads_columnResults :
    Reads names (names.map (columnResult names)) (names.eraseDups.map fun name => names.idxOf name + 1)
      (.identity names.eraseDups) := by
  unfold Reads Mapping.identity
  rw [List.forall₂_map_left_iff, List.forall₂_map_right_iff, List.forall₂_same]
  intro name hname
  have hposition := position?_of_mem (List.mem_eraseDups.1 hname)
  refine ⟨(position?_eq_some_iff.1 hposition).1, (outputName_of_unnamed ?_ _ _).symm⟩
  simp [columnResult]

/-- The names of a catalog, each asked for by itself, select the columns of these names, once each and in the
order in which they first occur, unless a matcher hides one of them. -/
theorem resolve_columns_eq_ok_iff [Pattern.Engine] (policy : MultiRename) {mapping : Mapping} :
    resolve names (.plain policy) (names.map columnTerm) = .ok mapping ↔
      (∀ m : Matcher, m.name ∉ names) ∧ Mapping.identity names.eraseDups = mapping := by
  rw [resolve_eq_ok_iff, ← forall_ofName?_eq_none_iff]
  have hmapping (hb : ∀ r ∈ names.map (columnResult names), ∀ i ∈ r.indices, i ≠ 0 ∧ i.natAbs ≤ names.length) :
      mappingOf names (names.map (columnResult names)) = .identity names.eraseDups := by
    have hreads := keptPositions_reads hb
    rw [(keptPositions_selects hb).unique (selects_columnResults names)] at hreads
    exact hreads.unique (reads_columnResults names)
  constructor
  · rintro ⟨results, hr, rfl⟩
    obtain ⟨ho, rfl⟩ := (forall₂_evaluate_columnTerm_iff fun _ h => h).1 hr.evaluate
    rw [Options.adjust_plain, hmapping hr.bound]
    exact ⟨ho, rfl⟩
  · rintro ⟨ho, rfl⟩
    have hr : Resolves names (.plain policy) (names.map columnTerm) (names.map (columnResult names)) :=
      ⟨(forall₂_evaluate_columnTerm_iff fun _ h => h).2 ⟨ho, rfl⟩, by simp [columnResult, MultiRename.Takes], nofun⟩
    exact ⟨_, hr, by rw [Options.adjust_plain, hmapping hr.bound]⟩

end

/-! ## Results asked for again -/

theorem identity_inj {names others : List String} : Mapping.identity names = .identity others ↔ names = others :=
  (List.map_injective_iff.2 fun _ _ h => congrArg Entry.output h).eq_iff

/-- The columns of a result, each asked for again by its output name, give the result as it is exactly when
the output names are distinct and none of them is the name of a matcher. -/
theorem resolve_outputs_eq_identity_iff [Pattern.Engine] (catalog : Catalog) (options : Options) (terms : List Term)
    (mapping : Mapping) : resolve catalog options terms = .ok mapping →
      (resolve mapping.outputs (.plain .numbered) (mapping.outputs.map columnTerm) =
          .ok (.identity mapping.outputs) ↔
        mapping.outputs.Nodup ∧ ∀ m : Matcher, m.name ∉ mapping.outputs) := by
  intro _
  rw [resolve_columns_eq_ok_iff, identity_inj, eraseDups_eq_self_iff, and_comm]

/-- Columns that swap their names come back; where both get one name, or one that of a matcher, they do not. -/
theorem resolve_outputs_eq_identity_iff_swapped :
    resolve ["a", "b"] (.plain .numbered) [⟨some "b", .column "a"⟩, ⟨some "a", .column "b"⟩] =
        .ok [⟨"b", "a"⟩, ⟨"a", "b"⟩] ∧
      resolve ["b", "a"] (.plain .numbered) [columnTerm "b", columnTerm "a"] = .ok (.identity ["b", "a"]) ∧
      resolve ["a", "b"] (.plain .numbered) [⟨some "x", .column "a"⟩, ⟨some "x", .column "b"⟩] =
        .ok [⟨"x", "a"⟩, ⟨"x", "b"⟩] ∧
      resolve ["x", "x"] (.plain .numbered) [columnTerm "x", columnTerm "x"] ≠ .ok (.identity ["x", "x"]) ∧
      resolve ["a", "b"] (.plain .numbered) [⟨some "contains", .column "a"⟩] = .ok [⟨"contains", "a"⟩] ∧
      resolve ["contains"] (.plain .numbered) [columnTerm "contains"] ≠ .ok (.identity ["contains"]) := by
  have hswap : resolve ["a", "b"] (.plain .numbered) [⟨some "b", .column "a"⟩, ⟨some "a", .column "b"⟩] =
      .ok [⟨"b", "a"⟩, ⟨"a", "b"⟩] := by
    decide +kernel
  have hsame : resolve ["a", "b"] (.plain .numbered) [⟨some "x", .column "a"⟩, ⟨some "x", .column "b"⟩] =
      .ok [⟨"x", "a"⟩, ⟨"x", "b"⟩] := by
    decide +kernel
  have hhidden : resolve ["a", "b"] (.plain .numbered) [⟨some "contains", .column "a"⟩] =
      .ok [⟨"contains", "a"⟩] := by
    decide +kernel
  refine ⟨hswap, ?_, hsame, fun h => ?_, hhidden, fun h => ?_⟩
  · exact (resolve_outputs_eq_identity_iff _ _ _ _ hswap).2 ⟨by decide, fun m => by cases m <;> decide⟩
  · exact absurd ((resolve_outputs_eq_identity_iff _ _ _ _ hsame).1 h).1 (by decide)
  · exact absurd (((resolve_outputs_eq_identity_iff _ _ _ _ hhidden).1 h).2 .contains) (by decide)

end ColumnSelect
