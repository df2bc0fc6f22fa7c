/-
Names and positions undo each other. The table that a pass over the names fills has the first position of
each name (`getElem?_table`), which is what a look-up gives; where no matcher hides it, a name stands for
that position. Every position that a name or a matcher gives lies in the catalog, so a change is of a
column that there is, whatever changes came before, and no position that a selection keeps is without its
entry. Main statement: `position_inverse`.
-/
import ColumnSelect.Pattern.Standard
import ColumnSelect.Proofs.Selection.Inverse

namespace ColumnSelect

/-! ## The table of first positions -/

/-- The table that a pass over the names fills. A name that is in it keeps its position. -/
def Catalog.table (catalog : Catalog) : Std.HashMap String Nat :=
  (catalog.zipIdx 1).foldl (fun table entry => table.insertIfNew entry.1 entry.2) ∅

/-- A step of the pass adds the name unless it is in the table. -/
theorem getElem?_insertIfNew_eq (table : Std.HashMap String Nat) (own name : String) (p : Nat) :
    (table.insertIfNew own p)[name]? = table[name]?.or (if own = name then some p else none) := by
  rw [Std.HashMap.getElem?_insertIfNew]
  by_cases h : own = name
  · subst h
    by_cases hm : own ∈ table
    · rw [if_neg (by simp [hm]), Std.HashMap.getElem?_eq_some_getElem hm, Option.some_or]
    · rw [if_pos (by simp [hm]), if_pos rfl, Std.HashMap.getElem?_eq_none hm, Option.none_or]
  · rw [if_neg (by simp [h]), if_neg h, Option.or_none]

/-- A pass over names, of which the first has the position `start`, adds the first position of each name
that was not in the table. -/
theorem getElem?_foldl_insertIfNew (names : List String) (start : Nat) (table : Std.HashMap String Nat)
    (name : String) :
    ((names.zipIdx start).foldl (fun table entry => table.insertIfNew entry.1 entry.2) table)[name]? =
      table[name]?.or ((names.findIdx? (· == name)).map (· + start)) := by
  induction names generalizing start table with
  | nil => exact Option.or_none.symm
  | cons own names ih =>
    rw [List.zipIdx_cons, List.foldl_cons, ih, getElem?_insertIfNew_eq, Option.or_assoc, List.findIdx?_cons]
    congr 1
    by_cases h : own = name
    · simp [h]
    · rw [if_neg h, if_neg (by simpa using h), Option.none_or, Option.map_map]
      congr 1
      funext i
      rw [Function.comp_apply, Nat.add_right_comm, Nat.add_assoc]

/-- The table has the first position of every name. -/
theorem getElem?_table (catalog : Catalog) (name : String) : catalog.table[name]? = catalog.position? name := by
  rw [Catalog.table, getElem?_foldl_insertIfNew, Std.HashMap.getElem?_empty, Option.none_or, Catalog.position?]

/-! ## Look-ups -/

theorem position_eq_ok_iff {catalog : Catalog} {name : String} {p : Nat} :
    catalog.position name = .ok p ↔ catalog.position? name = some p := by
  rw [Catalog.position]
  cases catalog.position? name <;> simp

theorem toOption_position (catalog : Catalog) (name : String) :
    (catalog.position name).toOption = catalog.position? name := by
  rw [Catalog.position]
  cases catalog.position? name <;> rfl

theorem mem_iff_exists_nameAt? {catalog : Catalog} {name : String} :
    name ∈ catalog ↔ ∃ p, catalog.nameAt? p = some name := by
  rw [List.mem_iff_getElem?]
  constructor
  · rintro ⟨i, hi⟩
    exact ⟨i + 1, hi⟩
  · rintro ⟨p, hp⟩
    obtain ⟨i, rfl⟩ : ∃ i, p = i + 1 := ⟨p - 1, by have := (bound_of_nameAt? hp).1; omega⟩
    exact ⟨i, hp⟩

theorem lookup?_name (catalog : Catalog) (m : Matcher) : catalog.lookup? m.name = some (.matcher m) := by
  rw [Catalog.lookup?, Matcher.ofName?_name]

/-- A name that is no matcher's stands for its position. -/
theorem lookup?_of_ne_name (catalog : Catalog) {name : String} (h : ∀ m : Matcher, m.name ≠ name) :
    catalog.lookup? name = (catalog.position? name).map .position := by
  have hnone : Matcher.ofName? name = none := by
    cases ho : Matcher.ofName? name with
    | none => rfl
    | some m => exact absurd (Matcher.name_of_ofName? ho) (h m)
  rw [Catalog.lookup?, hnone]

theorem position?_of_lookup? {catalog : Catalog} {name : String} {p : Nat}
    (h : catalog.lookup? name = some (.position p)) : catalog.position? name = some p := by
  by_cases hm : ∀ m : Matcher, m.name ≠ name
  · rw [lookup?_of_ne_name catalog hm] at h
    simpa using h
  · -- the name of a matcher stands for no position
    obtain ⟨m, hm⟩ := not_forall.1 hm
    rw [← not_not.1 hm, lookup?_name] at h
    cases h

/-! ## Positions obtained -/

/-- The ways to a position of the catalog: the look-up of a column, that of any name, and what a matcher
selects. -/
inductive Catalog.Obtained [Pattern.Engine] (catalog : Catalog) (p : Nat) : Prop
  | column {name : String} (h : catalog.position name = .ok p)
  | name {name : String} (h : catalog.lookup? name = some (.position p))
  | selected {call : Matcher.Call} {positions : List Nat} (h : call.apply catalog = .ok positions)
      (hp : p ∈ positions)

theorem Catalog.Obtained.bound [Pattern.Engine] {catalog : Catalog} {p : Nat} (h : catalog.Obtained p) :
    1 ≤ p ∧ p ≤ catalog.length := by
  cases h with
  | column h => exact bound_of_position? (position_eq_ok_iff.1 h)
  | name h => exact bound_of_position? (position?_of_lookup? h)
  | selected h hp => exact Matcher.bound_of_apply h p hp

/-- A change is of a column that there is. -/
theorem Term.bound_of_change {catalog : Catalog} {t : Term} {c : Change} (h : t.change catalog = .ok c) :
    1 ≤ c.position ∧ c.position ≤ catalog.length := by
  obtain ⟨e, -, he, -⟩ := Term.change_eq_ok_iff.1 h
  exact bound_of_position? he

/-- The positions that evaluated terms keep lie in the catalog. -/
theorem bound_of_mem_keptPositions [Pattern.Engine] {catalog : Catalog} {policy : MultiRename} {terms : List Term}
    {evaluated : List Evaluated} (h : evaluateTerms catalog policy 1 terms = (evaluated, none)) :
    ∀ p ∈ (keptPositions catalog.length (evaluated.flatMap Evaluated.assignments)).map Prod.fst,
      1 ≤ p ∧ p ≤ catalog.length := by
  obtain ⟨results, hr⟩ := forall₂_of_evaluateTerms h
  obtain ⟨-, rfl⟩ := (evaluateTerms_eq_iff hr policy 1 _).1 h
  rw [flatMap_evaluatedFrom 1 hr]
  intro p hp
  exact (((keptPositions_selects (bound_of_evaluate hr)).mem p).1 hp).1

theorem resolve_of_evaluateTerms [Pattern.Engine] {catalog : Catalog} {options : Options} {terms : List Term}
    {evaluated : List Evaluated} (h : evaluateTerms catalog options.multiRename 1 terms = (evaluated, none)) :
    resolve catalog options terms = options.apply catalog
      (entriesAt catalog (keptPositions catalog.length (evaluated.flatMap Evaluated.assignments))) := by
  rw [resolve, resolution, h]
  exact map_reduce catalog options evaluated

/-- Names and positions undo each other, whichever names the catalog has and however often. The table that a
pass over the names fills has the first position of each, a look-up gives the least position with that name,
and it fails, telling the name, exactly where no position has it. The name of a matcher stands for the
matcher, any other for its position. So every position obtained lies in the catalog and has a name there,
the position of a change is one of the names as earlier changes left them, and a selection has one entry for
each position it keeps, which reads the column there. -/
theorem position_inverse [Pattern.Engine] (catalog : Catalog) :
    (∀ name : String, catalog.table[name]? = catalog.position? name) ∧
      (∀ name p, catalog.position name = .ok p ↔
        catalog.nameAt? p = some name ∧ ∀ q < p, catalog.nameAt? q ≠ some name) ∧
      (∀ name e, catalog.position name = .error e ↔
        (∀ p, catalog.nameAt? p ≠ some name) ∧ Error.ofCause (.unknownVariable name) = e) ∧
      (∀ m : Matcher, catalog.lookup? m.name = some (.matcher m)) ∧
      (∀ name, (∀ m : Matcher, m.name ≠ name) →
        catalog.lookup? name = (catalog.position name).toOption.map .position) ∧
      (∀ p, catalog.Obtained p → (1 ≤ p ∧ p ≤ catalog.length) ∧ ∃ name, catalog.nameAt? p = some name) ∧
      (∀ (t : Term) (c : Change) (earlier : List Change), t.change catalog = .ok c →
        1 ≤ c.position ∧ c.position - 1 < (applyChanges catalog earlier).length) ∧
      ∀ options terms evaluated kept,
        evaluateTerms catalog options.multiRename 1 terms = (evaluated, none) →
        keptPositions catalog.length (evaluated.flatMap Evaluated.assignments) = kept →
        resolve catalog options terms = options.apply catalog (entriesAt catalog kept) ∧
          List.Forall₂ (fun p e => catalog.nameAt? p.1 = some e.source ∧ e.output = p.2.getD e.source) kept
            (entriesAt catalog kept) := by
  refine ⟨getElem?_table catalog, fun name p => ?_, fun name e => ?_, lookup?_name catalog, fun name h => ?_,
    fun p h => ⟨h.bound, nameAt?_isSome h.bound⟩, fun t c earlier h => ?_, ?_⟩
  · rw [position_eq_ok_iff, position?_eq_some_iff]
  · rw [position_eq_error_iff, mem_iff_exists_nameAt?, not_exists]
  · rw [toOption_position, lookup?_of_ne_name catalog h]
  · -- changes keep the number of names
    have hbound := Term.bound_of_change h
    rw [length_applyChanges]
    omega
  · rintro options terms evaluated kept h rfl
    exact ⟨resolve_of_evaluateTerms h, entriesAt_forall₂ (bound_of_mem_keptPositions h)⟩

/-- A name that stands twice and an empty one stand for the first position of each, and that of a matcher
for the matcher, though its column has a position too. Both columns that are kept have their entries. -/
theorem position_inverse_repeated :
    Catalog.lookup? ["a", "", "a", "contains"] "" = some (.position 2) ∧
      Catalog.position ["a", "", "a", "contains"] "a" = .ok 1 ∧
      (∃ name, Catalog.nameAt? ["a", "", "a", "contains"] 4 = some name) ∧
      2 - 1 < (applyChanges ["a", "", "a", "contains"] [⟨1, "y"⟩, ⟨2, "z"⟩]).length ∧
      resolve ["a", "", "a", "contains"] (.plain .numbered) [⟨some "n", .int 3⟩, ⟨none, .column ""⟩] =
        .ok [⟨"n", "a"⟩, ⟨"", ""⟩] := by
  obtain ⟨-, hposition, -, -, hlookup, hobtained, hchange, hkept⟩ := position_inverse ["a", "", "a", "contains"]
  have hempty : ∀ m : Matcher, m.name ≠ "" := by
    intro m
    cases m <;> decide
  have hresults : List.Forall₂ (fun t r => Term.evaluate ["a", "", "a", "contains"] t = .ok r)
      [⟨some "n", .int 3⟩, ⟨none, .column ""⟩] [⟨[3], some "n"⟩, ⟨[2], none⟩] :=
    .cons (by decide +kernel) (.cons (by decide +kernel) .nil)
  refine ⟨?_, ?_, ?_, ?_, ?_⟩
  · rw [hlookup "" hempty]
    rfl
  · refine (hposition "a" 1).2 ⟨rfl, fun q hq => ?_⟩
    rw [Nat.lt_one_iff.1 hq]
    exact nofun
  · exact (hobtained 4 (.column (by rfl : Catalog.position _ "contains" = .ok 4))).2
  · exact (hchange ⟨some "x", .column ""⟩ ⟨2, "x"⟩ _ (by decide +kernel)).2
  · exact (hkept (.plain .numbered) _ _ [(3, some "n"), (2, none)]
      ((evaluateTerms_eq_iff hresults .numbered 1 _).2 ⟨by simp [MultiRename.Takes], rfl⟩) rfl).1

end ColumnSelect
