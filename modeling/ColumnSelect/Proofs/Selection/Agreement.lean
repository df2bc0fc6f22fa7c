/-
A rename done by a selection. The terms of a rename, with all positions behind them, select every column
under the name that the rename gives it, though in another order: the first term that includes a position
decides its name, and in a rename the last; where no column is renamed twice these are the same. Where
the rename fails, the selection fails with the same error. Main statement: `rename_agrees_resolve`.
-/
import ColumnSelect.Pattern.Standard
import ColumnSelect.Proofs.Catalog
import ColumnSelect.Proofs.Selection.Fault
import ColumnSelect.Proofs.Selection.Options
import ColumnSelect.Proofs.Selection.Order
import ColumnSelect.Proofs.Selection.Rename

namespace ColumnSelect

/-! ## The terms -/

/-- The term that asks for a column under a name. -/
def Entry.term (e : Entry) : Term := ⟨some e.output, .column e.source⟩

/-- The term that asks for a position. -/
def positionTerm (number : Int64) : Term := ⟨none, .int number⟩

/-- The result of the term that asks for a position. -/
def positionResult (number : Int64) : TermResult := ⟨[number.toInt], none⟩

theorem Entry.change_term (catalog : Catalog) (e : Entry) :
    e.term.change catalog = (catalog.position e.source).map (⟨·, e.output⟩) := by
  unfold Term.change
  rw [Entry.term, checkDepth_column]
  cases h : catalog.position e.source <;> simp only [h] <;> rfl

theorem Entry.change_term_eq_ok_iff {catalog : Catalog} {e : Entry} {c : Change} :
    e.term.change catalog = .ok c ↔ catalog.position? e.source = some c.position ∧ e.output = c.name := by
  rw [Entry.change_term, map_eq_ok_iff, Catalog.position]
  obtain ⟨p, name⟩ := c
  cases catalog.position? e.source <;> simp

/-- A change is at a position that has the old name. -/
theorem nameAt?_of_change {catalog : Catalog} {e : Entry} {c : Change} (h : e.term.change catalog = .ok c) :
    catalog.nameAt? c.position = some e.source :=
  (position?_eq_some_iff.1 (Entry.change_term_eq_ok_iff.1 h).1).1

theorem Entry.evaluate_term [Pattern.Engine] {catalog : Catalog} {e : Entry} (h : Matcher.ofName? e.source = none) :
    e.term.evaluate catalog = (catalog.position e.source).map fun p => ⟨[(p : Int)], some e.output⟩ :=
  Term.evaluate_column h _

theorem evaluate_positionTerm [Pattern.Engine] {catalog : Catalog} {number : Int64}
    (h : 1 ≤ number.toInt ∧ number.toInt ≤ catalog.length) :
    (positionTerm number).evaluate catalog = .ok (positionResult number) := by
  refine Term.evaluate_eq_ok_iff.2 ⟨?_, rfl, bound_of_mem_singleton h, rfl⟩
  simp [positionTerm, Expr.nesting, maxNesting]

/-! ## Errors -/

/-- Both a selection and a rename refuse a column that is not in the catalog, and nothing else. -/
theorem Entry.fault_term_iff [Pattern.Engine] {catalog : Catalog} {e : Entry}
    (h : Matcher.ofName? e.source = none) (own : Error) :
    e.term.Fault catalog .numbered own ↔ e.term.RenameFault catalog own := by
  rw [← Term.change_eq_error_iff, Entry.change_term, map_eq_error_iff]
  constructor
  · intro hf
    cases hf with
    | evaluation he => rwa [Entry.evaluate_term h, map_eq_error_iff] at he
    | refusal _ hp => cases hp
  · intro hp
    exact .evaluation (by rw [Entry.evaluate_term h, map_eq_error_iff, hp])

/-! ## Names -/

/-- The result of the term that asks for a change. -/
def Change.result (c : Change) : TermResult := ⟨[(c.position : Int)], some c.name⟩

/-- Where each position is changed once, the last change of it is the first. -/
theorem newName?_eq_of_nodup {cs : List Change} (h : (cs.map Change.position).Nodup) (p : Nat) :
    newName? cs p = (cs.find? (·.position = p)).map Change.name := by
  induction cs with
  | nil => rfl
  | cons c cs ih =>
    obtain ⟨hc, hcs⟩ := List.nodup_cons.1 h
    rw [newName?, List.reverse_cons, List.find?_append, List.find?_cons]
    by_cases hp : c.position = p
    · -- no later change is of this position
      have hnone : cs.reverse.find? (·.position = p) = none := by
        rw [List.find?_eq_none]
        intro c' hc' hp'
        refine hc (List.mem_map.2 ⟨c', List.mem_reverse.1 hc', ?_⟩)
        rw [hp]
        simpa using hp'
      simp [hnone, hp]
    · rw [newName?] at ih
      simp [hp, ih hcs]

theorem find?_result (cs : List Change) (p : Nat) :
    (cs.map Change.result).find? (fun r => (p : Int) ∈ r.indices) =
      (cs.find? (·.position = p)).map Change.result := by
  rw [List.find?_map]
  congr 2
  funext c
  simp only [Function.comp_apply, Change.result, List.mem_singleton, Int.natCast_inj, eq_comm]

/-- With the results of unnamed terms behind those of changes, the first change of a position names it. -/
theorem outputName_changes (cs : List Change) {others : List TermResult} (h : ∀ r ∈ others, r.name = none)
    (p : Nat) (own : String) :
    outputName (cs.map Change.result ++ others) p own =
      ((cs.find? (·.position = p)).map Change.name).getD own := by
  rw [outputName, List.find?_append, find?_result]
  cases hc : cs.find? (·.position = p) with
  | some c =>
    have hp : c.position = p := by simpa using List.find?_some hc
    simp [Change.result, TermResult.nameOf?, hp]
  | none => exact outputName_of_unnamed h p own

/-- The mapping of a rename, read as that of results that name the positions alike. -/
theorem reads_applyChanges (catalog : Catalog) {cs : List Change} {results : List TermResult}
    (hpos : ∀ c ∈ cs, 1 ≤ c.position)
    (hname : ∀ p own, outputName results p own = (newName? cs p).getD own) :
    Reads catalog results (allPositions catalog.length)
      ((applyChanges catalog cs).zipWith Entry.mk catalog) := by
  have hl := length_applyChanges catalog cs
  refine List.forall₂_iff_get.2 ⟨by simp [allPositions, hl], fun i hi hi' => ?_⟩
  have hi : i < catalog.length := by simpa [allPositions] using hi
  have happly := getElem?_applyChanges catalog hpos i
  rw [List.getElem?_eq_getElem (by omega), List.getElem?_eq_getElem hi, Option.map_some] at happly
  simp only [List.get_eq_getElem, allPositions, List.getElem_range', Nat.one_mul, List.getElem_zipWith]
  rw [Nat.add_comm, nameAt?_succ, hname]
  exact ⟨List.getElem?_eq_getElem hi, Option.some.inj happly⟩

/-! ## Columns -/

/-- Results that include every position and exclude none select every column, under the names that they
give. -/
theorem perm_mappingOf_of_reads {catalog : Catalog} {results : List TermResult} {mapping : Mapping}
    (hb : ∀ r ∈ results, ∀ i ∈ r.indices, i ≠ 0 ∧ i.natAbs ≤ catalog.length)
    (hpos : ∀ r ∈ results, ∀ i ∈ r.indices, 1 ≤ i)
    (hall : ∀ p ∈ allPositions catalog.length, ∃ r ∈ results, (p : Int) ∈ r.indices)
    (hread : Reads catalog results (allPositions catalog.length) mapping) :
    (mappingOf catalog results).Perm mapping := by
  have hs := keptPositions_selects hb
  have hperm := (List.perm_ext_iff_of_nodup List.nodup_range' hs.nodup).2 fun p => by
    rw [hs.mem, ← allPositions, IsSelected, ← mem_allPositions]
    refine ⟨fun hp => ⟨hp, .inl (hall p hp), ?_⟩, fun h => h.1⟩
    rintro ⟨r, hr, hi⟩
    have := hpos r hr _ hi
    have := ((mem_allPositions _ _).1 hp).1
    omega
  -- the positions that are kept are all in another order, and the entries follow them
  obtain ⟨mapping', hread', hm⟩ := List.perm_comp_forall₂ hperm (keptPositions_reads hb)
  rw [hread.unique hread']
  exact hm.symm

/-- The output names under which a mapping reads a column. -/
def Mapping.outputsOf (mapping : Mapping) (source : String) : List String :=
  (mapping.filter (·.source = source)).map Entry.output

/-- Of columns with different names, each has one output name. -/
theorem exists_outputsOf {mapping : Mapping} (hn : mapping.sources.Nodup) {source : String}
    (h : source ∈ mapping.sources) : ∃ output, mapping.outputsOf source = [output] := by
  induction mapping with
  | nil => cases h
  | cons e mapping ih =>
    obtain ⟨he, hn⟩ := List.nodup_cons.1 hn
    rw [Mapping.outputsOf, List.filter_cons]
    by_cases hs : e.source = source
    · -- the column is read by the first entry and by no other
      have hnone : mapping.filter (·.source = source) = [] := by
        rw [List.filter_eq_nil_iff]
        intro e' he' hs'
        refine he (List.mem_map.2 ⟨e', he', ?_⟩)
        rw [hs]
        simpa using hs'
      exact ⟨e.output, by simp [hs, hnone]⟩
    · have hin : source ∈ Mapping.sources mapping := (List.mem_cons.1 h).resolve_left fun he => hs he.symm
      obtain ⟨output, ho⟩ := ih hn hin
      exact ⟨output, by rw [if_neg (by simpa using hs)]; exact ho⟩

/-! ## Both ways -/

/-- The changes are at the positions of the old names, so not two at one position. -/
theorem nodup_position_changes {catalog : Catalog} {entries : Mapping} (hd : entries.sources.Nodup)
    {cs : List Change}
    (h : List.Forall₂ (fun t c => Term.change catalog t = .ok c) (entries.map Entry.term) cs) :
    (cs.map Change.position).Nodup := by
  have hnames : (cs.map Change.position).map catalog.nameAt? = entries.sources.map some := by
    clear hd
    rw [List.forall₂_map_left_iff] at h
    induction h with
    | nil => rfl
    | @cons e c entries cs hc _ ih =>
      rw [List.map_cons, List.map_cons, ih, nameAt?_of_change hc]
      rfl
  refine List.Nodup.of_map catalog.nameAt? ?_
  rw [hnames]
  exact hd.map fun _ _ => Option.some.inj

section

variable {catalog : Catalog} {entries : Mapping} {numbers : List Int64}

/-- The terms of a rename evaluate to the positions that it changes, under the new names. -/
theorem forall₂_evaluate_term [Pattern.Engine] (hm : ∀ m : Matcher, m.name ∉ entries.sources) {cs : List Change}
    (h : List.Forall₂ (fun t c => Term.change catalog t = .ok c) (entries.map Entry.term) cs) :
    List.Forall₂ (fun t r => t.evaluate catalog = .ok r) (entries.map Entry.term) (cs.map Change.result) := by
  rw [List.forall₂_map_left_iff] at h ⊢
  rw [List.forall₂_map_right_iff]
  have hmatchers : ∀ e ∈ entries, Matcher.ofName? e.source = none := fun e he =>
    forall_ofName?_eq_none_iff.2 hm _ (List.mem_map_of_mem he)
  refine ((List.forall₂_and_left _ _).2 ⟨hmatchers, h⟩).imp ?_
  rintro e c ⟨he, hc⟩
  obtain ⟨hp, hname⟩ := Entry.change_term_eq_ok_iff.1 hc
  rw [Entry.evaluate_term he, Catalog.position, hp, hname]
  rfl

theorem bound_of_mem_numbers
    (hn : numbers.map Int64.toInt = (allPositions catalog.length).map Int.ofNat) {number : Int64}
    (h : number ∈ numbers) : 1 ≤ number.toInt ∧ number.toInt ≤ catalog.length := by
  have hi : number.toInt ∈ (allPositions catalog.length).map Int.ofNat := by
    rw [← hn]
    exact List.mem_map_of_mem h
  obtain ⟨p, hp, hpn⟩ := List.mem_map.1 hi
  rw [mem_allPositions] at hp
  rw [← hpn]
  exact ⟨Int.ofNat_le.2 hp.1, Int.ofNat_le.2 hp.2⟩

/-- The terms for the positions evaluate to these. -/
theorem forall₂_evaluate_positionTerm [Pattern.Engine]
    (hn : numbers.map Int64.toInt = (allPositions catalog.length).map Int.ofNat) :
    List.Forall₂ (fun t r => t.evaluate catalog = .ok r) (numbers.map positionTerm)
      (numbers.map positionResult) := by
  rw [List.forall₂_map_left_iff, List.forall₂_map_right_iff, List.forall₂_same]
  exact fun number hnumber => evaluate_positionTerm (bound_of_mem_numbers hn hnumber)

/-- A rename and the selection of its terms with the positions behind them fail alike. -/
theorem rename_eq_error_iff_resolve [Pattern.Engine] (hm : ∀ m : Matcher, m.name ∉ entries.sources)
    (hn : numbers.map Int64.toInt = (allPositions catalog.length).map Int.ofNat) (e : Error) :
    rename catalog (entries.map Entry.term) = .error e ↔
      resolve catalog (.plain .numbered) (entries.map Entry.term ++ numbers.map positionTerm) = .error e := by
  have hpositions : ∀ u ∈ numbers.map positionTerm, ∀ own, ¬ u.Fault catalog .numbered own := by
    intro u hu own hf
    obtain ⟨r, -, hr⟩ := exists_of_forall₂ (forall₂_evaluate_positionTerm hn) u hu
    cases hf with
    | evaluation he =>
      rw [he] at hr
      cases hr
    | refusal _ hp => cases hp
  have hterms : ∀ t ∈ entries.map Entry.term, ∀ own,
      t.Fault catalog .numbered own ↔ t.RenameFault catalog own := by
    intro t ht own
    obtain ⟨entry, he, rfl⟩ := List.mem_map.1 ht
    exact Entry.fault_term_iff (forall_ofName?_eq_none_iff.2 hm _ (List.mem_map_of_mem he)) own
  -- so the first fault is that of a rename, and under the same number
  have hfirst (number : Nat) (own : Error) :
      FirstFault (Term.Fault catalog .numbered) (entries.map Entry.term ++ numbers.map positionTerm) number own ↔
        FirstFault (Term.RenameFault catalog) (entries.map Entry.term) number own := by
    rw [firstFault_append_iff hpositions, firstFault_congr hterms]
  rw [rename_eq_error_iff, resolve_eq_error_iff]
  constructor
  · rintro ⟨number, own, hf, rfl⟩
    exact .term ((hfirst number own).2 hf)
  · intro h
    cases h with
    | term hf => exact ⟨_, _, (hfirst _ _).1 hf, rfl⟩
    | option _ hname => cases hname

/-- Where the rename succeeds, the selection succeeds with the same entries. -/
theorem exists_resolve_perm_of_rename [Pattern.Engine] (hd : entries.sources.Nodup)
    (hm : ∀ m : Matcher, m.name ∉ entries.sources)
    (hn : numbers.map Int64.toInt = (allPositions catalog.length).map Int.ofNat) {renamed : Mapping}
    (h : rename catalog (entries.map Entry.term) = .ok renamed) :
    ∃ selected,
      resolve catalog (.plain .numbered) (entries.map Entry.term ++ numbers.map positionTerm) = .ok selected ∧
        selected.Perm renamed := by
  obtain ⟨cs, hcs, rfl⟩ := rename_eq_ok_iff.1 h
  have hresolves : Resolves catalog (.plain .numbered) (entries.map Entry.term ++ numbers.map positionTerm)
      (cs.map Change.result ++ numbers.map positionResult) :=
    ⟨List.rel_append (forall₂_evaluate_term hm hcs) (forall₂_evaluate_positionTerm hn), fun _ _ => nofun, nofun⟩
  refine ⟨_, resolve_eq_ok_iff.2 ⟨_, hresolves, rfl⟩, ?_⟩
  rw [Options.adjust_plain]
  have hchanges : ∀ c ∈ cs, 1 ≤ c.position := by
    intro c hc
    obtain ⟨t, ht, hchange⟩ := exists_of_forall₂ hcs.flip c hc
    obtain ⟨e, -, rfl⟩ := List.mem_map.1 ht
    exact (bound_of_nameAt? (nameAt?_of_change hchange)).1
  refine perm_mappingOf_of_reads hresolves.bound ?_ ?_ (reads_applyChanges catalog hchanges fun p own => ?_)
  · -- no term excludes a position
    intro r hr i hi
    rcases List.mem_append.1 hr with hr | hr
    · obtain ⟨c, hc, rfl⟩ := List.mem_map.1 hr
      rw [List.mem_singleton.1 hi]
      exact Int.ofNat_le.2 (hchanges c hc)
    · obtain ⟨number, hnumber, rfl⟩ := List.mem_map.1 hr
      rw [List.mem_singleton.1 hi]
      exact (bound_of_mem_numbers hn hnumber).1
  · -- those behind the terms of the rename include every position
    intro p hp
    have hi : (p : Int) ∈ numbers.map Int64.toInt := by
      rw [hn]
      exact List.mem_map_of_mem hp
    obtain ⟨number, hnumber, hpn⟩ := List.mem_map.1 hi
    refine ⟨positionResult number, List.mem_append_right _ (List.mem_map_of_mem hnumber), ?_⟩
    exact List.mem_singleton.2 hpn.symm
  · rw [outputName_changes, newName?_eq_of_nodup (nodup_position_changes hd hcs)]
    intro r hr
    obtain ⟨number, -, rfl⟩ := List.mem_map.1 hr
    rfl

end

/-- With the same entries, columns have the same output names. -/
theorem outputsOf_eq_of_perm {mapping mapping' : Mapping} (h : mapping'.Perm mapping) {source output : String}
    (ho : mapping.outputsOf source = [output]) : mapping'.outputsOf source = [output] := by
  have hp : (mapping'.outputsOf source).Perm (mapping.outputsOf source) := (h.filter _).map _
  rw [ho] at hp
  exact List.perm_singleton.1 hp

/-- Renaming columns of a catalog without repeated names, none of them twice and none hidden by a matcher,
and selecting the same terms with all positions behind them either fail with the same error, or both
succeed; then each column has one output name in the one mapping and in the other, and it is the same. -/
theorem rename_agrees_resolve [Pattern.Engine] {catalog : Catalog} (hc : catalog.Nodup) {entries : Mapping}
    (hd : entries.sources.Nodup) (hm : ∀ m : Matcher, m.name ∉ entries.sources) {numbers : List Int64}
    (hn : numbers.map Int64.toInt = (allPositions catalog.length).map Int.ofNat) :
    (∃ e, rename catalog (entries.map Entry.term) = .error e ∧
      resolve catalog (.plain .numbered) (entries.map Entry.term ++ numbers.map positionTerm) = .error e) ∨
    ∃ renamed selected, rename catalog (entries.map Entry.term) = .ok renamed ∧
      resolve catalog (.plain .numbered) (entries.map Entry.term ++ numbers.map positionTerm) = .ok selected ∧
      ∀ column ∈ catalog, ∃ output,
        renamed.outputsOf column = [output] ∧ selected.outputsOf column = [output] := by
  cases hr : rename catalog (entries.map Entry.term) with
  | error e => exact .inl ⟨e, rfl, (rename_eq_error_iff_resolve hm hn e).1 hr⟩
  | ok renamed =>
    obtain ⟨selected, hs, hp⟩ := exists_resolve_perm_of_rename hd hm hn hr
    refine .inr ⟨renamed, selected, rfl, hs, fun column hcolumn => ?_⟩
    rw [← sources_rename hr] at hc hcolumn
    obtain ⟨output, ho⟩ := exists_outputsOf hc hcolumn
    exact ⟨output, ho, outputsOf_eq_of_perm hp ho⟩

/-- Two columns swap their names. The selection puts them in front in the order of the terms, the rename
leaves them where they are. -/
theorem rename_agrees_resolve_swapped :
    rename ["a", "b", "c"] ([⟨"a", "c"⟩, ⟨"c", "a"⟩].map Entry.term) =
        .ok [⟨"c", "a"⟩, ⟨"b", "b"⟩, ⟨"a", "c"⟩] ∧
      resolve ["a", "b", "c"] (.plain .numbered)
          ([⟨"a", "c"⟩, ⟨"c", "a"⟩].map Entry.term ++ [1, 2, 3].map positionTerm) =
        .ok [⟨"a", "c"⟩, ⟨"c", "a"⟩, ⟨"b", "b"⟩] ∧
      ∃ renamed selected, rename ["a", "b", "c"] ([⟨"a", "c"⟩, ⟨"c", "a"⟩].map Entry.term) = .ok renamed ∧
        resolve ["a", "b", "c"] (.plain .numbered)
            ([⟨"a", "c"⟩, ⟨"c", "a"⟩].map Entry.term ++ [1, 2, 3].map positionTerm) = .ok selected ∧
        ∀ column ∈ ["a", "b", "c"], ∃ output,
          Mapping.outputsOf renamed column = [output] ∧ Mapping.outputsOf selected column = [output] := by
  have hr : rename ["a", "b", "c"] ([⟨"a", "c"⟩, ⟨"c", "a"⟩].map Entry.term) =
      .ok [⟨"c", "a"⟩, ⟨"b", "b"⟩, ⟨"a", "c"⟩] := by
    decide +kernel
  have hs : resolve ["a", "b", "c"] (.plain .numbered)
      ([⟨"a", "c"⟩, ⟨"c", "a"⟩].map Entry.term ++ [1, 2, 3].map positionTerm) =
        .ok [⟨"a", "c"⟩, ⟨"c", "a"⟩, ⟨"b", "b"⟩] := by
    decide +kernel
  refine ⟨hr, hs, ?_⟩
  rcases @rename_agrees_resolve _ ["a", "b", "c"] (by decide) [⟨"a", "c"⟩, ⟨"c", "a"⟩] (by decide)
    (fun m => by cases m <;> decide) [1, 2, 3] (by decide) with ⟨e, he, -⟩ | h
  · rw [hr] at he
    cases he
  · exact h

end ColumnSelect
