/-
A catalog with more columns behind. Its own names and positions mean there what they meant before, since a
name stands for its first position and positions count from the front, and so does every expression that
calls no matcher, which alone look through all columns (`eval_append`). A selection takes all columns only
where no term includes any, so one that includes some selects the same columns (`mappingOf_append`). Main
statement: `resolve_append`.
-/
import ColumnSelect.Pattern.Standard
import ColumnSelect.Proofs.Expr.Meaning
import ColumnSelect.Proofs.Selection.Order

namespace ColumnSelect

/-! ## Names and positions -/

variable {catalog : Catalog}

theorem nameAt?_append {p : Nat} (h : p ≤ catalog.length) (others : Catalog) :
    Catalog.nameAt? (catalog ++ others) p = catalog.nameAt? p := by
  cases p with
  | zero => rfl
  | succ i => rw [nameAt?_succ, nameAt?_succ, List.getElem?_append_left h]

theorem position?_append {name : String} {p : Nat} (h : catalog.position? name = some p) (others : Catalog) :
    Catalog.position? (catalog ++ others) name = some p := by
  obtain ⟨hp, hbefore⟩ := position?_eq_some_iff.1 h
  have hle := (bound_of_nameAt? hp).2
  refine position?_eq_some_iff.2 ⟨(nameAt?_append hle others).trans hp, fun q hq => ?_⟩
  rw [nameAt?_append (by omega)]
  exact hbefore q hq

/-! ## Expressions -/

namespace Expr

/-- The expression is no call of a matcher. The name `c` is that of none: it lists its arguments. -/
def NoMatcherCall (e : Expr) : Prop := ∀ function args, e = .call function args → Matcher.ofName? function = none

theorem columnValue_append {name : String} {v : Value} (h : columnValue catalog name = .ok v) (others : Catalog) :
    columnValue (catalog ++ others) name = .ok v := by
  unfold columnValue Catalog.lookup? at h ⊢
  cases ho : Matcher.ofName? name with
  | some m =>
    rw [ho] at h
    cases h
  | none =>
    rw [ho] at h
    cases hp : catalog.position? name with
    | none =>
      rw [hp] at h
      cases h
    | some p =>
      rw [hp] at h
      rw [position?_append hp]
      exact h

/-- A call of no matcher that has a value is a call of `c`, and lists its arguments. -/
theorem eq_c_of_callValue [Pattern.Engine] {function : String} {operands : List Matcher.Operand} {v : Value}
    (hm : Matcher.ofName? function = none) (h : callValue catalog function operands = .ok v) : function = "c" := by
  by_contra hc
  rw [callValue, if_neg hc, Catalog.lookup?, hm] at h
  cases hp : catalog.position? function with
  | none =>
    rw [hp] at h
    cases h
  | some p =>
    rw [hp] at h
    cases h

/-- An expression that calls no matcher keeps its value when columns are appended. -/
theorem eval_append [Pattern.Engine] {e : Expr} (he : e.Every NoMatcherCall) {v : Value} (h : e.eval catalog = .ok v)
    (others : Catalog) : e.eval (catalog ++ others) = .ok v := by
  induction e using ind generalizing v with
  | column name => exact columnValue_append h others
  | range first last hfirst hlast =>
    obtain ⟨a, b, ha, hb, hv⟩ := eval_range_eq_ok_iff.1 h
    exact eval_range_eq_ok_iff.2 ⟨a, b, hfirst he.2.1 ha, hlast he.2.2 hb, hv⟩
  | negate inner hinner =>
    obtain ⟨numbers, hn, hv⟩ := eval_negate_eq_ok_iff.1 h
    exact eval_negate_eq_ok_iff.2 ⟨numbers, hinner he.2 hn, hv⟩
  | call function args hargs =>
    have hvalue := h
    rw [eval] at hvalue
    obtain rfl := eq_c_of_callValue (he.1 function args rfl) hvalue
    have hnames : ∀ a ∈ args, a.name = none := (every_iff.1 (unnamedItems_of_eval h)).1 args rfl
    rw [eval_call_c hnames] at h ⊢
    rw [← List.map_id (args.map Arg.value)]
    refine eval_list_map (List.forall_mem_map.2 fun a ha w hw => ?_) h
    exact hargs a ha (everyAll_args_iff.1 he.2 a ha) hw
  | list items hitems =>
    rw [← List.map_id items]
    exact eval_list_map (fun e hmem w hw => hitems e hmem (everyAll_iff.1 he.2 e hmem) hw) h
  | _ => exact h

end Expr

/-! ## Terms and selections -/

theorem Term.evaluate_append [Pattern.Engine] {t : Term} {r : TermResult} (ht : t.expr.Every Expr.NoMatcherCall)
    (h : t.evaluate catalog = .ok r) (others : Catalog) : t.evaluate (catalog ++ others) = .ok r := by
  obtain ⟨hn, hv, hb, hname⟩ := Term.evaluate_eq_ok_iff.1 h
  refine Term.evaluate_eq_ok_iff.2 ⟨hn, Expr.eval_append ht hv others, fun i hi => ?_, hname⟩
  obtain ⟨h0, hi⟩ := hb i hi
  rw [List.length_append]
  exact ⟨h0, by omega⟩

theorem Resolves.append [Pattern.Engine] {options : Options} {terms : List Term} {results : List TermResult}
    (h : Resolves catalog options terms results) (hterms : ∀ t ∈ terms, t.expr.Every Expr.NoMatcherCall)
    (others : Catalog) : Resolves (catalog ++ others) options terms results := by
  refine ⟨?_, h.takes, fun name hname => List.mem_append_left _ (h.known name hname)⟩
  have hboth := (List.forall₂_and_left _ _).2 ⟨hterms, h.evaluate⟩
  exact hboth.imp fun t r ht => Term.evaluate_append ht.1 ht.2 others

/-- Positions of the catalog read the same columns. -/
theorem entriesAt_append {kept : List (Nat × Option String)} (h : ∀ p ∈ kept, p.1 ≤ catalog.length)
    (others : Catalog) : entriesAt (catalog ++ others) kept = entriesAt catalog kept :=
  List.filterMap_congr fun p hp => by simp only [nameAt?_append (h p hp)]

/-- Where some position is included, positions behind those of the results are neither taken nor excluded. -/
theorem keptPositions_of_le {columns more : Nat} {results : List TermResult} (hle : columns ≤ more)
    (hb : ∀ r ∈ results, ∀ i ∈ r.indices, i ≠ 0 ∧ i.natAbs ≤ columns)
    (hpos : ∃ r ∈ results, ∃ i ∈ r.indices, 0 < i) :
    keptPositions more (results.flatMap TermResult.named) =
      keptPositions columns (results.flatMap TermResult.named) := by
  have hsome : ¬ (firstPositions [] (results.flatMap TermResult.named)).isEmpty = true :=
    fun hn => (firstPositions_isEmpty_iff results).1 hn hpos
  have htaken (n : Nat) : takenPositions n (results.flatMap TermResult.named) =
      firstPositions [] (results.flatMap TermResult.named) := if_neg hsome
  rw [keptPositions, keptPositions, htaken, ← htaken columns]
  refine List.filter_congr fun p hp => ?_
  have hp := ((mem_takenPositions hb p.1).1 (List.mem_map_of_mem hp)).1
  have hx : p.1 ∈ excludedPositions more (results.flatMap TermResult.named) ↔
      p.1 ∈ excludedPositions columns (results.flatMap TermResult.named) := by
    rw [mem_excludedPositions, mem_excludedPositions]
    exact and_congr_left fun _ => ⟨fun _ => hp, fun _ => ⟨hp.1, by omega⟩⟩
  simp only [List.contains_eq_mem, hx]

theorem mappingOf_append {results : List TermResult}
    (hb : ∀ r ∈ results, ∀ i ∈ r.indices, i ≠ 0 ∧ i.natAbs ≤ catalog.length)
    (hpos : ∃ r ∈ results, ∃ i ∈ r.indices, 0 < i) (others : Catalog) :
    mappingOf (catalog ++ others) results = mappingOf catalog results := by
  have hkept : ∀ p ∈ keptPositions catalog.length (results.flatMap TermResult.named), p.1 ≤ catalog.length :=
    fun p hp => (((keptPositions_selects hb).mem p.1).1 (List.mem_map_of_mem hp)).1.2
  rw [mappingOf, keptPositions_of_le (by rw [List.length_append]; omega) hb hpos, entriesAt_append hkept]
  rfl

/-- A selection that calls no matcher and includes a column keeps its mapping when columns are appended to the
catalog. -/
theorem resolve_append [Pattern.Engine] {options : Options} {terms : List Term} {mapping : Mapping}
    (hterms : ∀ t ∈ terms, t.expr.Every Expr.NoMatcherCall)
    (hpos : ∃ t ∈ terms, ∃ r, t.evaluate catalog = .ok r ∧ ∃ i ∈ r.indices, 0 < i)
    (h : resolve catalog options terms = .ok mapping) (others : Catalog) :
    resolve (catalog ++ others) options terms = .ok mapping := by
  obtain ⟨results, hr, rfl⟩ := resolve_eq_ok_iff.1 h
  refine resolve_eq_ok_iff.2 ⟨results, hr.append hterms others, ?_⟩
  obtain ⟨t, ht, r, hv, hi⟩ := hpos
  obtain ⟨r', hmem, hv'⟩ := exists_of_forall₂ hr.evaluate t ht
  obtain rfl := Except.ok.inj (hv.symm.trans hv')
  rw [mappingOf_append hr.bound ⟨r, hmem, hi⟩]

/-- The first column of a repeated name is taken and excluded in the longer catalog too, ranges and lists end where
they ended, and the options keep and leave columns by the same names. -/
theorem resolve_append_repeated :
    resolve ["a", "b", "a", "d"] ⟨["d"], ["b"], .numbered⟩
        [⟨some "x", .call "c" [.mk none (.range (.int 1) (.column "d")), .mk none (.column "b")]⟩,
          ⟨none, .negate (.column "a")⟩] = .ok [⟨"x3", "a"⟩, ⟨"x4", "d"⟩] ∧
      resolve (["a", "b", "a", "d"] ++ ["b", "e", "a"]) ⟨["d"], ["b"], .numbered⟩
        [⟨some "x", .call "c" [.mk none (.range (.int 1) (.column "d")), .mk none (.column "b")]⟩,
          ⟨none, .negate (.column "a")⟩] = .ok [⟨"x3", "a"⟩, ⟨"x4", "d"⟩] := by
  have hm : resolve ["a", "b", "a", "d"] ⟨["d"], ["b"], .numbered⟩
      [⟨some "x", .call "c" [.mk none (.range (.int 1) (.column "d")), .mk none (.column "b")]⟩,
        ⟨none, .negate (.column "a")⟩] = .ok [⟨"x3", "a"⟩, ⟨"x4", "d"⟩] := by
    decide +kernel
  refine ⟨hm, resolve_append ?_ ?_ hm ["b", "e", "a"]⟩
  · have hc : Matcher.ofName? "c" = none := by decide
    simp [Expr.Every, Arg.EveryAll, Arg.Every, Expr.NoMatcherCall, hc]
  · exact ⟨_, List.mem_cons_self, ⟨[1, 2, 3, 4, 2], some "x"⟩, by decide +kernel, 1, by decide, by decide⟩

end ColumnSelect
