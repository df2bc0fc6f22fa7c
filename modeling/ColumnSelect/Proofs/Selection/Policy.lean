/-
What the policy for one name of several columns decides. Both policies evaluate the terms alike and give
the same mapping where both resolve (`mapping_eq_of_policies`); the one that refuses finds a fault in each
named term that selects other than one position (`fault_reject_iff`). It therefore refuses a named term
that selects nothing as well, which numbering passes over. Main statement: `resolve_reject_iff`.
-/
import ColumnSelect.Pattern.Standard
import ColumnSelect.Proofs.Selection.Fault
import ColumnSelect.Proofs.Selection.Order

namespace ColumnSelect

/-! ## Named terms and how much they select -/

/-- The term asks one name for a number of positions of that kind, and the error refuses it. -/
inductive Term.Misnamed [Pattern.Engine] (catalog : Catalog) (counts : Nat → Prop) (t : Term) : Error → Prop
  | intro {r : TermResult} {stem : String} : t.evaluate catalog = .ok r → r.name = some stem →
      counts r.indices.length →
      t.Misnamed catalog counts (.misuse stem (.oneNameForMany r.indices.length stem))

theorem Term.Misnamed.code [Pattern.Engine] {catalog : Catalog} {counts : Nat → Prop} {t : Term} {own : Error}
    (h : t.Misnamed catalog counts own) : own.code = .invalidArgument := by
  cases h
  rfl

theorem Term.misnamed_iff [Pattern.Engine] {catalog : Catalog} {counts : Nat → Prop} {t : Term} {r : TermResult}
    (h : t.evaluate catalog = .ok r) (own : Error) : t.Misnamed catalog counts own ↔
      counts r.indices.length ∧
        ∃ stem, r.name = some stem ∧ .misuse stem (.oneNameForMany r.indices.length stem) = own := by
  constructor
  · rintro ⟨hr, hs, hc⟩
    cases h.symm.trans hr
    exact ⟨hc, _, hs, rfl⟩
  · rintro ⟨hc, stem, hs, rfl⟩
    exact ⟨h, hs, hc⟩

/-- Where a named term selects something, to select other than one position is to select several. -/
theorem Term.misnamed_ne_one_iff [Pattern.Engine] {catalog : Catalog} {t : Term}
    (h : ∀ own, ¬ t.Misnamed catalog (· = 0) own) (own : Error) :
    t.Misnamed catalog (· ≠ 1) own ↔ t.Misnamed catalog (2 ≤ ·) own := by
  constructor
  · rintro @⟨r, stem, hr, hs, hne⟩
    have hzero : r.indices.length ≠ 0 := fun he => h _ ⟨hr, hs, he⟩
    exact ⟨hr, hs, show 2 ≤ r.indices.length by omega⟩
  · rintro @⟨r, stem, hr, hs, htwo⟩
    exact ⟨hr, hs, Nat.ne_of_gt htwo⟩

/-- A term that gives a result has a fault under the policy that refuses when it is named and selects other
than one position. -/
theorem Term.fault_reject_iff [Pattern.Engine] {catalog : Catalog} {t : Term} {r : TermResult}
    (h : t.evaluate catalog = .ok r) (own : Error) :
    t.Fault catalog .reject own ↔ t.Misnamed catalog (· ≠ 1) own := by
  constructor
  · intro hf
    cases hf with
    | evaluation he => exact nomatch h.symm.trans he
    | refusal hr _ hs hl => exact ⟨hr, hs, hl⟩
  · rintro ⟨hr, hs, hl⟩
    exact .refusal hr rfl hs hl

/-! ## Two policies -/

/-- The options under another policy. -/
def Options.under (options : Options) (policy : MultiRename) : Options :=
  { options with multiRename := policy }

/-- Where terms resolve under two policies, the mapping is the same. -/
theorem mapping_eq_of_policies [Pattern.Engine] {catalog : Catalog} {options : Options} {policy policy' : MultiRename}
    {terms : List Term} {mapping mapping' : Mapping}
    (h : resolve catalog (options.under policy) terms = .ok mapping)
    (h' : resolve catalog (options.under policy') terms = .ok mapping') : mapping' = mapping := by
  obtain ⟨results, hr, rfl⟩ := resolve_eq_ok_iff.1 h
  obtain ⟨results', hr', rfl⟩ := resolve_eq_ok_iff.1 h'
  rw [results_unique hr'.evaluate hr.evaluate]
  rfl

/-- The policy that refuses gives the mapping unless a named term selects a number of positions of that
kind. It then refuses the first such term, under its number. -/
def RefusesNames [Pattern.Engine] (catalog : Catalog) (options : Options) (terms : List Term) (mapping : Mapping)
    (counts : Nat → Prop) : Prop :=
  (∀ m, resolve catalog (options.under .reject) terms = .ok m ↔
    m = mapping ∧ ∀ t ∈ terms, ∀ own, ¬ t.Misnamed catalog counts own) ∧
  ∀ e, resolve catalog (options.under .reject) terms = .error e ↔
    ∃ number own, FirstFault (Term.Misnamed catalog counts) terms number own ∧
      own.code = .invalidArgument ∧ { own with term := some number } = e

theorem refusesNames_congr [Pattern.Engine] {catalog : Catalog} {options : Options} {terms : List Term}
    {mapping : Mapping} {counts counts' : Nat → Prop}
    (h : ∀ t ∈ terms, ∀ own, t.Misnamed catalog counts own ↔ t.Misnamed catalog counts' own) :
    RefusesNames catalog options terms mapping counts ↔ RefusesNames catalog options terms mapping counts' := by
  have hall : (∀ t ∈ terms, ∀ own, ¬ t.Misnamed catalog counts own) ↔
      ∀ t ∈ terms, ∀ own, ¬ t.Misnamed catalog counts' own :=
    forall₂_congr fun t ht => forall_congr' fun own => not_congr (h t ht own)
  simp only [RefusesNames, hall, firstFault_congr h]

/-- Under the policy that refuses, terms that resolve by numbering end with the first fault of a name. -/
theorem resolve_reject_eq_error_iff [Pattern.Engine] {catalog : Catalog} {options : Options} {terms : List Term}
    {mapping : Mapping} (h : resolve catalog (options.under .numbered) terms = .ok mapping) (e : Error) :
    resolve catalog (options.under .reject) terms = .error e ↔
      ∃ number own, FirstFault (Term.Misnamed catalog (· ≠ 1)) terms number own ∧
        own.code = .invalidArgument ∧ { own with term := some number } = e := by
  obtain ⟨results, hr, -⟩ := resolve_eq_ok_iff.1 h
  have hfault : ∀ t ∈ terms, ∀ own, t.Fault catalog .reject own ↔ t.Misnamed catalog (· ≠ 1) own := by
    intro t ht
    obtain ⟨r, -, hv⟩ := exists_of_forall₂ hr.evaluate t ht
    exact Term.fault_reject_iff hv
  rw [resolve_eq_error_iff]
  constructor
  · intro href
    cases href with
    | term hf =>
      have hf := (firstFault_congr hfault).1 hf
      obtain ⟨t, -, hown⟩ := hf.fault
      exact ⟨_, _, hf, hown.code, rfl⟩
    | option _ hn =>
      -- numbering resolves, so the options name columns of the catalog
      have hknown := unknownName?_eq_none_iff.2 hr.known
      rw [unknownName?_eq] at hknown
      exact nomatch hknown.symm.trans hn
  · rintro ⟨number, own, hf, -, rfl⟩
    exact .term ((firstFault_congr hfault).2 hf)

/-- Terms that resolve when the columns of one name are numbered: the policy that refuses gives the same
mapping, unless a named term selects other than one position, and then refuses the first of these under its
number. If no named term selects nothing, only names of several columns are refused. -/
theorem resolve_reject_iff [Pattern.Engine] {catalog : Catalog} {options : Options} {terms : List Term}
    {mapping : Mapping} (h : resolve catalog (options.under .numbered) terms = .ok mapping) :
    RefusesNames catalog options terms mapping (· ≠ 1) ∧
      ((∀ t ∈ terms, ∀ own, ¬ t.Misnamed catalog (· = 0) own) →
        RefusesNames catalog options terms mapping (2 ≤ ·)) := by
  have herror := resolve_reject_eq_error_iff h
  have hexact : RefusesNames catalog options terms mapping (· ≠ 1) := by
    refine ⟨fun m => ⟨fun hm => ⟨mapping_eq_of_policies h hm, ?_⟩, ?_⟩, herror⟩
    · refine forall_not_firstFault_iff.1 fun number own hf => ?_
      obtain ⟨t, -, hown⟩ := hf.fault
      exact nomatch hm.symm.trans ((herror _).2 ⟨number, own, hf, hown.code, rfl⟩)
    · rintro ⟨rfl, hno⟩
      have hok : ∃ m', resolve catalog (options.under .reject) terms = .ok m' := by
        rw [exists_ok_iff]
        intro e he
        obtain ⟨number, own, hf, -⟩ := (herror e).1 he
        exact forall_not_firstFault_iff.2 hno number own hf
      obtain ⟨m', hm'⟩ := hok
      exact mapping_eq_of_policies h hm' ▸ hm'
  exact ⟨hexact, fun hzero =>
    (refusesNames_congr fun t ht => Term.misnamed_ne_one_iff (hzero t ht)).1 hexact⟩

/-- One name for two columns, behind a term that is taken. -/
theorem resolve_reject_iff_second :
    resolve ["a", "b"] (.plain .numbered)
        [⟨some "y", .column "b"⟩, ⟨some "x", .list [.column "a", .column "b"]⟩] =
          .ok [⟨"y", "b"⟩, ⟨"x1", "a"⟩] ∧
      RefusesNames ["a", "b"] (.plain .numbered)
        [⟨some "y", .column "b"⟩, ⟨some "x", .list [.column "a", .column "b"]⟩]
          [⟨"y", "b"⟩, ⟨"x1", "a"⟩] (2 ≤ ·) ∧
      resolve ["a", "b"] (.plain .reject)
        [⟨some "y", .column "b"⟩, ⟨some "x", .list [.column "a", .column "b"]⟩] =
          .error ⟨.invalidArgument "x" (.oneNameForMany 2 "x"), some 2⟩ := by
  have hm : resolve ["a", "b"] (.plain .numbered)
      [⟨some "y", .column "b"⟩, ⟨some "x", .list [.column "a", .column "b"]⟩] =
        .ok [⟨"y", "b"⟩, ⟨"x1", "a"⟩] := by decide +kernel
  have hfirst : Term.evaluate ["a", "b"] ⟨some "y", .column "b"⟩ = .ok ⟨[2], some "y"⟩ := by decide +kernel
  have hsecond : Term.evaluate ["a", "b"] ⟨some "x", .list [.column "a", .column "b"]⟩ =
      .ok ⟨[1, 2], some "x"⟩ := by decide +kernel
  have hr := (@resolve_reject_iff _ _ (.plain .numbered) _ _ hm).2 (by
    simp [Term.misnamed_iff hfirst, Term.misnamed_iff hsecond])
  refine ⟨hm, hr, (hr.2 _).2 ⟨2, _, ⟨[_], _, [], rfl, rfl, ?_, ⟨hsecond, rfl, Nat.le_refl 2⟩⟩, rfl, rfl⟩⟩
  simp [Term.misnamed_iff hfirst]

/-- A named term that selects nothing is refused, although it asks one name for no two columns. -/
theorem not_refusesNames_several :
    resolve ["a"] (.plain .numbered) [⟨some "x", .call "starts_with" [.mk none (.str "z")]⟩] =
        .ok [⟨"a", "a"⟩] ∧
      ¬ RefusesNames ["a"] (.plain .numbered) [⟨some "x", .call "starts_with" [.mk none (.str "z")]⟩]
        [⟨"a", "a"⟩] (2 ≤ ·) := by
  have hm : resolve ["a"] (.plain .numbered) [⟨some "x", .call "starts_with" [.mk none (.str "z")]⟩] =
      .ok [⟨"a", "a"⟩] := by decide +kernel
  have hvalue : Term.evaluate ["a"] ⟨some "x", .call "starts_with" [.mk none (.str "z")]⟩ =
      .ok ⟨[], some "x"⟩ := by decide +kernel
  refine ⟨hm, fun h => ?_⟩
  have herror : resolve ["a"] (.plain .reject) [⟨some "x", .call "starts_with" [.mk none (.str "z")]⟩] =
      .error ⟨.invalidArgument "x" (.oneNameForMany 0 "x"), some 1⟩ := by decide +kernel
  obtain ⟨number, own, hf, -⟩ := (h.2 _).1 herror
  obtain ⟨t, ht, hown⟩ := hf.fault
  cases List.mem_singleton.1 ht
  simp [Term.misnamed_iff hvalue] at hown

end ColumnSelect
