/-
Which error a selection or a rename ends with. A term has a fault by itself, whatever the other terms
are (`Term.Fault`, `Term.RenameFault`), and the first term with a fault decides: the error is its own,
with its number. Names of the options that are not in the catalog are told only where no term has a
fault. Main statement: `error_iff_firstFault`.
-/
import ColumnSelect.Proofs.Expr.Eval
import ColumnSelect.Proofs.Selection.Success
import ColumnSelect.Selection.Explain
import ColumnSelect.Selection.Rename

namespace ColumnSelect

open ColumnSelect.Expr (shallow_ok shallow_ofCause shallow_misuse shallow_bind shallow_eval)

/-! ## Faults of one term -/

/-- A fault of a term by itself: it gives no result, or the policy refuses one name for other than one
column. -/
inductive Term.Fault [Pattern.Engine] (catalog : Catalog) (policy : MultiRename) (t : Term) : Error → Prop
  | evaluation {own : Error} : t.evaluate catalog = .error own → t.Fault catalog policy own
  | refusal {r : TermResult} {stem : String} : t.evaluate catalog = .ok r → policy = .reject →
      r.name = some stem → r.indices.length ≠ 1 →
      t.Fault catalog policy (.misuse stem (.oneNameForMany r.indices.length stem))

/-- A fault of a term in a rename: it is nested too deep, or else has no name, or else is not a column,
or else names no column of the catalog. -/
inductive Term.RenameFault (catalog : Catalog) (t : Term) : Error → Prop
  | tooDeep : maxNesting < t.expr.depth →
      t.RenameFault catalog (.misuse "expression" (.tooDeep t.expr.depth))
  | unnamed : t.expr.depth ≤ maxNesting → t.name = none →
      t.RenameFault catalog (.misuse t.expr.text .renameUnnamed)
  | notColumn : t.expr.depth ≤ maxNesting → t.name ≠ none → (∀ old, t.expr ≠ .column old) →
      t.RenameFault catalog (.misuse t.expr.text .renameNotColumn)
  | unknown {old : String} : t.name ≠ none → t.expr = .column old → old ∉ catalog →
      t.RenameFault catalog (.ofCause (.unknownVariable old))

theorem Error.withTerm_of_untagged {own : Error} (h : own.term = none) (n : Nat) :
    own.withTerm n = { own with term := some n } := by
  rw [withTerm, h]
  rfl

theorem checkDepth_eq_error_iff {e : Expr} {own : Error} :
    e.checkDepth = .error own ↔ maxNesting < e.depth ∧ .misuse "expression" (.tooDeep e.depth) = own := by
  unfold Expr.checkDepth
  split
  · rename_i h
    simp [h]
  · rename_i h
    simp [h]

/-- A term that gives no result fails without a number, and for its nesting only if it is nested too deep. -/
theorem Term.evaluate_error [Pattern.Engine] {catalog : Catalog} {t : Term} {own : Error}
    (h : t.evaluate catalog = .error own) :
    own.term = none ∧ (own.TooDeep → maxNesting < t.expr.depth) := by
  unfold Term.evaluate at h
  rcases bind_eq_error_iff.1 h with hd | ⟨⟨⟩, -, h⟩
  · obtain ⟨hlt, rfl⟩ := checkDepth_eq_error_iff.1 hd
    exact ⟨rfl, fun _ => hlt⟩
  · -- the check has passed, and evaluation does not judge the nesting again
    have hown : own.term = none ∧ ¬ own.TooDeep := by
      refine shallow_bind (shallow_eval catalog t.expr) (fun v => ?_) own h
      split
      · split
        · exact shallow_ofCause nofun
        · exact shallow_ok _
      · exact shallow_misuse nofun
    exact ⟨hown.1, fun hd => absurd hd hown.2⟩

theorem Term.Fault.term [Pattern.Engine] {catalog : Catalog} {policy : MultiRename} {t : Term} {own : Error}
    (h : t.Fault catalog policy own) : own.term = none := by
  cases h with
  | evaluation he => exact (Term.evaluate_error he).1
  | refusal => rfl

theorem Term.RenameFault.term {catalog : Catalog} {t : Term} {own : Error}
    (h : t.RenameFault catalog own) : own.term = none := by
  cases h <;> rfl

theorem TermResult.assignments_eq_error_iff {policy : MultiRename} {r : TermResult} {e : Error} :
    r.assignments policy = .error e ↔ policy = .reject ∧ ∃ stem, r.name = some stem ∧
      r.indices.length ≠ 1 ∧ .misuse stem (.oneNameForMany r.indices.length stem) = e := by
  unfold assignments
  split
  · rename_i hn
    simp [hn]
  · rename_i stem i hn hi
    simp [hi]
  · rename_i stem hn hl
    have hlen : r.indices.length ≠ 1 := by
      intro h
      obtain ⟨i, hi⟩ := List.length_eq_one_iff.1 h
      exact hl i hi
    cases policy <;> simp [hn, hlen]

theorem Term.evaluated_eq_error_iff [Pattern.Engine] {catalog : Catalog} {policy : MultiRename} {number : Nat}
    {t : Term} {e : Error} : t.evaluated catalog policy number = .error e ↔
      ∃ own, t.Fault catalog policy own ∧ { own with term := some number } = e := by
  unfold Term.evaluated
  rw [mapError_eq_error_iff]
  constructor
  · rintro ⟨own, h, rfl⟩
    have hf : t.Fault catalog policy own := by
      rcases bind_eq_error_iff.1 h with he | ⟨r, hr, h⟩
      · exact .evaluation he
      · rcases bind_eq_error_iff.1 h with ha | ⟨as, -, h⟩
        · obtain ⟨hp, stem, hs, hl, rfl⟩ := TermResult.assignments_eq_error_iff.1 ha
          exact .refusal hr hp hs hl
        · cases h
    exact ⟨own, hf, (Error.withTerm_of_untagged hf.term number).symm⟩
  · rintro ⟨own, hf, rfl⟩
    refine ⟨own, ?_, Error.withTerm_of_untagged hf.term number⟩
    cases hf with
    | evaluation he => exact bind_eq_error_iff.2 (.inl he)
    | refusal hr hp hs hl =>
      have ha := TermResult.assignments_eq_error_iff.2 ⟨hp, _, hs, hl, rfl⟩
      exact bind_eq_error_iff.2 (.inr ⟨_, hr, bind_eq_error_iff.2 (.inl ha)⟩)

theorem position_eq_error_iff {catalog : Catalog} {name : String} {own : Error} :
    catalog.position name = .error own ↔ name ∉ catalog ∧ .ofCause (.unknownVariable name) = own := by
  rw [← position?_eq_none_iff, Catalog.position]
  cases catalog.position? name <;> simp

theorem Term.change_eq_error_iff {catalog : Catalog} {t : Term} {own : Error} :
    t.change catalog = .error own ↔ t.RenameFault catalog own := by
  obtain ⟨name, expr⟩ := t
  have hok {e : Expr} (h : e.depth ≤ maxNesting) : e.checkDepth = .ok () := if_neg (Nat.not_lt.2 h)
  unfold change
  rw [bind_eq_error_iff, checkDepth_eq_error_iff]
  constructor
  · rintro (⟨hd, rfl⟩ | ⟨⟨⟩, hd, h⟩)
    · exact .tooDeep hd
    · have hle : expr.depth ≤ maxNesting := by
        rw [Expr.depth_eq_nesting]
        exact Expr.checkDepth_eq_ok_iff.1 hd
      simp only at h
      split at h
      · cases h
        exact .unnamed hle rfl
      · rcases bind_eq_error_iff.1 h with h | ⟨p, -, h⟩
        · obtain ⟨ho, rfl⟩ := position_eq_error_iff.1 h
          exact .unknown nofun rfl ho
        · cases h
      · rename_i hc
        cases h
        exact .notColumn hle nofun hc
  · intro h
    cases h with
    | tooDeep hd => exact .inl ⟨hd, rfl⟩
    | unnamed hd hn =>
      cases hn
      exact .inr ⟨(), hok hd, rfl⟩
    | notColumn hd hn hc =>
      refine .inr ⟨(), hok hd, ?_⟩
      simp only
      split
      · exact absurd rfl hn
      · exact absurd rfl (hc _)
      · rfl
    | unknown hn he ho =>
      cases he
      refine .inr ⟨(), Expr.checkDepth_eq_ok_iff.2 (by simp [Expr.nesting, maxNesting]), ?_⟩
      cases name with
      | none => exact absurd rfl hn
      | some new => exact bind_eq_error_iff.2 (.inl (position_eq_error_iff.2 ⟨ho, rfl⟩))

/-! ## The first fault -/

/-- The term of that number, counted from 1, is the first with a fault, and its fault is this. -/
def FirstFault (Fault : Term → Error → Prop) (terms : List Term) (number : Nat) (own : Error) : Prop :=
  ∃ before t after, terms = before ++ t :: after ∧ number = before.length + 1 ∧
    (∀ u ∈ before, ∀ e, ¬ Fault u e) ∧ Fault t own

theorem firstFault_nil {Fault : Term → Error → Prop} {number : Nat} {own : Error} :
    ¬ FirstFault Fault [] number own := by
  rintro ⟨before, t, after, h, -⟩
  cases before <;> cases h

theorem firstFault_cons_iff {Fault : Term → Error → Prop} {t : Term} {ts : List Term} {number : Nat}
    {own : Error} : FirstFault Fault (t :: ts) number own ↔
      number = 1 ∧ Fault t own ∨
        (∀ e, ¬ Fault t e) ∧ ∃ n, number = n + 1 ∧ FirstFault Fault ts n own := by
  constructor
  · rintro ⟨before, u, after, h, rfl, hb, hf⟩
    cases before with
    | nil =>
      cases h
      exact .inl ⟨rfl, hf⟩
    | cons t' before =>
      cases h
      obtain ⟨ht, hb⟩ := List.forall_mem_cons.1 hb
      exact .inr ⟨ht, _, rfl, before, u, after, rfl, rfl, hb, hf⟩
  · rintro (⟨rfl, hf⟩ | ⟨ht, n, rfl, before, u, after, rfl, rfl, hb, hf⟩)
    · exact ⟨[], t, ts, rfl, rfl, nofun, hf⟩
    · exact ⟨t :: before, u, after, rfl, rfl, List.forall_mem_cons.2 ⟨ht, hb⟩, hf⟩

theorem FirstFault.fault {Fault : Term → Error → Prop} {terms : List Term} {number : Nat} {own : Error}
    (h : FirstFault Fault terms number own) : ∃ t ∈ terms, Fault t own := by
  obtain ⟨before, t, after, rfl, -, -, hf⟩ := h
  exact ⟨t, by simp, hf⟩

/-- Where no term is the first with a fault, none has any. -/
theorem forall_not_firstFault_iff {Fault : Term → Error → Prop} {terms : List Term} :
    (∀ n own, ¬ FirstFault Fault terms n own) ↔ ∀ t ∈ terms, ∀ own, ¬ Fault t own := by
  induction terms with
  | nil => simp [firstFault_nil]
  | cons t ts ih =>
    rw [List.forall_mem_cons, ← ih]
    simp only [firstFault_cons_iff]
    constructor
    · intro h
      have ht : ∀ own, ¬ Fault t own := fun own hf => h 1 own (.inl ⟨rfl, hf⟩)
      exact ⟨ht, fun n own hf => h (n + 1) own (.inr ⟨ht, n, rfl, hf⟩)⟩
    · rintro ⟨ht, hts⟩ n own (⟨-, hf⟩ | ⟨-, n, -, hf⟩)
      · exact ht own hf
      · exact hts n own hf

/-- Terms without a fault behind others change nothing. -/
theorem firstFault_append_iff {Fault : Term → Error → Prop} {ts us : List Term} {number : Nat} {own : Error}
    (h : ∀ u ∈ us, ∀ e, ¬ Fault u e) : FirstFault Fault (ts ++ us) number own ↔ FirstFault Fault ts number own := by
  induction ts generalizing number with
  | nil =>
    have hus := forall_not_firstFault_iff.2 h number own
    simp [firstFault_nil, hus]
  | cons t ts ih => simp only [List.cons_append, firstFault_cons_iff, ih]

theorem firstFault_congr {Fault Fault' : Term → Error → Prop} {ts : List Term} {number : Nat} {own : Error}
    (h : ∀ t ∈ ts, ∀ e, Fault t e ↔ Fault' t e) :
    FirstFault Fault ts number own ↔ FirstFault Fault' ts number own := by
  induction ts generalizing number with
  | nil => simp [firstFault_nil]
  | cons t ts ih =>
    obtain ⟨ht, hts⟩ := List.forall_mem_cons.1 h
    simp only [firstFault_cons_iff, ih hts, ht]

theorem exists_firstFault_iff {Fault : Term → Error → Prop} {terms : List Term} :
    (∃ n own, FirstFault Fault terms n own) ↔ ∃ t ∈ terms, ∃ own, Fault t own := by
  have h := not_congr (@forall_not_firstFault_iff Fault terms)
  push Not at h
  exact h

/-- A step for one term, and then the steps for those behind it: the first error is that of the first
fault. -/
theorem firstFault_step_iff {Fault : Term → Error → Prop} {t : Term} {ts : List Term} {number : Nat} {α : Type}
    {step : Except Error α} {later : Error → Prop}
    (hstep : ∀ e, step = .error e ↔ ∃ own, Fault t own ∧ { own with term := some (number + 1) } = e)
    (hlater : ∀ e, later e ↔
      ∃ n own, FirstFault Fault ts n own ∧ { own with term := some (number + 1 + n) } = e)
    (e : Error) : (step = .error e ∨ (∃ a, step = .ok a) ∧ later e) ↔
      ∃ n own, FirstFault Fault (t :: ts) n own ∧ { own with term := some (number + n) } = e := by
  have hok : (∃ a, step = .ok a) ↔ ∀ own, ¬ Fault t own := by
    rw [exists_ok_iff]
    constructor
    · intro h own hf
      exact h _ ((hstep _).2 ⟨own, hf, rfl⟩)
    · intro h e he
      obtain ⟨own, hf, -⟩ := (hstep e).1 he
      exact h own hf
  rw [hok, hstep, hlater]
  simp only [firstFault_cons_iff]
  constructor
  · rintro (⟨own, hf, rfl⟩ | ⟨ht, n, own, hf, rfl⟩)
    · exact ⟨1, own, .inl ⟨rfl, hf⟩, rfl⟩
    · exact ⟨n + 1, own, .inr ⟨ht, n, rfl, hf⟩, by rw [Nat.add_right_comm, Nat.add_assoc]⟩
  · rintro ⟨_, own, ⟨rfl, hf⟩ | ⟨ht, n, rfl, hf⟩, rfl⟩
    · exact .inl ⟨own, hf, rfl⟩
    · exact .inr ⟨ht, n, own, hf, by rw [Nat.add_right_comm, Nat.add_assoc]⟩

theorem evaluateTerms_failure_iff [Pattern.Engine] {catalog : Catalog} {policy : MultiRename} {number : Nat}
    {terms : List Term} (e : Error) : (evaluateTerms catalog policy (number + 1) terms).2 = some e ↔
      ∃ n own, FirstFault (Term.Fault catalog policy) terms n own ∧
        { own with term := some (number + n) } = e := by
  induction terms generalizing number e with
  | nil => simp [evaluateTerms, firstFault_nil]
  | cons t ts ih =>
    rw [← firstFault_step_iff (fun _ => Term.evaluated_eq_error_iff) (fun e => ih e) e, evaluateTerms]
    cases t.evaluated catalog policy (number + 1) <;> simp

theorem changes_eq_error_iff {catalog : Catalog} {number : Nat} {terms : List Term} (e : Error) :
    changes catalog (number + 1) terms = .error e ↔
      ∃ n own, FirstFault (Term.RenameFault catalog) terms n own ∧
        { own with term := some (number + n) } = e := by
  induction terms generalizing number e with
  | nil => simp [changes, firstFault_nil]
  | cons t ts ih =>
    have hstep (e : Error) : (t.change catalog).mapError (·.withTerm (number + 1)) = .error e ↔
        ∃ own, t.RenameFault catalog own ∧ { own with term := some (number + 1) } = e := by
      simp only [mapError_eq_error_iff, Term.change_eq_error_iff]
      refine exists_congr fun own => and_congr_right fun hf => ?_
      rw [Error.withTerm_of_untagged hf.term]
    rw [← firstFault_step_iff hstep (fun e => ih e) e, changes, bind_eq_error_iff]
    refine or_congr_right ?_
    constructor
    · rintro ⟨first, hf, h⟩
      rcases bind_eq_error_iff.1 h with h | ⟨others, -, h⟩
      · exact ⟨⟨first, hf⟩, h⟩
      · cases h
    · rintro ⟨⟨first, hf⟩, h⟩
      exact ⟨first, hf, bind_eq_error_iff.2 (.inl h)⟩

/-! ## The error of a selection -/

/-- A selection is refused for the first fault of a term, which is told with the number of that term, or
for the first name of the options that is not in the catalog, where no term has a fault. -/
inductive Refusal [Pattern.Engine] (catalog : Catalog) (options : Options) (terms : List Term) : Error → Prop
  | term {number : Nat} {own : Error} :
      FirstFault (Term.Fault catalog options.multiRename) terms number own →
      Refusal catalog options terms { own with term := some number }
  | option {name : String} : (∀ t ∈ terms, ∀ own, ¬ t.Fault catalog options.multiRename own) →
      (options.keep ++ options.leave).find? (· ∉ catalog) = some name →
      Refusal catalog options terms ⟨.unknownVariable name, none⟩

theorem forall_not_refusal_iff [Pattern.Engine] {catalog : Catalog} {options : Options} {terms : List Term} :
    (∀ e, ¬ Refusal catalog options terms e) ↔
      (∀ t ∈ terms, ∀ own, ¬ t.Fault catalog options.multiRename own) ∧
        ∀ name ∈ options.keep ++ options.leave, name ∈ catalog := by
  rw [← unknownName?_eq_none_iff, unknownName?_eq]
  constructor
  · intro h
    have hno := forall_not_firstFault_iff.1 fun n own hf => h _ (.term hf)
    refine ⟨hno, ?_⟩
    cases hn : (options.keep ++ options.leave).find? (· ∉ catalog) with
    | none => rfl
    | some name => exact absurd (.option hno hn) (h _)
  · rintro ⟨hno, hn⟩ e h
    cases h with
    | term hf => exact forall_not_firstFault_iff.2 hno _ _ hf
    | option _ hn' =>
      rw [hn] at hn'
      cases hn'

theorem Options.apply_eq_error_iff {options : Options} {catalog : Catalog} {mapping : Mapping} {e : Error} :
    options.apply catalog mapping = .error e ↔
      ∃ name, (options.keep ++ options.leave).find? (· ∉ catalog) = some name ∧
        ⟨.unknownVariable name, none⟩ = e := by
  rw [Options.apply, ← unknownName?_eq]
  cases unknownName? catalog (options.keep ++ options.leave) <;> simp [Error.ofCause]

theorem resolution_eq_error_iff [Pattern.Engine] {catalog : Catalog} {options : Options} {terms : List Term}
    {e : Error} :
    resolution catalog options terms = .error e ↔ Refusal catalog options terms e := by
  have hfail := @evaluateTerms_failure_iff _ catalog options.multiRename 0 terms
  simp only [Nat.zero_add] at hfail
  unfold resolution
  rcases he : evaluateTerms catalog options.multiRename 1 terms with ⟨es, _ | e'⟩
  · -- no term has a fault, so the options decide
    rw [he] at hfail
    have hno : ∀ t ∈ terms, ∀ own, ¬ t.Fault catalog options.multiRename own :=
      forall_not_firstFault_iff.1 fun n own hf => nomatch (hfail _).2 ⟨n, own, hf, rfl⟩
    show reduce catalog options es = .error e ↔ _
    rw [← map_eq_error_iff, map_reduce, Options.apply_eq_error_iff]
    constructor
    · rintro ⟨name, hn, rfl⟩
      exact .option hno hn
    · intro h
      cases h with
      | term hf => exact nomatch (hfail _).2 ⟨_, _, hf, rfl⟩
      | option _ hn => exact ⟨_, hn, rfl⟩
  · rw [he] at hfail
    obtain ⟨n, own, hf, rfl⟩ := (hfail e').1 rfl
    constructor
    · rintro ⟨⟩
      exact .term hf
    · intro h
      cases h with
      | term hf' =>
        have := (hfail _).2 ⟨_, _, hf', rfl⟩
        exact congrArg Except.error (Option.some.inj this)
      | option hno _ => exact absurd hf (forall_not_firstFault_iff.2 hno n own)

theorem resolve_eq_error_iff [Pattern.Engine] {catalog : Catalog} {options : Options} {terms : List Term}
    {e : Error} :
    resolve catalog options terms = .error e ↔ Refusal catalog options terms e := by
  rw [resolve, map_eq_error_iff, resolution_eq_error_iff]

theorem rename_eq_error_iff {catalog : Catalog} {terms : List Term} {e : Error} :
    rename catalog terms = .error e ↔
      ∃ n own, FirstFault (Term.RenameFault catalog) terms n own ∧ { own with term := some n } = e := by
  have hchanges := @changes_eq_error_iff catalog 0 terms e
  simp only [Nat.zero_add] at hchanges
  rw [← hchanges, rename, bind_eq_error_iff]
  constructor
  · rintro (h | ⟨cs, -, ⟨⟩⟩)
    exact h
  · exact .inl

/-- Whether a term has a fault in a rename. -/
theorem exists_renameFault_iff {catalog : Catalog} {t : Term} :
    (∃ own, t.RenameFault catalog own) ↔ maxNesting < t.expr.depth ∨ t.name = none ∨
      (∀ old, t.expr ≠ .column old) ∨ ∃ old, t.expr = .column old ∧ old ∉ catalog := by
  constructor
  · rintro ⟨own, h⟩
    cases h with
    | tooDeep hd => exact .inl hd
    | unnamed _ hn => exact .inr (.inl hn)
    | notColumn _ _ hc => exact .inr (.inr (.inl hc))
    | unknown _ he ho => exact .inr (.inr (.inr ⟨_, he, ho⟩))
  · intro h
    by_cases hd : maxNesting < t.expr.depth
    · exact ⟨_, .tooDeep hd⟩
    · have hd := Nat.not_lt.1 hd
      by_cases hn : t.name = none
      · exact ⟨_, .unnamed hd hn⟩
      · rcases h with h | h | h | ⟨old, he, ho⟩
        · exact absurd hd (Nat.not_le.2 h)
        · exact absurd h hn
        · exact ⟨_, .notColumn hd hn h⟩
        · exact ⟨_, .unknown hn he ho⟩

/-- A selection, also when it is explained, and a rename end with the error of the first term that has a
fault by itself, under its number. A selection with no such term ends with the first unknown name of its
options, without a number, and succeeds where there is none. -/
theorem error_iff_firstFault [Pattern.Engine] (catalog : Catalog) (options : Options) (terms : List Term) :
    (∀ e, resolve catalog options terms = .error e ↔ Refusal catalog options terms e) ∧
      (∀ code reason, Explanation.ofOutcome (resolution catalog options terms) = .rejected code reason ↔
        ∃ e, Refusal catalog options terms e ∧ e.code.text = code ∧ e.text = reason) ∧
      ((∃ mapping, resolve catalog options terms = .ok mapping) ↔
        (∀ t ∈ terms, ∀ own, ¬ t.Fault catalog options.multiRename own) ∧
          ∀ name ∈ options.keep ++ options.leave, name ∈ catalog) ∧
      (∀ e, rename catalog terms = .error e ↔
        ∃ n own, FirstFault (Term.RenameFault catalog) terms n own ∧ { own with term := some n } = e) ∧
      ((∃ e, rename catalog terms = .error e) ↔
        ∃ t ∈ terms, maxNesting < t.expr.depth ∨ t.name = none ∨ (∀ old, t.expr ≠ .column old) ∨
          ∃ old, t.expr = .column old ∧ old ∉ catalog) := by
  refine ⟨fun _ => resolve_eq_error_iff, fun code reason => ?_, ?_, fun _ => rename_eq_error_iff, ?_⟩
  · simp only [← resolution_eq_error_iff]
    cases resolution catalog options terms <;> simp [Explanation.ofOutcome]
  · rw [exists_ok_iff, ← forall_not_refusal_iff]
    exact forall_congr' fun e => not_congr resolve_eq_error_iff
  · simp only [rename_eq_error_iff, ← exists_renameFault_iff, ← exists_firstFault_iff]
    constructor
    · rintro ⟨_, n, own, hf, -⟩
      exact ⟨n, own, hf⟩
    · rintro ⟨n, own, hf⟩
      exact ⟨_, n, own, hf, rfl⟩

end ColumnSelect
