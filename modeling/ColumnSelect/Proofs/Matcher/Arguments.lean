/-
Which arguments a matcher takes for which parameters. Arguments with a name are given first, each to
its parameter, which must still be free; no two of them meet, so their order does not matter
(`bindNamed_perm`), and a free parameter may be filled before them as well as after (`bindNamed_set`).
The arguments without a name fill what is left, in order, so that each may as well be written with the
name of the parameter it fills (`bindNamed_spelledOut`). Main statement: `eval_call_arguments`.
-/
import ColumnSelect.Pattern.Standard
import ColumnSelect.Proofs.Expr.Eval
import Mathlib.Data.List.Nodup

namespace ColumnSelect.Matcher

variable {m : Matcher} {slots slots' : Slots} {o : Operand} {os os' : List Operand}

/-! ## One argument -/

/-- A parameter is free as long as it has no value. -/
def Free (slots : Slots) (i : Nat) : Prop := slots[i]?.join = none

theorem free_set_iff {i j : Nat} (hj : j < slots.length) (v : Value) :
    Free (slots.set j (some v)) i ↔ i ≠ j ∧ Free slots i := by
  unfold Free
  by_cases h : i = j
  · subst h
    simp [hj]
  · simp [h, List.getElem?_set_ne (Ne.symm h)]

/-- The argument names the parameter at an index. -/
def Operand.Names (m : Matcher) (o : Operand) (i : Nat) : Prop :=
  ∃ name, o.arg.name = some name ∧ m.params.findIdx? (· == plainParam name) = some i

theorem Operand.Names.lt {i : Nat} (h : o.Names m i) : i < m.params.length := by
  obtain ⟨name, -, hi⟩ := h
  exact (List.findIdx?_eq_some_iff_getElem.1 hi).1

theorem Operand.Names.unique {i j : Nat} (h : o.Names m i) (h' : o.Names m j) : i = j := by
  obtain ⟨name, hn, hi⟩ := h
  obtain ⟨name', hn', hj⟩ := h'
  cases hn.symm.trans hn'
  exact Option.some.inj (hi.symm.trans hj)

theorem params_nodup (m : Matcher) : m.params.Nodup := by
  cases m <;> decide

/-- Since no two parameters have one name, a name is looked up at every index where it stands. -/
theorem findIdx?_params_iff {p : String} {i : Nat} :
    m.params.findIdx? (· == p) = some i ↔ m.params[i]? = some p := by
  rw [List.findIdx?_eq_some_iff_getElem, List.getElem?_eq_some_iff]
  simp only [beq_iff_eq]
  constructor
  · rintro ⟨hi, hp, -⟩
    exact ⟨hi, hp⟩
  · rintro ⟨hi, hp⟩
    refine ⟨hi, hp, fun j hj he => ?_⟩
    exact absurd (m.params_nodup.getElem_inj_iff.1 (he.trans hp.symm)) (Nat.ne_of_lt hj)

theorem names_iff {p : String} {i : Nat} (hp : m.params[i]? = some p) :
    o.Names m i ↔ o.arg.name.map plainParam = some p := by
  simp only [Operand.Names, findIdx?_params_iff, hp, Option.map_eq_some_iff, Option.some.injEq]
  exact exists_congr fun name => and_congr_right fun _ => eq_comm

/-- What an argument names depends on its name up to dots and low lines. -/
theorem Operand.Names.respelled {o' : Operand} {name name' : String} {i : Nat} (h : o.Names m i)
    (hn : o.arg.name = some name) (hn' : o'.arg.name = some name') (he : plainParam name' = plainParam name) :
    o'.Names m i := by
  obtain ⟨_, hname, hi⟩ := h
  cases hn.symm.trans hname
  exact ⟨name', hn', he ▸ hi⟩

/-- An argument without a name is left for later. -/
theorem bindNamed_unnamed (h : o.arg.name = none) : bindNamed m slots (o :: os) = bindNamed m slots os := by
  rw [bindNamed, h]

/-- An argument with a name goes to its parameter, which must be free. -/
theorem bindNamed_named_iff (h : o.arg.name ≠ none) : bindNamed m slots (o :: os) = .ok slots' ↔
    ∃ i v, o.Names m i ∧ Free slots i ∧ o.value = .ok v ∧ bindNamed m (slots.set i (some v)) os = .ok slots' := by
  obtain ⟨name, hn⟩ := Option.ne_none_iff_exists'.1 h
  have hnames (i : Nat) : o.Names m i ↔ m.params.findIdx? (· == plainParam name) = some i := by
    simp [Operand.Names, hn]
  simp only [hnames, Free]
  rw [bindNamed, hn]
  simp only
  cases hi : m.params.findIdx? (· == plainParam name) with
  | none => simp
  | some i =>
    simp only [Option.some.injEq, exists_and_left, exists_eq_left']
    cases hs : slots[i]?.join with
    | some v => simp
    | none => simp [bind_eq_ok_iff]

theorem bindInOrder_named (h : o.arg.name ≠ none) :
    bindInOrder m slots (o :: os) = bindInOrder m slots os := by
  obtain ⟨name, hn⟩ := Option.ne_none_iff_exists'.1 h
  rw [bindInOrder, hn]

/-- An argument without a name goes to the first parameter that is free. -/
theorem bindInOrder_unnamed_iff (h : o.arg.name = none) : bindInOrder m slots (o :: os) = .ok slots' ↔
    ∃ i v, slots.findIdx? Option.isNone = some i ∧ o.value = .ok v ∧
      bindInOrder m (slots.set i (some v)) os = .ok slots' := by
  rw [bindInOrder, h]
  cases slots.findIdx? Option.isNone with
  | none => simp
  | some i => simp [bind_eq_ok_iff]

/-! ## Arguments with a name -/

theorem length_bindNamed (h : bindNamed m slots os = .ok slots') : slots'.length = slots.length := by
  induction os generalizing slots with
  | nil =>
    cases h
    rfl
  | cons o os ih =>
    by_cases hn : o.arg.name = none
    · rw [bindNamed_unnamed hn] at h
      exact ih h
    · obtain ⟨i, v, -, -, -, h⟩ := (bindNamed_named_iff hn).1 h
      rw [ih h, List.length_set]

/-- The free parameters are then those that were free before and that no argument names. -/
theorem free_bindNamed_iff (hl : slots.length = m.params.length) (h : bindNamed m slots os = .ok slots')
    (i : Nat) : Free slots' i ↔ Free slots i ∧ ∀ o ∈ os, ¬ o.Names m i := by
  induction os generalizing slots with
  | nil =>
    cases h
    simp
  | cons o os ih =>
    rw [List.forall_mem_cons]
    by_cases hn : o.arg.name = none
    · rw [bindNamed_unnamed hn] at h
      have hno : ¬ o.Names m i := by
        rintro ⟨name, hname, -⟩
        cases hn.symm.trans hname
      rw [ih hl h]
      simp [hno]
    · obtain ⟨j, v, hj, -, -, h⟩ := (bindNamed_named_iff hn).1 h
      have hnames : o.Names m i ↔ i = j := ⟨fun hi => hi.unique hj, fun he => he ▸ hj⟩
      rw [ih (by rw [List.length_set, hl]) h, free_set_iff (by rw [hl]; exact hj.lt), hnames]
      tauto

/-- A parameter that stays free may be filled before the others instead of after them. -/
theorem bindNamed_set {i : Nat} (hl : slots.length = m.params.length)
    (h : bindNamed m slots os = .ok slots') (hi : i < slots.length) (hf : Free slots' i) (v : Value) :
    bindNamed m (slots.set i (some v)) os = .ok (slots'.set i (some v)) := by
  induction os generalizing slots with
  | nil =>
    cases h
    rfl
  | cons o os ih =>
    by_cases hn : o.arg.name = none
    · rw [bindNamed_unnamed hn] at h ⊢
      exact ih hl h hi
    · obtain ⟨j, w, hj, hjf, hw, h⟩ := (bindNamed_named_iff hn).1 h
      have hl' : (slots.set j (some w)).length = m.params.length := by rw [List.length_set, hl]
      have hne : i ≠ j := by
        have := ((free_bindNamed_iff hl' h i).1 hf).1
        exact ((free_set_iff (by rw [hl]; exact hj.lt) w).1 this).1
      refine (bindNamed_named_iff hn).2 ⟨j, w, hj, (free_set_iff hi v).2 ⟨hne.symm, hjf⟩, hw, ?_⟩
      rw [List.set_comm _ _ hne]
      exact ih hl' h (by rwa [List.length_set])

/-- Two arguments with names may change places. -/
theorem bindNamed_swap {a b : Operand} (hl : slots.length = m.params.length)
    (h : bindNamed m slots (a :: b :: os) = .ok slots') : bindNamed m slots (b :: a :: os) = .ok slots' := by
  by_cases ha : a.arg.name = none
  · rw [bindNamed_unnamed ha] at h
    by_cases hb : b.arg.name = none
    · rw [bindNamed_unnamed hb] at h
      rw [bindNamed_unnamed hb, bindNamed_unnamed ha, h]
    · obtain ⟨j, w, hj, hf, hw, h⟩ := (bindNamed_named_iff hb).1 h
      exact (bindNamed_named_iff hb).2 ⟨j, w, hj, hf, hw, by rwa [bindNamed_unnamed ha]⟩
  · obtain ⟨i, v, hi, hif, hv, h⟩ := (bindNamed_named_iff ha).1 h
    by_cases hb : b.arg.name = none
    · rw [bindNamed_unnamed hb] at h ⊢
      exact (bindNamed_named_iff ha).2 ⟨i, v, hi, hif, hv, h⟩
    · obtain ⟨j, w, hj, hjf, hw, h⟩ := (bindNamed_named_iff hb).1 h
      obtain ⟨hne, hjf⟩ := (free_set_iff (by rw [hl]; exact hi.lt) v).1 hjf
      refine (bindNamed_named_iff hb).2 ⟨j, w, hj, hjf, hw, (bindNamed_named_iff ha).2 ⟨i, v, hi, ?_, hv, ?_⟩⟩
      · exact (free_set_iff (by rw [hl]; exact hj.lt) w).2 ⟨hne.symm, hif⟩
      · rwa [List.set_comm _ _ hne]

/-- The order of the arguments does not matter to those with a name. -/
theorem bindNamed_perm (hp : os.Perm os') (hl : slots.length = m.params.length)
    (h : bindNamed m slots os = .ok slots') : bindNamed m slots os' = .ok slots' := by
  induction hp generalizing slots with
  | nil => exact h
  | cons o _ ih =>
    by_cases hn : o.arg.name = none
    · rw [bindNamed_unnamed hn] at h ⊢
      exact ih hl h
    · obtain ⟨i, v, hi, hf, hv, h⟩ := (bindNamed_named_iff hn).1 h
      exact (bindNamed_named_iff hn).2 ⟨i, v, hi, hf, hv, ih (by rw [List.length_set, hl]) h⟩
  | swap a b os => exact bindNamed_swap hl h
  | trans _ _ ih ih' => exact ih' hl (ih hl h)

/-! ## Arguments without a name -/

/-- Only the arguments without a name matter to what is filled in order. -/
theorem bindInOrder_filter (m : Matcher) (slots : Slots) (os : List Operand) :
    bindInOrder m slots (os.filter (·.arg.name.isNone)) = bindInOrder m slots os := by
  induction os generalizing slots with
  | nil => rfl
  | cons o os ih =>
    cases hn : o.arg.name with
    | none =>
      rw [List.filter_cons_of_pos (by simp [hn]), bindInOrder, bindInOrder, hn]
      simp only [ih]
    | some name =>
      have hne : o.arg.name ≠ none := by simp [hn]
      rw [List.filter_cons_of_neg (by simp [hn]), ih, bindInOrder_named hne]

/-- The names of the parameters without a value, in order. -/
def openParams : List String → Slots → List String
  | p :: params, none :: slots => p :: openParams params slots
  | _ :: params, some _ :: slots => openParams params slots
  | _, _ => []

/-- The first open parameter is the one that is filled next. -/
theorem findIdx?_of_openParams {params free : List String} {p : String}
    (h : openParams params slots = p :: free) :
    ∃ i, slots.findIdx? Option.isNone = some i ∧ params[i]? = some p ∧
      ∀ v, openParams params (slots.set i (some v)) = free := by
  induction params generalizing slots with
  | nil => cases h
  | cons q params ih =>
    rcases slots with _ | ⟨_ | w, slots⟩
    · cases h
    · rw [openParams] at h
      obtain ⟨rfl, rfl⟩ := List.cons.inj h
      exact ⟨0, rfl, rfl, fun v => rfl⟩
    · obtain ⟨i, hi, hp, hfree⟩ := ih h
      exact ⟨i + 1, by simp [List.findIdx?_cons, hi], hp, hfree⟩

theorem findIdx?_of_openParams_nil {params : List String} (hl : slots.length = params.length)
    (h : openParams params slots = []) : slots.findIdx? Option.isNone = none := by
  induction params generalizing slots with
  | nil =>
    rw [List.eq_nil_of_length_eq_zero hl]
    rfl
  | cons q params ih =>
    rcases slots with _ | ⟨_ | w, slots⟩
    · rfl
    · cases h
    · simp [List.findIdx?_cons, ih (by simpa using hl) h]

/-- The open parameters are the names of those that are free. -/
theorem openParams_eq_filter {params : List String} {P : String → Bool} (hl : slots.length = params.length)
    (h : ∀ i p, params[i]? = some p → (Free slots i ↔ P p)) : openParams params slots = params.filter P := by
  induction params generalizing slots with
  | nil =>
    rw [List.eq_nil_of_length_eq_zero hl]
    rfl
  | cons q params ih =>
    rcases slots with _ | ⟨value, slots⟩
    · cases hl
    · have hrest : openParams params slots = params.filter P :=
        ih (by simpa using hl) fun i p hp => h (i + 1) p hp
      have hq := h 0 q rfl
      cases value with
      | none => rw [openParams, hrest, List.filter_cons_of_pos (hq.1 rfl)]
      | some v => rw [openParams, hrest, List.filter_cons_of_neg fun hP => nomatch hq.2 hP]

/-! ## Arguments written with the names of their parameters -/

/-- The parameters that no argument is given to by name, in order. -/
def freeParams (m : Matcher) (args : List Arg) : List String :=
  m.params.filter fun p => !args.any fun a => a.name.map plainParam == some p

/-- The same arguments, each with a name: one that has a name keeps its parameter, and the others name
the parameters of the list in order. A dot stands for a low line wherever it is written. -/
inductive SpelledOut : List String → List Arg → List Arg → Prop
  | nil {free : List String} : SpelledOut free [] []
  | named {free : List String} {name name' : String} {value : Expr} {args args' : List Arg} :
      plainParam name' = plainParam name → SpelledOut free args args' →
      SpelledOut free (.mk (some name) value :: args) (.mk (some name') value :: args')
  | placed {p : String} {free : List String} {name' : String} {value : Expr} {args args' : List Arg} :
      plainParam name' = p → SpelledOut free args args' →
      SpelledOut (p :: free) (.mk none value :: args) (.mk (some name') value :: args')

/-- No parameter has a dot in its name. -/
theorem plainParam_param {p : String} (hp : p ∈ m.params) : plainParam p = p := by
  revert p
  cases m <;> decide

open ColumnSelect.Expr (evalArgs evalArgs_eq)

variable {catalog : Catalog} {args args' : List Arg}

theorem openParams_of_bindNamed [Pattern.Engine]
    (h : bindNamed m (m.params.map fun _ => none) (evalArgs catalog args) = .ok slots) :
    openParams m.params slots = freeParams m args := by
  have hl : (m.params.map fun _ => (none : Option Value)).length = m.params.length := List.length_map _
  refine openParams_eq_filter ((length_bindNamed h).trans hl) fun i p hp => ?_
  have hfree : Free (m.params.map fun _ => none) i := by
    rw [Free, List.getElem?_map, hp]
    rfl
  rw [free_bindNamed_iff hl h]
  simp only [hfree, true_and, names_iff hp]
  simp [evalArgs_eq]

theorem evalArg_name_ne_none [Pattern.Engine] {name : String} {value : Expr} :
    (Expr.evalArg catalog (.mk (some name) value)).arg.name ≠ none := by
  simp [Expr.evalArg]

/-- Arguments that all have names leave nothing to fill in order. -/
theorem bindInOrder_of_spelledOut [Pattern.Engine] {free : List String} (h : SpelledOut free args args')
    (slots : Slots) :
    bindInOrder m slots (evalArgs catalog args') = .ok slots := by
  induction h with
  | nil => rfl
  | named _ _ ih => rw [evalArgs, bindInOrder_named evalArg_name_ne_none, ih]
  | placed _ _ ih => rw [evalArgs, bindInOrder_named evalArg_name_ne_none, ih]

/-- Arguments that fill the open parameters in order can be written with the names of these. -/
theorem exists_spelledOut [Pattern.Engine] (hl : slots.length = m.params.length)
    (h : bindInOrder m slots (evalArgs catalog args) = .ok slots') :
    ∃ args', SpelledOut (openParams m.params slots) args args' := by
  induction args generalizing slots with
  | nil => exact ⟨[], .nil⟩
  | cons a args ih =>
    obtain ⟨name, value⟩ := a
    rw [evalArgs] at h
    cases name with
    | some name =>
      rw [bindInOrder_named evalArg_name_ne_none] at h
      obtain ⟨args', hargs⟩ := ih hl h
      exact ⟨_, .named rfl hargs⟩
    | none =>
      obtain ⟨i, v, hi, -, h⟩ := (bindInOrder_unnamed_iff rfl).1 h
      cases ho : openParams m.params slots with
      | nil => cases (findIdx?_of_openParams_nil hl ho).symm.trans hi
      | cons p free =>
        obtain ⟨j, hj, hp, hfree⟩ := findIdx?_of_openParams ho
        cases hi.symm.trans hj
        obtain ⟨args', hargs⟩ := ih (by rw [List.length_set, hl]) h
        rw [hfree v] at hargs
        exact ⟨_, .placed (plainParam_param (List.mem_of_getElem? hp)) hargs⟩

/-- Arguments written out with names come to the same values as some with names and the others in order. -/
theorem bindNamed_spelledOut [Pattern.Engine] {free : List String} {named : Slots} (h : SpelledOut free args args')
    (hl : slots.length = m.params.length) (hn : bindNamed m slots (evalArgs catalog args) = .ok named)
    (ho : bindInOrder m named (evalArgs catalog args) = .ok slots') (hfree : openParams m.params named = free) :
    bindNamed m slots (evalArgs catalog args') = .ok slots' := by
  induction h generalizing slots named with
  | nil =>
    cases hn
    exact ho
  | named hname _ ih =>
    rw [evalArgs] at hn ho ⊢
    rw [bindInOrder_named evalArg_name_ne_none] at ho
    obtain ⟨i, v, hi, hf, hv, hn⟩ := (bindNamed_named_iff evalArg_name_ne_none).1 hn
    have hrest := ih (by rw [List.length_set, hl]) hn ho hfree
    exact (bindNamed_named_iff evalArg_name_ne_none).2 ⟨i, v, hi.respelled rfl rfl hname, hf, hv, hrest⟩
  | placed hname _ ih =>
    rw [evalArgs] at hn ho ⊢
    rw [bindNamed_unnamed rfl] at hn
    obtain ⟨i, v, hi, hv, ho⟩ := (bindInOrder_unnamed_iff rfl).1 ho
    obtain ⟨j, hj, hp, hrest⟩ := findIdx?_of_openParams hfree
    cases hi.symm.trans hj
    obtain ⟨hlt, hnone, -⟩ := List.findIdx?_eq_some_iff_getElem.1 hi
    have hfi : Free named i := by
      rw [Free, List.getElem?_eq_getElem hlt, Option.isNone_iff_eq_none.1 hnone]
      rfl
    -- the parameter was free from the start, so it may be filled first
    have hfs := ((free_bindNamed_iff hl hn i).1 hfi).1
    have hset := bindNamed_set hl hn (by rwa [length_bindNamed hn] at hlt) hfi v
    have hrest := ih (by rw [List.length_set, hl]) hset ho (hrest v)
    refine (bindNamed_named_iff evalArg_name_ne_none).2 ⟨i, v, ⟨_, rfl, ?_⟩, hfs, hv, hrest⟩
    rw [hname]
    exact findIdx?_params_iff.2 hp

/-! ## Calls -/

/-- A call that has a value binds the arguments with names, binds the others, and makes the value of what
the parameters then have. -/
theorem eval_call_iff [Pattern.Engine] {v : Value} : (Expr.call m.name args).eval catalog = .ok v ↔
    ∃ named, bindNamed m (m.params.map fun _ => none) (evalArgs catalog args) = .ok named ∧
      ∃ slots, bindInOrder m named (evalArgs catalog args) = .ok slots ∧
        (do return .ints ((← (← m.ofSlots slots).apply catalog).map Int.ofNat)) = Except.ok (ε := Error) v := by
  have hc : m.name ≠ "c" := by cases m <;> decide
  have hm : catalog.lookup? m.name = some (.matcher m) := by rw [Catalog.lookup?, ofName?_name]
  rw [Expr.eval, Expr.callValue, if_neg hc, hm]
  simp only [bindAll, bind_eq_ok_iff]
  constructor
  · rintro ⟨slots, ⟨named, hn, ho⟩, h⟩
    exact ⟨named, hn, slots, ho, h⟩
  · rintro ⟨named, hn, slots, ho, h⟩
    exact ⟨slots, ⟨named, hn, ho⟩, h⟩

/-- A call keeps its value when its arguments change places, as long as those without a name stay in
order. -/
theorem eval_call_perm [Pattern.Engine] {v : Value} (hp : args.Perm args')
    (ho : args.filter (·.name.isNone) = args'.filter (·.name.isNone))
    (h : (Expr.call m.name args).eval catalog = .ok v) : (Expr.call m.name args').eval catalog = .ok v := by
  obtain ⟨named, hn, slots, hs, h⟩ := eval_call_iff.1 h
  have hunnamed : (evalArgs catalog args).filter (·.arg.name.isNone) =
      (evalArgs catalog args').filter (·.arg.name.isNone) := by
    simp only [evalArgs_eq, List.filter_map, Function.comp_def, ho]
  have hperm : (evalArgs catalog args).Perm (evalArgs catalog args') := by
    simp only [evalArgs_eq]
    exact hp.map _
  refine eval_call_iff.2 ⟨named, bindNamed_perm hperm (List.length_map _) hn, slots, ?_, h⟩
  rwa [← bindInOrder_filter, ← hunnamed, bindInOrder_filter]

/-- A call keeps its value when the arguments without a name are written with the names of the parameters
they fill. -/
theorem eval_call_spelledOut [Pattern.Engine] {v : Value} (h : (Expr.call m.name args).eval catalog = .ok v) :
    (∃ args', SpelledOut (freeParams m args) args args') ∧
      ∀ args', SpelledOut (freeParams m args) args args' → (Expr.call m.name args').eval catalog = .ok v := by
  obtain ⟨named, hn, slots, hs, h⟩ := eval_call_iff.1 h
  have hfree := openParams_of_bindNamed hn
  have hl : (m.params.map fun _ => (none : Option Value)).length = m.params.length := List.length_map _
  constructor
  · rw [← hfree]
    exact exists_spelledOut ((length_bindNamed hn).trans hl) hs
  · intro args' hargs
    exact eval_call_iff.2 ⟨slots, bindNamed_spelledOut hargs hl hn hs hfree,
      slots, bindInOrder_of_spelledOut hargs slots, h⟩

/-- The value of a call depends on which argument each parameter is given and on nothing else in the way
its arguments are written: those with names may stand anywhere, and those without may be given names. -/
theorem eval_call_arguments [Pattern.Engine] (m : Matcher) (catalog : Catalog) (args : List Arg) :
    (∀ args' v, args.Perm args' → args.filter (·.name.isNone) = args'.filter (·.name.isNone) →
      ((Expr.call m.name args).eval catalog = .ok v ↔ (Expr.call m.name args').eval catalog = .ok v)) ∧
    ∀ v, (Expr.call m.name args).eval catalog = .ok v →
      (∃ args', SpelledOut (freeParams m args) args args') ∧
      ∀ args', SpelledOut (freeParams m args) args args' → (Expr.call m.name args').eval catalog = .ok v :=
  ⟨fun _ _ hp ho => ⟨eval_call_perm hp ho, eval_call_perm hp.symm ho.symm⟩, fun _ h => eval_call_spelledOut h⟩

/-- A call whose first argument has a name and whose second has none. -/
def caseFirst : List Arg := [.mk (some "ignore.case") (.bool false), .mk none (.str "a")]

theorem eval_call_arguments_caseFirst :
    (Expr.call "starts_with" caseFirst).eval ["ab", "Ab"] = .ok (.ints [1]) ∧
    (Expr.call "starts_with" caseFirst.reverse).eval ["ab", "Ab"] = .ok (.ints [1]) ∧
    (Expr.call "starts_with" [.mk (some "ignore_case") (.bool false), .mk (some "match") (.str "a")]).eval
      ["ab", "Ab"] = .ok (.ints [1]) := by
  have h := eval_call_arguments .startsWith ["ab", "Ab"] caseFirst
  have hv : (Expr.call "starts_with" caseFirst).eval ["ab", "Ab"] = .ok (.ints [1]) := by decide +kernel
  refine ⟨hv, (h.1 caseFirst.reverse _ (List.reverse_perm _).symm rfl).1 hv, (h.2 _ hv).2 _ ?_⟩
  have hfree : freeParams .startsWith caseFirst = ["match"] := by decide +kernel
  rw [hfree]
  exact .named (by decide) (.placed (by decide) .nil)

end ColumnSelect.Matcher
