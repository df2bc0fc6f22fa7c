/-
Evaluation, read off its results. An expression that has a value is made of parts that have values
(`eval_parts_of_ok`), and for each form it is said which values (`eval_range_eq_ok_iff` and the like).
What fails in evaluation does so without the number of a term, and never for its nesting, which was
judged before (`shallow_eval`).
-/
import ColumnSelect.Expr.Eval
import ColumnSelect.Proofs.Expr.Parts
import ColumnSelect.Proofs.Outcome

namespace ColumnSelect

open Matcher

/-- The error that an expression is nested too deep. -/
def Error.TooDeep (e : Error) : Prop := ∃ argument depth, e.cause = .invalidArgument argument (.tooDeep depth)

namespace Expr

/-! ## Values of the parts -/

theorem rangeEnd_eq_ok_iff {misuse : ValueKind → Misuse} {e : Expr} {value : Except Error Value} {n : Int} :
    rangeEnd misuse e value = .ok n ↔ value = .ok (.ints [n]) := by
  unfold rangeEnd
  rw [bind_eq_ok_iff]
  constructor
  · rintro ⟨v, rfl, h⟩
    split at h
    · cases h; rfl
    · cases h
  · rintro rfl
    exact ⟨_, rfl, rfl⟩

theorem joinItems_eq_ok_iff {items : List (Expr × Except Error Value)} {numbers : List Int} :
    joinItems items = .ok numbers ↔
      ∃ rows, List.Forall₂ (fun item row => item.2 = .ok (.ints row)) items rows ∧ rows.flatten = numbers := by
  induction items generalizing numbers with
  | nil =>
    rw [joinItems]
    constructor
    · intro h
      cases h
      exact ⟨[], .nil, rfl⟩
    · rintro ⟨rows, h, rfl⟩
      cases h
      rfl
  | cons item items ih =>
    obtain ⟨e, value⟩ := item
    rw [joinItems, bind_eq_ok_iff]
    constructor
    · rintro ⟨v, rfl, h⟩
      split at h
      · rename_i row
        obtain ⟨others, ho, h⟩ := bind_eq_ok_iff.1 h
        cases h
        obtain ⟨rows, hr, rfl⟩ := ih.1 ho
        exact ⟨row :: rows, .cons rfl hr, rfl⟩
      · cases h
    · rintro ⟨rows, h, rfl⟩
      obtain _ | ⟨hv, hr⟩ := h
      rename_i row rows
      exact ⟨_, hv, bind_eq_ok_iff.2 ⟨_, ih.2 ⟨rows, hr, rfl⟩, rfl⟩⟩

variable {catalog : Catalog}

/-- A name that no matcher hides has its first position for a value. -/
theorem columnValue_eq_ok_iff {name : String} {v : Value} : columnValue catalog name = .ok v ↔
    ∃ p, Matcher.ofName? name = none ∧ catalog.position? name = some p ∧ .ints [(p : Int)] = v := by
  unfold columnValue Catalog.lookup?
  cases Matcher.ofName? name with
  | some m => simp
  | none => cases catalog.position? name <;> simp

theorem eval_range_eq_ok_iff [Pattern.Engine] {first last : Expr} {v : Value} :
    (range first last).eval catalog = .ok v ↔ ∃ a b, first.eval catalog = .ok (.ints [a]) ∧
      last.eval catalog = .ok (.ints [b]) ∧ Value.range a b = .ok v := by
  rw [eval, bind_eq_ok_iff]
  simp only [bind_eq_ok_iff, rangeEnd_eq_ok_iff]
  constructor
  · rintro ⟨a, ha, b, hb, h⟩
    exact ⟨a, b, ha, hb, h⟩
  · rintro ⟨a, b, ha, hb, h⟩
    exact ⟨a, ha, b, hb, h⟩

theorem eval_negate_eq_ok_iff [Pattern.Engine] {inner : Expr} {v : Value} :
    (negate inner).eval catalog = .ok v ↔
      ∃ numbers, inner.eval catalog = .ok (.ints numbers) ∧ .ints (numbers.map Value.opposite) = v := by
  rw [eval, bind_eq_ok_iff]
  constructor
  · rintro ⟨w, hw, h⟩
    split at h
    · cases h
      exact ⟨_, hw, rfl⟩
    · cases h
  · rintro ⟨numbers, hn, rfl⟩
    exact ⟨_, hn, rfl⟩

theorem eval_list_eq_ok_iff [Pattern.Engine] {items : List Expr} {v : Value} :
    (list items).eval catalog = .ok v ↔
      ∃ rows, List.Forall₂ (fun e row => e.eval catalog = .ok (.ints row)) items rows ∧
        .ints rows.flatten = v := by
  rw [eval, bind_eq_ok_iff, evalItems_eq]
  simp only [joinItems_eq_ok_iff, List.forall₂_map_left_iff]
  constructor
  · rintro ⟨numbers, ⟨rows, hr, rfl⟩, h⟩
    cases h
    exact ⟨rows, hr, rfl⟩
  · rintro ⟨rows, hr, rfl⟩
    exact ⟨_, ⟨rows, hr, rfl⟩, rfl⟩

/-- Arguments with a name are evaluated when they are given. -/
theorem value_of_bindNamed {m : Matcher} {slots slots' : Slots} {operands : List Operand}
    (h : bindNamed m slots operands = .ok slots') :
    ∀ o ∈ operands, o.arg.name ≠ none → ∃ v, o.value = .ok v := by
  induction operands generalizing slots with
  | nil => simp
  | cons o os ih =>
    rw [bindNamed] at h
    split at h
    · rename_i hn
      exact List.forall_mem_cons.2 ⟨fun hne => absurd hn hne, ih h⟩
    · split at h
      · cases h
      · split at h
        · cases h
        · obtain ⟨v, hv, h⟩ := bind_eq_ok_iff.1 h
          exact List.forall_mem_cons.2 ⟨fun _ => ⟨v, hv⟩, ih h⟩

/-- Arguments without a name are evaluated when they are given. -/
theorem value_of_bindInOrder {m : Matcher} {slots slots' : Slots} {operands : List Operand}
    (h : bindInOrder m slots operands = .ok slots') :
    ∀ o ∈ operands, o.arg.name = none → ∃ v, o.value = .ok v := by
  induction operands generalizing slots with
  | nil => simp
  | cons o os ih =>
    rw [bindInOrder] at h
    split at h
    · rename_i hn
      exact List.forall_mem_cons.2 ⟨fun he => absurd (he ▸ hn) nofun, ih h⟩
    · split at h
      · cases h
      · obtain ⟨v, hv, h⟩ := bind_eq_ok_iff.1 h
        exact List.forall_mem_cons.2 ⟨fun _ => ⟨v, hv⟩, ih h⟩

theorem value_of_bindAll {m : Matcher} {slots : Slots} {operands : List Operand}
    (h : m.bindAll operands = .ok slots) : ∀ o ∈ operands, ∃ v, o.value = .ok v := by
  obtain ⟨slots', hnamed, hrest⟩ := bind_eq_ok_iff.1 h
  intro o ho
  by_cases hn : o.arg.name = none
  · exact value_of_bindInOrder hrest o ho hn
  · exact value_of_bindNamed hnamed o ho hn

/-- A call that has a value is the list of items without names, or has arguments with values. -/
theorem callValue_eq_ok [Pattern.Engine] {function : String} {operands : List Operand} {v : Value}
    (h : callValue catalog function operands = .ok v) :
    (function = "c" → ∀ o ∈ operands, o.arg.name = none) ∧ ∀ o ∈ operands, ∃ w, o.value = .ok w := by
  unfold callValue at h
  split at h
  · split at h
    · cases h
    · rename_i hf
      obtain ⟨numbers, hj, -⟩ := bind_eq_ok_iff.1 h
      obtain ⟨rows, hr, -⟩ := joinItems_eq_ok_iff.1 hj
      rw [List.forall₂_map_left_iff] at hr
      refine ⟨fun _ o ho => by simpa using List.find?_eq_none.1 hf o ho, fun o ho => ?_⟩
      obtain ⟨row, -, hv⟩ := exists_of_forall₂ hr o ho
      exact ⟨_, hv⟩
  · rename_i hc
    refine ⟨fun he => absurd he hc, ?_⟩
    split at h
    · obtain ⟨slots, hb, -⟩ := bind_eq_ok_iff.1 h
      exact value_of_bindAll hb
    · cases h
    · cases h

/-- A call joins what its arguments evaluate to, or gives the positions that a matcher selects. -/
theorem callValue_cases [Pattern.Engine] {function : String} {operands : List Matcher.Operand} {v : Value}
    (h : callValue catalog function operands = .ok v) :
    (∃ rows, List.Forall₂ (fun o row => o.value = .ok (.ints row)) operands rows ∧ v = .ints rows.flatten) ∨
      ∃ (call : Matcher.Call) (positions : List Nat),
        call.apply catalog = .ok positions ∧ v = .ints (positions.map Int.ofNat) := by
  unfold callValue at h
  split at h
  · split at h
    · cases h
    · obtain ⟨numbers, hj, ⟨⟩⟩ := bind_eq_ok_iff.1 h
      obtain ⟨rows, hr, rfl⟩ := joinItems_eq_ok_iff.1 hj
      exact .inl ⟨rows, List.forall₂_map_left_iff.1 hr, rfl⟩
  · split at h
    · obtain ⟨slots, -, h⟩ := bind_eq_ok_iff.1 h
      obtain ⟨call, -, h⟩ := bind_eq_ok_iff.1 h
      obtain ⟨positions, hp, ⟨⟩⟩ := bind_eq_ok_iff.1 h
      exact .inr ⟨call, positions, hp, rfl⟩
    · cases h
    · cases h

/-- All of an expression is evaluated, or the evaluation fails. -/
theorem eval_parts_of_ok [Pattern.Engine] {e : Expr} {v : Value} (h : e.eval catalog = .ok v) :
    ∀ part ∈ e.parts, ∃ w, part.eval catalog = .ok w := by
  cases e with
  | range first last =>
    obtain ⟨a, b, ha, hb, -⟩ := eval_range_eq_ok_iff.1 h
    simpa using ⟨⟨_, hb⟩, ⟨_, ha⟩⟩
  | negate inner =>
    obtain ⟨numbers, hn, -⟩ := eval_negate_eq_ok_iff.1 h
    simpa using ⟨_, hn⟩
  | call function args =>
    rw [eval, evalArgs_eq] at h
    simpa using (callValue_eq_ok h).2
  | list items =>
    obtain ⟨rows, hr, -⟩ := eval_list_eq_ok_iff.1 h
    intro e he
    obtain ⟨row, -, hv⟩ := exists_of_forall₂ hr e (by simpa using he)
    exact ⟨_, hv⟩
  | _ => nofun

/-! ## Errors -/

/-- An error of the computation tells neither the number of a term nor that an expression is nested too
deep. -/
def Shallow {α : Type} (x : Except Error α) : Prop := ∀ e, x = .error e → e.term = none ∧ ¬ e.TooDeep

theorem shallow_ok {α : Type} (a : α) : Shallow (.ok a) := nofun

theorem shallow_ofCause {α : Type} {cause : Cause}
    (h : ∀ argument depth, cause ≠ .invalidArgument argument (.tooDeep depth)) :
    @Shallow α (.error (.ofCause cause)) := by
  rintro e ⟨⟩
  exact ⟨rfl, fun ⟨argument, depth, hc⟩ => h argument depth hc⟩

theorem shallow_misuse {α : Type} {argument : String} {misuse : Misuse} (h : ∀ depth, misuse ≠ .tooDeep depth) :
    @Shallow α (.error (.misuse argument misuse)) :=
  shallow_ofCause fun _ depth hc => h depth (Cause.invalidArgument.inj hc).2

theorem shallow_bind {α β : Type} {x : Except Error α} {f : α → Except Error β} (hx : Shallow x)
    (hf : ∀ a, Shallow (f a)) : Shallow (x >>= f) := by
  cases x with
  | error e => exact fun e' h => hx e' (by cases h; rfl)
  | ok a => exact hf a

theorem shallow_rangeEnd {misuse : ValueKind → Misuse} {e : Expr} {value : Except Error Value}
    (hm : ∀ kind depth, misuse kind ≠ .tooDeep depth) (h : Shallow value) : Shallow (rangeEnd misuse e value) := by
  refine shallow_bind h fun v => ?_
  split
  · exact shallow_ok _
  · exact shallow_misuse (hm _)

theorem shallow_joinItems {items : List (Expr × Except Error Value)}
    (h : ∀ item ∈ items, Shallow item.2) : Shallow (joinItems items) := by
  induction items with
  | nil => exact shallow_ok _
  | cons item items ih =>
    obtain ⟨hi, his⟩ := List.forall_mem_cons.1 h
    refine shallow_bind hi fun v => ?_
    split
    · exact shallow_bind (ih his) fun _ => shallow_ok _
    · exact shallow_misuse nofun

theorem shallow_bindNamed (m : Matcher) (slots : Slots) {operands : List Operand}
    (h : ∀ o ∈ operands, Shallow o.value) : Shallow (bindNamed m slots operands) := by
  induction operands generalizing slots with
  | nil => exact shallow_ok _
  | cons o os ih =>
    obtain ⟨ho, hos⟩ := List.forall_mem_cons.1 h
    rw [bindNamed]
    split
    · exact ih slots hos
    · split
      · exact shallow_misuse nofun
      · split
        · exact shallow_misuse nofun
        · exact shallow_bind ho fun v => ih _ hos

theorem shallow_bindInOrder (m : Matcher) (slots : Slots) {operands : List Operand}
    (h : ∀ o ∈ operands, Shallow o.value) : Shallow (bindInOrder m slots operands) := by
  induction operands generalizing slots with
  | nil => exact shallow_ok _
  | cons o os ih =>
    obtain ⟨ho, hos⟩ := List.forall_mem_cons.1 h
    rw [bindInOrder]
    split
    · exact ih slots hos
    · split
      · exact shallow_misuse nofun
      · exact shallow_bind ho fun v => ih _ hos

theorem shallow_stringParam (m : Matcher) (param : String) (value : Option Value) :
    Shallow (stringParam m param value) := by
  unfold stringParam
  split
  · exact shallow_ok _
  · exact shallow_misuse nofun
  · exact shallow_misuse nofun

theorem shallow_numbersParam (m : Matcher) (param : String) (value : Option Value) :
    Shallow (numbersParam m param value) := by
  unfold numbersParam
  split
  · exact shallow_ok _
  · exact shallow_misuse nofun
  · exact shallow_misuse nofun

theorem shallow_logicalParam (m : Matcher) (param : String) (value : Option Value) :
    Shallow (logicalParam m param value) := by
  unfold logicalParam
  split
  · exact shallow_ok _
  · exact shallow_misuse nofun
  · exact shallow_ok _

theorem shallow_widthParam (m : Matcher) (value : Option Value) : Shallow (widthParam m value) := by
  unfold widthParam
  split
  · exact shallow_ok _
  · split
    · exact shallow_misuse nofun
    · split
      · exact shallow_misuse nofun
      · exact shallow_ok _
  · exact shallow_misuse nofun

theorem shallow_ofSlots (m : Matcher) (slots : Slots) : Shallow (m.ofSlots slots) := by
  unfold ofSlots
  split
  · exact shallow_bind (shallow_stringParam _ _ _) fun stem =>
      shallow_bind (shallow_numbersParam _ _ _) fun numbers =>
        shallow_bind (shallow_widthParam _ _) fun width => shallow_ok _
  · refine shallow_bind (shallow_stringParam _ _ _) fun text =>
      shallow_bind (shallow_logicalParam _ _ _) fun ignoreCase => ?_
    split <;> exact shallow_ok _

theorem shallow_select (m : Matcher) (text : String) (catalog : Catalog) (found : String → Bool) :
    Shallow (m.select text catalog found) := by
  unfold Matcher.select
  split
  · exact shallow_misuse nofun
  · exact shallow_ok _

theorem shallow_apply [Pattern.Engine] (catalog : Catalog) (call : Call) : Shallow (call.apply catalog) := by
  unfold Call.apply
  split
  · exact shallow_select _ _ _ _
  · exact shallow_select _ _ _ _
  · exact shallow_select _ _ _ _
  · split
    · exact shallow_misuse nofun
    · split
      · exact shallow_misuse nofun
      · exact shallow_ok _
  · exact shallow_ok _

theorem shallow_callValue [Pattern.Engine] (catalog : Catalog) (function : String) {operands : List Operand}
    (h : ∀ o ∈ operands, Shallow o.value) : Shallow (callValue catalog function operands) := by
  unfold callValue
  split
  · split
    · exact shallow_misuse nofun
    · refine shallow_bind (shallow_joinItems ?_) fun numbers => shallow_ok _
      simpa using h
  · split
    · exact shallow_bind
        (shallow_bind (shallow_bindNamed _ _ h) fun slots => shallow_bindInOrder _ _ h) fun slots =>
          shallow_bind (shallow_ofSlots _ _) fun call =>
            shallow_bind (shallow_apply _ _) fun positions => shallow_ok _
    · exact shallow_misuse nofun
    · exact shallow_ofCause nofun

/-- An error of evaluation tells neither the number of a term nor that an expression is nested too deep. -/
theorem shallow_eval [Pattern.Engine] (catalog : Catalog) (e : Expr) : Shallow (e.eval catalog) := by
  induction e using ind with
  | column name =>
    rw [eval, columnValue]
    split
    · exact shallow_ok _
    · exact shallow_misuse nofun
    · exact shallow_ofCause nofun
  | int value => exact shallow_ok _
  | str text => exact shallow_ok _
  | bool value => exact shallow_ok _
  | range first last hfirst hlast =>
    refine shallow_bind (shallow_rangeEnd nofun hfirst) fun a =>
      shallow_bind (shallow_rangeEnd nofun hlast) fun b => ?_
    unfold Value.range
    split
    · exact shallow_misuse nofun
    · exact shallow_ok _
  | negate inner hinner =>
    refine shallow_bind hinner fun v => ?_
    split
    · exact shallow_ok _
    · exact shallow_misuse nofun
  | call function args hargs =>
    rw [eval, evalArgs_eq]
    exact shallow_callValue catalog function (by simpa using hargs)
  | list items hitems =>
    rw [eval, evalItems_eq]
    exact shallow_bind (shallow_joinItems (by simpa using hitems)) fun numbers => shallow_ok _

end Expr

end ColumnSelect
