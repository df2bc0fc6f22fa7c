/-
What is read from the written form of an expression means the same. It is another expression only
where a matcher `c` is called: such a call is written as a list and read as one
(`expr_written_call_c`), and it has the value of that list. Main statement: without negative numbers,
what an expression evaluates to, its written form is read to evaluate to (`eval_expr_written`). An
expression that has a value can be read again at all, since it names no item of a list
(`unnamedItems_of_eval`), and what is read nests no deeper (`nesting_expr_written_le`).
-/
import ColumnSelect.Proofs.Expr.Depth
import ColumnSelect.Proofs.Expr.Eval
import ColumnSelect.Proofs.Expr.Printer

namespace ColumnSelect

open Grammar Matcher

/-! ## Arguments given alike -/

/-- Two arguments are given to the same parameter with the same value. -/
structure Matcher.Operand.Alike (o o' : Operand) : Prop where
  name : o'.arg.name = o.arg.name
  value : o'.value = o.value

theorem Matcher.bindNamed_alike {m : Matcher} {slots : Slots} {os os' : List Operand}
    (h : List.Forall₂ Operand.Alike os os') : bindNamed m slots os' = bindNamed m slots os := by
  induction h generalizing slots with
  | nil => rfl
  | cons ho _ ih => simp only [bindNamed, ho.name, ho.value, ih]

/-- Only the errors of arguments without a name show how these are written. -/
theorem Matcher.bindInOrder_alike {m : Matcher} {slots slots' : Slots} {os os' : List Operand}
    (h : List.Forall₂ Operand.Alike os os') (hb : bindInOrder m slots os = .ok slots') :
    bindInOrder m slots os' = .ok slots' := by
  induction h generalizing slots with
  | nil => exact hb
  | cons ho _ ih =>
    rw [bindInOrder] at hb ⊢
    rw [ho.name, ho.value]
    split at hb
    · exact ih hb
    · split at hb
      · cases hb
      · obtain ⟨v, hv, hb⟩ := bind_eq_ok_iff.1 hb
        exact bind_eq_ok_iff.2 ⟨v, hv, ih hb⟩

namespace Expr

variable {catalog : Catalog}

theorem callValue_alike [Pattern.Engine] {function : String} (hc : function ≠ "c") {os os' : List Operand}
    (h : List.Forall₂ Operand.Alike os os') {v : Value} (hv : callValue catalog function os = .ok v) :
    callValue catalog function os' = .ok v := by
  rw [callValue, if_neg hc] at hv ⊢
  split at hv
  · obtain ⟨slots, hb, hv⟩ := bind_eq_ok_iff.1 hv
    obtain ⟨named, hn, ho⟩ := bind_eq_ok_iff.1 hb
    have hb' : bindAll _ os' = .ok slots :=
      bind_eq_ok_iff.2 ⟨named, (bindNamed_alike h).trans hn, bindInOrder_alike h ho⟩
    exact bind_eq_ok_iff.2 ⟨slots, hb', hv⟩
  · cases hv
  · cases hv

/-- A call of `c` whose arguments have no names has the value of a list. -/
theorem eval_call_c [Pattern.Engine] {args : List Arg} (h : ∀ a ∈ args, a.name = none) :
    (call "c" args).eval catalog = (list (args.map Arg.value)).eval catalog := by
  have hf : (evalArgs catalog args).find? (·.arg.name.isSome) = none := by
    simpa [evalArgs_eq, List.find?_eq_none] using h
  rw [eval, callValue, if_pos rfl, hf, eval, evalItems_eq, evalArgs_eq, List.map_map, List.map_map]
  rfl

/-! ## What the written form stands for -/

theorem expr_written_range (first last : Expr) :
    (range first last).written.expr = .range first.written.expr last.written.expr := by
  rw [written, ExprTree.expr, ExprTree.expr_asPrimary, ExprTree.expr_asPrimary]

theorem expr_written_list (items : List Expr) :
    (list items).written.expr = .list (items.map fun e => e.written.expr) := by
  rw [written, ExprTree.expr, PrimaryTree.expr, if_pos rfl, ArgTree.args_eq, writtenAll_eq]
  simp [ArgTree.arg, Function.comp_def]

theorem expr_written_call_c (args : List Arg) :
    (call "c" args).written.expr = .list (args.map fun a => a.value.written.expr) := by
  rw [written, ExprTree.expr, PrimaryTree.expr, if_pos (Name.of_eq_list.2 rfl), ArgTree.args_eq,
    Arg.writtenAll_eq]
  simp [ArgTree.arg, Function.comp_def]

theorem expr_written_call {function : String} (hc : function ≠ "c") (args : List Arg) :
    (call function args).written.expr =
      .call function (args.map fun a => .mk a.name a.value.written.expr) := by
  have hname : ∀ a : Arg, (a.name.map Name.of).map Name.text = a.name := fun a => by
    cases a.name <;> rfl
  rw [written, ExprTree.expr, PrimaryTree.expr, if_neg fun h => hc (Name.of_eq_list.1 h), ArgTree.args_eq,
    Arg.writtenAll_eq, List.map_map]
  simp only [Function.comp_def, ArgTree.arg, hname]
  rfl

/-- Without negative numbers, what is read from the written form nests no deeper. -/
theorem nesting_expr_written_le {e : Expr} (hu : e.Every Unsigned) :
    e.written.expr.nesting ≤ e.nesting := by
  induction e using ind with
  | int value =>
    rw [written_int_of_unsigned hu]
    exact Nat.le_refl _
  | range first last hfirst hlast =>
    have hf := hfirst hu.2.1
    have hl := hlast hu.2.2
    rw [expr_written_range, nesting, nesting]
    omega
  | negate inner hinner => exact Nat.succ_le_succ (hinner hu.2)
  | call function args hargs =>
    have hle : ∀ a ∈ args, a.value.written.expr.nesting ≤ Arg.nestingAll args := fun a ha =>
      Nat.le_trans (hargs a ha (everyAll_args_iff.1 hu.2 a ha))
        (nestingAll_args_le_iff.1 (Nat.le_refl _) a ha)
    by_cases hc : function = "c"
    · subst hc
      rw [expr_written_call_c, nesting, nesting]
      exact Nat.succ_le_succ (nestingAll_le_iff.2 (by simpa using hle))
    · rw [expr_written_call hc, nesting, nesting]
      exact Nat.succ_le_succ (nestingAll_args_le_iff.2 (by simpa using hle))
  | list items hitems =>
    have hle : ∀ e ∈ items, e.written.expr.nesting ≤ nestingAll items := fun e he =>
      Nat.le_trans (hitems e he (everyAll_iff.1 hu.2 e he)) (nestingAll_le_iff.1 (Nat.le_refl _) e he)
    rw [expr_written_list, nesting, nesting]
    exact Nat.succ_le_succ (nestingAll_le_iff.2 (by simpa using hle))
  | _ => exact Nat.le_refl _

/-! ## Values -/

/-- An expression with a value names no item of a list. -/
theorem unnamedItems_of_eval [Pattern.Engine] {e : Expr} {v : Value} (h : e.eval catalog = .ok v) :
    e.Every UnnamedItems := by
  induction e using parts_ind generalizing v with
  | h e ih =>
    refine every_iff.2 ⟨?_, fun part hp => ?_⟩
    · rintro args rfl
      rw [eval, evalArgs_eq] at h
      simpa using (callValue_eq_ok h).1 rfl
    · obtain ⟨w, hw⟩ := eval_parts_of_ok h part hp
      exact ih part hp hw

theorem eval_list_map [Pattern.Engine] {catalog' : Catalog} {items : List Expr} {f : Expr → Expr}
    (hf : ∀ e ∈ items, ∀ w, e.eval catalog = .ok w → (f e).eval catalog' = .ok w) {v : Value}
    (h : (list items).eval catalog = .ok v) : (list (items.map f)).eval catalog' = .ok v := by
  obtain ⟨rows, hr, rfl⟩ := eval_list_eq_ok_iff.1 h
  refine eval_list_eq_ok_iff.2 ⟨rows, List.forall₂_map_left_iff.2 ?_, rfl⟩
  have hboth := (List.forall₂_and_left _ _).2 ⟨hf, hr⟩
  exact hboth.imp fun e row h => h.1 _ h.2

theorem eval_call_map [Pattern.Engine] {function : String} (hc : function ≠ "c") {args : List Arg} {f : Expr → Expr}
    (hf : ∀ a ∈ args, ∀ w, a.value.eval catalog = .ok w → (f a.value).eval catalog = .ok w) {v : Value}
    (h : (call function args).eval catalog = .ok v) :
    (call function (args.map fun a => .mk a.name (f a.value))).eval catalog = .ok v := by
  rw [eval, evalArgs_eq] at h ⊢
  have hvalues : ∀ a ∈ args, ∃ w, a.value.eval catalog = .ok w := by simpa using (callValue_eq_ok h).2
  refine callValue_alike hc ?_ h
  rw [List.map_map, List.forall₂_map_right_iff, List.forall₂_map_left_iff, List.forall₂_same]
  intro a ha
  obtain ⟨w, hw⟩ := hvalues a ha
  exact ⟨rfl, (hf a ha w hw).trans hw.symm⟩

/-- Without negative numbers, the written form of an expression is read as an expression of the same
value. -/
theorem eval_expr_written [Pattern.Engine] {e : Expr} (hu : e.Every Unsigned) {v : Value}
    (h : e.eval catalog = .ok v) :
    e.written.expr.eval catalog = .ok v := by
  induction e using ind generalizing v with
  | int value => rw [written_int_of_unsigned hu]; exact h
  | range first last hfirst hlast =>
    rw [expr_written_range]
    obtain ⟨a, b, ha, hb, h⟩ := eval_range_eq_ok_iff.1 h
    exact eval_range_eq_ok_iff.2 ⟨a, b, hfirst hu.2.1 ha, hlast hu.2.2 hb, h⟩
  | negate inner hinner =>
    obtain ⟨numbers, hn, rfl⟩ := eval_negate_eq_ok_iff.1 h
    exact eval_negate_eq_ok_iff.2 ⟨numbers, hinner hu.2 hn, rfl⟩
  | call function args hargs =>
    have hvalue : ∀ a ∈ args, ∀ w, a.value.eval catalog = .ok w → a.value.written.expr.eval catalog = .ok w :=
      fun a ha w => hargs a ha (everyAll_args_iff.1 hu.2 a ha)
    by_cases hc : function = "c"
    · subst hc
      -- the call has the value of a list, and is read as that list
      rw [eval_call_c ((unnamedItems_of_eval h).1 args rfl)] at h
      have hitem : ∀ e ∈ args.map Arg.value, ∀ w, e.eval catalog = .ok w → e.written.expr.eval catalog = .ok w :=
        List.forall_mem_map.2 hvalue
      rw [expr_written_call_c]
      simpa [Function.comp_def] using eval_list_map hitem h
    · rw [expr_written_call hc]
      exact eval_call_map (f := fun e => e.written.expr) hc hvalue h
  | list items hitems =>
    rw [expr_written_list]
    exact eval_list_map (fun e he w => hitems e he (everyAll_iff.1 hu.2 e he)) h
  | _ => exact h

end Expr

end ColumnSelect
