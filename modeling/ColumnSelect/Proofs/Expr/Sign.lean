/-
Numbers with their sign apart. Text has no negative numbers, and a negative number is written as the negation
of one. Put so in the expression (`Expr.signApart`), it is written as before (`render_signApart`), and a range,
a call or a list around it does not tell the two apart: the expression evaluates to the same value, or fails
with the same error, which may show how a part is written. Only the least number has no number without its
sign. Main statement: `eval_signApart`.
-/
import ColumnSelect.Proofs.Expr.Meaning

namespace ColumnSelect

open Matcher

/-! ## Arguments of which errors show the same -/

/-- Two arguments are given alike, and an error shows the same of either. -/
structure Matcher.Operand.Shown (o o' : Operand) : Prop extends Operand.Alike o o' where
  text : o'.arg.text = o.arg.text
  item : o'.arg.value.text = o.arg.value.text

theorem Matcher.bindInOrder_shown {m : Matcher} {slots : Slots} {os os' : List Operand}
    (h : List.Forall₂ Operand.Shown os os') : bindInOrder m slots os' = bindInOrder m slots os := by
  induction h generalizing slots with
  | nil => rfl
  | cons ho _ ih => simp only [bindInOrder, ho.name, ho.value, ho.text, ih]

/-! ## The expression with signs apart -/

mutual

/-- The expression with each negative number as the negation of the number without its sign. -/
def Expr.signApart : Expr → Expr
  | .column name => .column name
  | .int value =>
    if value.toInt < 0 then .negate (.int (Int64.ofNat value.toInt.natAbs)) else .int value
  | .str text => .str text
  | .bool value => .bool value
  | .range first last => .range first.signApart last.signApart
  | .negate inner => .negate inner.signApart
  | .call function args => .call function (Arg.signApartAll args)
  | .list items => .list (Expr.signApartAll items)

/-- Some expressions with the signs apart. -/
def Expr.signApartAll : List Expr → List Expr
  | [] => []
  | e :: es => e.signApart :: Expr.signApartAll es

/-- An argument with the signs apart. -/
def Arg.signApart : Arg → Arg
  | .mk name value => .mk name value.signApart

/-- Some arguments with the signs apart. -/
def Arg.signApartAll : List Arg → List Arg
  | [] => []
  | a :: as => a.signApart :: Arg.signApartAll as

end

@[simp] theorem Arg.name_signApart (a : Arg) : a.signApart.name = a.name := by
  cases a
  rfl

@[simp] theorem Arg.value_signApart (a : Arg) : a.signApart.value = a.value.signApart := by
  cases a
  rfl

namespace Expr

theorem signApart_list (items : List Expr) : (list items).signApart = list (items.map signApart) := by
  have hall : ∀ es : List Expr, signApartAll es = es.map signApart := by
    intro es
    induction es with
    | nil => rfl
    | cons e es ih => rw [signApartAll, ih, List.map_cons]
  rw [signApart, hall]

theorem signApart_call (function : String) (args : List Arg) :
    (call function args).signApart = call function (args.map Arg.signApart) := by
  have hall : ∀ as : List Arg, Arg.signApartAll as = as.map Arg.signApart := by
    intro as
    induction as with
    | nil => rfl
    | cons a as ih => rw [Arg.signApartAll, ih, List.map_cons]
  rw [signApart, hall]

/-- The expression is not the least number, which has no number without its sign. -/
def NotLeast (e : Expr) : Prop := e ≠ .int Int64.minValue

theorem notLeast_of_ne_int {e : Expr} (h : ∀ value, e ≠ .int value) : e.NotLeast := h Int64.minValue

theorem natAbs_le_maxNumber_iff {value : Int64} :
    value.toInt.natAbs ≤ Token.maxNumber ↔ value ≠ Int64.minValue := by
  have hlt := value.toInt_lt
  have hle := value.le_toInt
  have hleast : Int64.minValue.toInt = -2 ^ 63 := by decide
  rw [Ne, ← Int64.toInt_inj, hleast, Token.maxNumber]
  omega

theorem toInt_ofNat_natAbs {value : Int64} (h : value ≠ Int64.minValue) :
    (Int64.ofNat value.toInt.natAbs).toInt = value.toInt.natAbs := by
  have hle := natAbs_le_maxNumber_iff.2 h
  rw [Token.maxNumber] at hle
  exact Int64.toInt_ofNat_of_lt (by omega)

theorem ne_minValue_of_notLeast {value : Int64} (h : (int value).Every NotLeast) : value ≠ Int64.minValue := by
  rintro rfl
  exact h rfl

/-- What holds of every expression inside holds with the signs apart, if it does for each by itself. -/
theorem every_signApart {P Q : Expr → Prop} (hint : ∀ value, P (.int value) → (int value).signApart.Every Q)
    (hother : ∀ e, P e → (∀ value, e ≠ .int value) → Q e.signApart) {e : Expr} (h : e.Every P) :
    e.signApart.Every Q := by
  induction e using ind with
  | int value => exact hint value h
  | range first last hfirst hlast => exact ⟨hother _ h.1 (by simp), hfirst h.2.1, hlast h.2.2⟩
  | negate inner hinner => exact ⟨hother _ h.1 (by simp), hinner h.2⟩
  | call function args hargs =>
    have hcall := hother _ h.1 (by simp)
    rw [signApart_call] at hcall ⊢
    refine ⟨hcall, everyAll_args_iff.2 (List.forall_mem_map.2 fun a ha => ?_)⟩
    rw [Arg.value_signApart]
    exact hargs a ha (everyAll_args_iff.1 h.2 a ha)
  | list items hitems =>
    have hlist := hother _ h.1 (by simp)
    rw [signApart_list] at hlist ⊢
    refine ⟨hlist, everyAll_iff.2 (List.forall_mem_map.2 fun e he => ?_)⟩
    exact hitems e he (everyAll_iff.1 h.2 e he)
  | _ => exact hother _ h (by simp)

/-- What no number is asked about holds of a number with its sign apart. -/
theorem every_signApart_int {Q : Expr → Prop} (hint : ∀ value, Q (.int value)) (hnegate : ∀ inner, Q (.negate inner))
    (value : Int64) : (int value).signApart.Every Q := by
  rw [signApart]
  split
  · exact ⟨hnegate _, hint _⟩
  · exact hint _

theorem names_signApart (e : Expr) : e.signApart.names = e.names := by
  cases e with
  | int value =>
    rw [signApart]
    split <;> rfl
  | call function args =>
    rw [signApart_call, names, names, List.filterMap_map]
    simp only [Function.comp_def, Arg.name_signApart]
  | _ => rfl

theorem named_signApart {e : Expr} (h : e.Every Named) : e.signApart.Every Named := by
  refine every_signApart (fun value _ => every_signApart_int (fun _ => nofun) (fun _ => nofun) value)
    (fun e he _ => ?_) h
  rw [Named, names_signApart]
  exact he

theorem noListCall_signApart {e : Expr} (h : e.Every NoListCall) : e.signApart.Every NoListCall := by
  refine every_signApart (fun value _ => every_signApart_int (fun _ _ => nofun) (fun _ _ => nofun) value)
    (fun e he hne => ?_) h
  cases e with
  | call function args =>
    rw [signApart_call]
    rintro args' hcall
    obtain ⟨rfl, -⟩ := call.inj hcall
    exact he args rfl
  | int value => exact absurd rfl (hne value)
  | _ => exact fun _ => nofun

theorem unsigned_signApart {e : Expr} (h : e.Every NotLeast) : e.signApart.Every Unsigned := by
  refine every_signApart (fun value hv => ?_) (fun e _ hne => ?_) h
  · have hvalue := toInt_ofNat_natAbs (ne_minValue_of_notLeast hv)
    rw [signApart]
    split
    · refine ⟨fun _ => nofun, ?_⟩
      rintro _ ⟨⟩
      omega
    · rintro _ ⟨⟩
      omega
  · cases e with
    | int value => exact absurd rfl (hne value)
    | _ => exact fun _ => nofun

/-! ## Its written form -/

theorem renderInt_ofNat_natAbs {value : Int64} (h : value ≠ Int64.minValue) :
    renderInt (Int64.ofNat value.toInt.natAbs) = Nat.toDigits 10 value.toInt.natAbs := by
  rw [renderInt, toInt_ofNat_natAbs h, if_neg (by omega)]
  rfl

theorem isPrimary_signApart (e : Expr) : e.signApart.isPrimary = e.isPrimary := by
  cases e with
  | int value =>
    rw [signApart]
    split
    · rename_i h
      simp only [isPrimary]
      exact (decide_eq_false (by omega)).symm
    · rfl
  | call function args =>
    rw [signApart_call]
    rfl
  | list items =>
    rw [signApart_list]
    rfl
  | _ => rfl

/-- With the signs apart, an expression is written as before. -/
theorem render_signApart {e : Expr} (h : e.Every NotLeast) : e.signApart.render = e.render := by
  induction e using ind with
  | int value =>
    rw [signApart]
    split
    · rename_i hneg
      show '-' :: renderInt (Int64.ofNat value.toInt.natAbs) = renderInt value
      rw [renderInt_ofNat_natAbs (ne_minValue_of_notLeast h), renderInt, if_pos hneg]
    · rfl
  | range first last hfirst hlast =>
    rw [signApart, render, render, isPrimary_signApart, isPrimary_signApart, hfirst h.2.1, hlast h.2.2]
  | negate inner hinner => rw [signApart, render, render, hinner h.2]
  | call function args hargs =>
    have hall : Arg.renderAll (args.map Arg.signApart) = Arg.renderAll args := by
      rw [Arg.renderAll_eq, Arg.renderAll_eq, List.map_map]
      refine List.map_congr_left fun a ha => ?_
      rw [Function.comp_apply, Arg.name_signApart, Arg.value_signApart, hargs a ha (everyAll_args_iff.1 h.2 a ha)]
    rw [signApart_call, render, render, hall]
  | list items hitems =>
    have hall : renderAll (items.map signApart) = renderAll items := by
      rw [renderAll_eq, renderAll_eq, List.map_map]
      exact List.map_congr_left fun e he => hitems e he (everyAll_iff.1 h.2 e he)
    rw [signApart_list, render, render, hall]
  | _ => rfl

theorem text_signApart {e : Expr} (h : e.Every NotLeast) : e.signApart.text = e.text := by
  rw [text, text, render_signApart h]

theorem text_arg_signApart {a : Arg} (h : a.value.Every NotLeast) : a.signApart.text = a.text := by
  cases a with
  | mk name value =>
    have hvalue : value.signApart.render = value.render := render_signApart h
    rw [Arg.text, Arg.text, Arg.signApart, Arg.render, Arg.render, hvalue]

/-! ## Its value -/

section

variable {catalog : Catalog} {os os' : List Operand}

theorem rangeEnd_text {misuse : ValueKind → Misuse} {e e' : Expr} (h : e'.text = e.text)
    (value : Except Error Value) : rangeEnd misuse e' value = rangeEnd misuse e value := by
  unfold rangeEnd
  rw [h]

theorem joinItems_text {items items' : List (Expr × Except Error Value)}
    (h : List.Forall₂ (fun item item' => item'.1.text = item.1.text ∧ item'.2 = item.2) items items') :
    joinItems items' = joinItems items := by
  induction h with
  | nil => rfl
  | cons hi _ ih => simp only [joinItems, hi.1, hi.2, ih]

theorem find?_shown (h : List.Forall₂ Operand.Shown os os') :
    (os'.find? (·.arg.name.isSome)).map (·.arg.text) = (os.find? (·.arg.name.isSome)).map (·.arg.text) := by
  induction h with
  | nil => rfl
  | cons ho _ ih =>
    rw [List.find?_cons, List.find?_cons, ho.name]
    split
    · exact congrArg some ho.text
    · exact ih

theorem callValue_shown [Pattern.Engine] {function : String} (h : List.Forall₂ Operand.Shown os os') :
    callValue catalog function os' = callValue catalog function os := by
  have hnamed (m : Matcher) (slots : Slots) : bindNamed m slots os' = bindNamed m slots os :=
    bindNamed_alike (h.imp fun _ _ ho => ho.toAlike)
  unfold callValue
  split
  · have hfind := find?_shown h
    have hjoin : joinItems (os'.map fun o => (o.arg.value, o.value)) =
        joinItems (os.map fun o => (o.arg.value, o.value)) := by
      refine joinItems_text ?_
      rw [List.forall₂_map_left_iff, List.forall₂_map_right_iff]
      exact h.imp fun _ _ ho => ⟨ho.item, ho.value⟩
    rw [hjoin]
    cases ho : os.find? (·.arg.name.isSome) with
    | none =>
      rw [ho, Option.map_none, Option.map_eq_none_iff] at hfind
      rw [hfind]
    | some o =>
      rw [ho, Option.map_some, Option.map_eq_some_iff] at hfind
      obtain ⟨o', ho', htext⟩ := hfind
      rw [ho']
      simp only [htext]
  · simp only [bindAll, hnamed, bindInOrder_shown h]

/-- With the signs apart, an expression evaluates to the same value, or fails with the same error. -/
theorem eval_signApart [Pattern.Engine] {e : Expr} (h : e.Every NotLeast) :
    e.signApart.eval catalog = e.eval catalog := by
  induction e using ind with
  | int value =>
    have hvalue := toInt_ofNat_natAbs (ne_minValue_of_notLeast h)
    rw [signApart]
    split
    · -- the opposite of the number is the negative one, which is not cut off at the largest
      show Except.ok (Value.ints [Value.opposite (Int64.ofNat value.toInt.natAbs).toInt]) = .ok (.ints [value.toInt])
      rw [hvalue, Value.opposite, Value.maxInt]
      congr 3
      omega
    · rfl
  | range first last hfirst hlast =>
    rw [signApart, eval, eval, hfirst h.2.1, hlast h.2.2]
    simp only [rangeEnd_text (text_signApart h.2.1), rangeEnd_text (text_signApart h.2.2)]
  | negate inner hinner => rw [signApart, eval, eval, hinner h.2, text_signApart h.2]
  | call function args hargs =>
    rw [signApart_call, eval, eval, evalArgs_eq, evalArgs_eq]
    refine callValue_shown ?_
    rw [List.map_map, List.forall₂_map_left_iff, List.forall₂_map_right_iff, List.forall₂_same]
    intro a ha
    have hleast := everyAll_args_iff.1 h.2 a ha
    refine ⟨⟨a.name_signApart, ?_⟩, text_arg_signApart hleast, ?_⟩
    · show a.signApart.value.eval catalog = a.value.eval catalog
      rw [Arg.value_signApart, hargs a ha hleast]
    · show a.signApart.value.text = a.value.text
      rw [Arg.value_signApart, text_signApart hleast]
  | list items hitems =>
    have hjoin : joinItems (evalItems catalog (items.map signApart)) = joinItems (evalItems catalog items) := by
      rw [evalItems_eq, evalItems_eq, List.map_map]
      refine joinItems_text ?_
      rw [List.forall₂_map_left_iff, List.forall₂_map_right_iff, List.forall₂_same]
      intro e he
      have hleast := everyAll_iff.1 h.2 e he
      exact ⟨text_signApart hleast, hitems e he hleast⟩
    rw [signApart_list, eval, eval, hjoin]
  | _ => rfl

end

/-! ## Its nesting -/

/-- With the signs apart, an expression nests as deep at least. -/
theorem nesting_le_signApart (e : Expr) : e.nesting ≤ e.signApart.nesting := by
  induction e using ind with
  | int value =>
    rw [signApart]
    split
    · exact Nat.le_succ 1
    · exact Nat.le_refl 1
  | range first last hfirst hlast =>
    rw [signApart, nesting, nesting]
    omega
  | negate inner hinner => exact Nat.succ_le_succ hinner
  | call function args hargs =>
    rw [signApart_call, nesting, nesting]
    refine Nat.succ_le_succ (nestingAll_args_le_iff.2 fun a ha => ?_)
    have hle := nestingAll_args_le_iff.1 (Nat.le_refl _) a.signApart (List.mem_map_of_mem ha)
    rw [Arg.value_signApart] at hle
    exact Nat.le_trans (hargs a ha) hle
  | list items hitems =>
    rw [signApart_list, nesting, nesting]
    refine Nat.succ_le_succ (nestingAll_le_iff.2 fun e he => ?_)
    exact Nat.le_trans (hitems e he) (nestingAll_le_iff.1 (Nat.le_refl _) _ (List.mem_map_of_mem he))
  | _ => exact Nat.le_refl _

end Expr

end ColumnSelect
