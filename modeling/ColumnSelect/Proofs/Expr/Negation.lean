/-
Negation of what is read from a text. The least number has no opposite, and its negation is cut off at the largest.
But a text has no negative numbers, the negation of another number is never the least, a range goes no further than
its ends, and a column or a matcher gives positions. So no part of an expression evaluates to the least number, over
any catalog whose columns 64-bit numbers can count (`opposable_of_eval`). Negation is therefore exact, and twice it
gives back the numbers that it was given. Strings and truth values have no negation. Main statement:
`negates_of_ofText`.
-/
import ColumnSelect.Pattern.Standard
import ColumnSelect.Proofs.Catalog
import ColumnSelect.Proofs.Expr.Range
import ColumnSelect.Proofs.Expr.Sign
import ColumnSelect.Proofs.Term.RoundTrip

namespace ColumnSelect

/-! ## Numbers with an opposite -/

namespace Value

/-- The number is not the least 64-bit number, nor outside them all. -/
def Opposable (n : Int) : Prop := -maxInt ≤ n ∧ n ≤ maxInt

theorem opposite_eq_neg {n : Int} (h : Opposable n) : opposite n = -n := by
  have := h.1
  unfold opposite
  omega

theorem Opposable.neg {n : Int} (h : Opposable n) : Opposable (-n) := by
  obtain ⟨hl, hu⟩ := h
  exact ⟨by omega, by omega⟩

theorem map_opposite_eq_neg {numbers : List Int} (h : ∀ n ∈ numbers, Opposable n) :
    numbers.map opposite = numbers.map fun n => -n :=
  List.map_congr_left fun n hn => opposite_eq_neg (h n hn)

theorem opposable_position {catalog : Catalog} (hc : catalog.length ≤ maxInt) {p : Nat}
    (h : p ≤ catalog.length) : Opposable p := ⟨by omega, by omega⟩

end Value

namespace Expr

open Value

variable {catalog : Catalog} {e : Expr}

/-! ## Numbers that expressions evaluate to -/

/-- What holds of the numbers of every item holds of those of all items in a row. -/
theorem forall_mem_flatten {α : Type} {P : Int → Prop} {value : α → Except Error Value} {items : List α}
    {rows : List (List Int)} (hr : List.Forall₂ (fun item row => value item = .ok (.ints row)) items rows)
    (h : ∀ item ∈ items, ∀ numbers, value item = .ok (.ints numbers) → ∀ n ∈ numbers, P n) :
    ∀ n ∈ rows.flatten, P n := by
  intro n hn
  obtain ⟨row, hrow, hn⟩ := List.mem_flatten.1 hn
  obtain ⟨item, hitem, hv⟩ := exists_of_forall₂ hr.flip row hrow
  exact h item hitem row hv n hn

/-- An expression without the least number does not evaluate to it. -/
theorem opposable_of_eval [Pattern.Engine] (hc : catalog.length ≤ maxInt) (he : e.Every NotLeast) {numbers : List Int}
    (h : e.eval catalog = .ok (.ints numbers)) : ∀ n ∈ numbers, Opposable n := by
  induction e using ind generalizing numbers with
  | column name =>
    obtain ⟨p, -, hp, hv⟩ := columnValue_eq_ok_iff.1 h
    cases hv
    simpa using opposable_position hc (bound_of_position? hp).2
  | int value =>
    cases h
    have hne := ne_minValue_of_notLeast he
    have hle := natAbs_le_maxNumber_iff.2 hne
    rw [Token.maxNumber] at hle
    rw [List.forall_mem_singleton, Opposable, maxInt]
    omega
  | str text => cases h
  | bool value => cases h
  | range first last hfirst hlast =>
    obtain ⟨a, b, ha, hb, hv⟩ := eval_range_eq_ok_iff.1 h
    obtain ⟨-, numbers, ⟨⟩, hs⟩ := range_eq_ok_iff.1 hv
    obtain ⟨hal, hau⟩ := hfirst he.2.1 ha a (List.mem_singleton_self a)
    obtain ⟨hbl, hbu⟩ := hlast he.2.2 hb b (List.mem_singleton_self b)
    intro n hn
    rw [hs.unique (steps_between a b)] at hn
    have := mem_between hn
    exact ⟨by omega, by omega⟩
  | negate inner hinner =>
    obtain ⟨others, ho, hv⟩ := eval_negate_eq_ok_iff.1 h
    cases hv
    have hothers := hinner he.2 ho
    rw [map_opposite_eq_neg hothers]
    exact List.forall_mem_map.2 fun n hn => (hothers n hn).neg
  | call function args hargs =>
    rw [eval, evalArgs_eq] at h
    obtain ⟨rows, hr, hv⟩ | ⟨call, positions, hp, hv⟩ := callValue_cases h
    · cases hv
      rw [List.forall₂_map_left_iff] at hr
      exact forall_mem_flatten hr fun a ha numbers hn => hargs a ha (everyAll_args_iff.1 he.2 a ha) hn
    · cases hv
      exact List.forall_mem_map.2 fun p hmem => opposable_position hc (Matcher.bound_of_apply hp p hmem).2
  | list items hitems =>
    obtain ⟨rows, hr, hv⟩ := eval_list_eq_ok_iff.1 h
    cases hv
    exact forall_mem_flatten hr fun e hmem numbers hn => hitems e hmem (everyAll_iff.1 he.2 e hmem) hn

/-! ## Negations -/

theorem eval_negate_of_error [Pattern.Engine] {error : Error} (h : e.eval catalog = .error error) :
    (negate e).eval catalog = .error error := by
  rw [eval, h]
  rfl

theorem eval_negate_of_other [Pattern.Engine] {v : Value} (h : e.eval catalog = .ok v)
    (hv : ∀ numbers, v ≠ .ints numbers) :
    (negate e).eval catalog = .error (.misuse e.text (.notNegatable v.kind)) := by
  rw [eval, h]
  cases v with
  | ints numbers => exact absurd rfl (hv numbers)
  | str text => rfl
  | bool value => rfl

theorem eval_negate_of_opposable [Pattern.Engine] {numbers : List Int} (h : e.eval catalog = .ok (.ints numbers))
    (ho : ∀ n ∈ numbers, Opposable n) : (negate e).eval catalog = .ok (.ints (numbers.map fun n => -n)) :=
  eval_negate_eq_ok_iff.2 ⟨numbers, h, by rw [map_opposite_eq_neg ho]⟩

/-- How an expression is negated over a catalog. Its numbers have opposites, and these are the numbers of its
negation; negated twice they are the same again. A string or a truth value is refused, and an error stays. -/
structure Negates [Pattern.Engine] (catalog : Catalog) (e : Expr) : Prop where
  numbers : ∀ numbers, e.eval catalog = .ok (.ints numbers) →
    (∀ n ∈ numbers, -maxInt ≤ n ∧ n ≤ maxInt) ∧
      (negate e).eval catalog = .ok (.ints (numbers.map fun n => -n)) ∧
      (negate (negate e)).eval catalog = .ok (.ints numbers)
  other : ∀ v, e.eval catalog = .ok v → (∀ numbers, v ≠ .ints numbers) →
    (negate e).eval catalog = .error (.misuse e.text (.notNegatable v.kind)) ∧
      (negate (negate e)).eval catalog = .error (.misuse e.text (.notNegatable v.kind))
  error : ∀ error, e.eval catalog = .error error →
    (negate e).eval catalog = .error error ∧ (negate (negate e)).eval catalog = .error error

theorem negates_of_notLeast [Pattern.Engine] (hc : catalog.length ≤ maxInt) (he : e.Every NotLeast) :
    e.Negates catalog := by
  constructor
  · intro numbers h
    have ho := opposable_of_eval hc he h
    have hnegate := eval_negate_of_opposable h ho
    have htwice := eval_negate_of_opposable hnegate (List.forall_mem_map.2 fun n hn => (ho n hn).neg)
    rw [List.map_map] at htwice
    simp only [Function.comp_def, Int.neg_neg, List.map_id'] at htwice
    exact ⟨ho, hnegate, htwice⟩
  · intro v h hv
    have hnegate := eval_negate_of_other h hv
    exact ⟨hnegate, eval_negate_of_error hnegate⟩
  · intro error h
    have hnegate := eval_negate_of_error h
    exact ⟨hnegate, eval_negate_of_error hnegate⟩

/-- Every expression inside a term that is read from a text is negated exactly, over every catalog whose
columns 64-bit numbers can count. -/
theorem negates_of_ofText [Pattern.Engine] {text : String} {terms : List Term} (h : Term.ofText text = .ok terms) :
    ∀ t ∈ terms, t.expr.Every fun e => ∀ catalog : Catalog, catalog.length ≤ maxInt → e.Negates catalog := by
  intro t ht
  have hleast : t.expr.Every NotLeast := (Term.proper_of_ofText h t ht).2.imp fun e he => by
    rintro rfl
    exact absurd (he.unsigned _ rfl) (by decide)
  exact hleast.every.imp fun e he catalog hc => negates_of_notLeast hc he

/-- The largest number is negated and comes back. -/
theorem negates_of_ofText_largest :
    Term.ofText "-9223372036854775807" = .ok [⟨none, .negate (.int 9223372036854775807)⟩] ∧
      (negate (negate (int 9223372036854775807))).eval [] = .ok (.ints [9223372036854775807]) ∧
      (negate (negate (negate (int 9223372036854775807)))).eval [] = .ok (.ints [-9223372036854775807]) := by
  have hread : Term.ofText "-9223372036854775807" = .ok [⟨none, .negate (.int 9223372036854775807)⟩] := rfl
  have hterm := negates_of_ofText hread _ (List.mem_singleton_self _)
  have hnegates := (every_iff.1 hterm).1 [] (by decide)
  obtain ⟨-, hnegate, htwice⟩ := hnegates.numbers [-9223372036854775807] rfl
  exact ⟨hread, hnegate, htwice⟩

/-- A truth value has a value, and its double negation has none. -/
theorem not_negates_twice_logical :
    ¬ ∀ (text : String) (terms : List Term), Term.ofText text = .ok terms → ∀ t ∈ terms,
      t.expr.Every fun e => ∀ catalog : Catalog, catalog.length ≤ maxInt →
        (negate (negate e)).eval catalog = e.eval catalog ∨
          ∃ error error', (negate (negate e)).eval catalog = .error error ∧ e.eval catalog = .error error' := by
  intro h
  have hread : Term.ofText "TRUE" = .ok [⟨none, .bool true⟩] := rfl
  have hfail : ∃ error, (negate (negate (bool true))).eval [] = .error error := ⟨_, rfl⟩
  obtain ⟨error, hfail⟩ := hfail
  have hvalue : (bool true).eval [] = .ok (.bool true) := rfl
  rcases h "TRUE" _ hread _ (List.mem_singleton_self _) [] (by decide) with hsame | ⟨-, _, -, he⟩
  · rw [hfail, hvalue] at hsame
    cases hsame
  · rw [hvalue] at he
    cases he

end Expr

end ColumnSelect
