/-
Ranges. The numbers of a range are as many as its ends are apart and one more, begin with the first end, stop at
the last, and change by one from each to the next (`Steps`). There is one such list for any two ends
(`Steps.unique`), and it is reversed when the ends change places (`Steps.reverse`). All of its numbers lie between
the ends (`Steps.between`), so a range of 64-bit numbers holds no others. Main statement: `range_exact`.
-/
import ColumnSelect.Pattern.Standard
import ColumnSelect.Proofs.Expr.Eval
import Mathlib.Data.List.Chain

namespace ColumnSelect

namespace Value

/-! ## Steps from one number to another -/

/-- The numbers lead from one to another in steps of one, upwards or downwards. -/
structure Steps (first last : Int) (numbers : List Int) : Prop where
  length : numbers.length = (first - last).natAbs + 1
  front : numbers.head? = some first
  back : numbers.getLast? = some last
  step : numbers.IsChain fun n next => next = n + (last - first).sign

variable {first last : Int} {numbers numbers' : List Int}

/-- Upwards and downwards are one case: a step is the sign of the way to go. -/
theorem between_eq (first last : Int) : between first last =
    (List.range ((last - first).natAbs + 1)).map fun i : Nat => first + i * (last - first).sign := by
  refine List.map_congr_left fun i hi => ?_
  rw [List.mem_range] at hi
  rcases Int.lt_trichotomy first last with h | rfl | h
  · rw [if_pos (by omega), Int.sign_eq_one_of_pos (by omega), Int.mul_one]
  · obtain rfl : i = 0 := by omega
    simp
  · rw [if_neg (by omega), Int.sign_eq_neg_one_of_neg (by omega)]
    omega

theorem steps_between (first last : Int) : Steps first last (between first last) := by
  rw [between_eq]
  constructor
  · rw [List.length_map, List.length_range]
    omega
  · rw [List.head?_map, List.head?_range]
    simp
  · rw [List.range_succ, List.map_append, List.map_singleton, List.getLast?_concat, Int.mul_comm,
      Int.sign_mul_natAbs]
    congr 1
    omega
  · rw [List.isChain_iff_getElem]
    intro i hi
    rw [List.getElem_map, List.getElem_map, List.getElem_range, List.getElem_range, Int.natCast_succ, Int.add_mul,
      Int.one_mul, Int.add_assoc]

/-- Each number is as far from the first as it is behind it. -/
theorem Steps.getElem (h : Steps first last numbers) (i : Nat) (hi : i < numbers.length) :
    numbers[i] = first + i * (last - first).sign := by
  induction i with
  | zero =>
    have hfront := h.front
    rw [List.head?_eq_getElem?, List.getElem?_eq_getElem hi] at hfront
    simpa using hfront
  | succ i ih =>
    rw [List.isChain_iff_getElem.1 h.step i hi, ih (by omega), Int.natCast_succ, Int.add_mul, Int.one_mul,
      Int.add_assoc]

/-- The ends tell the numbers between. -/
theorem Steps.unique (h : Steps first last numbers) (h' : Steps first last numbers') : numbers = numbers' := by
  apply List.ext_getElem
  · rw [h.length, h'.length]
  · intro i hi hi'
    rw [h.getElem, h'.getElem]

theorem Steps.reverse (h : Steps first last numbers) : Steps last first numbers.reverse := by
  have hsign : (first - last).sign = -(last - first).sign := by rw [← Int.sign_neg, Int.neg_sub]
  constructor
  · rw [List.length_reverse, h.length]
    omega
  · rw [List.head?_reverse, h.back]
  · rw [List.getLast?_reverse, h.front]
  · rw [List.isChain_reverse, hsign]
    exact h.step.imp fun n next hn => by omega

/-- A number of the list is no smaller than the smaller end and no larger than the larger. -/
theorem mem_between {n : Int} (h : n ∈ between first last) : min first last ≤ n ∧ n ≤ max first last := by
  obtain ⟨i, hi, rfl⟩ := List.mem_map.1 h
  rw [List.mem_range] at hi
  split <;> omega

/-! ## Ranges -/

theorem range_eq_ok_iff {v : Value} : Value.range first last = .ok v ↔
    (first - last).natAbs ≤ 999999 ∧ ∃ numbers, v = .ints numbers ∧ Steps first last numbers := by
  unfold Value.range maxRangeLength
  split
  · simp
    omega
  · rename_i hd
    constructor
    · rintro ⟨⟩
      exact ⟨by omega, _, rfl, steps_between first last⟩
    · rintro ⟨-, numbers, rfl, h⟩
      rw [(steps_between first last).unique h]

end Value

namespace Expr

open Value

theorem eval_range_swap_iff [Pattern.Engine] {catalog : Catalog} {e e' : Expr} {v : Value} :
    (range e e').eval catalog = .ok v ↔
      ∃ numbers, v = .ints numbers.reverse ∧ (range e' e).eval catalog = .ok (.ints numbers) := by
  simp only [eval_range_eq_ok_iff, range_eq_ok_iff]
  constructor
  · rintro ⟨a, b, ha, hb, hd, numbers, rfl, h⟩
    exact ⟨numbers.reverse, by rw [List.reverse_reverse], b, a, hb, ha, by omega, _, rfl, h.reverse⟩
  · rintro ⟨numbers, rfl, b, a, hb, ha, hd, _, ⟨⟩, h⟩
    exact ⟨a, b, ha, hb, by omega, _, rfl, h.reverse⟩

/-- Two 64-bit numbers make a range exactly when they are at most 999999 apart, and its numbers are then those
that lead from the one to the other, every one of them a 64-bit number again. A range has a value exactly when the
range with its ends in each other's place has one, and these are the same numbers in the other order. -/
theorem range_exact [Pattern.Engine] (first last : Int64) :
    ((∃ v, Value.range first.toInt last.toInt = .ok v) ↔ (first.toInt - last.toInt).natAbs ≤ 999999) ∧
      (∀ v, Value.range first.toInt last.toInt = .ok v ↔ (first.toInt - last.toInt).natAbs ≤ 999999 ∧
        ∃ numbers, v = .ints numbers ∧ Steps first.toInt last.toInt numbers) ∧
      (∀ numbers, Steps first.toInt last.toInt numbers → ∀ n ∈ numbers, ∃ word : Int64, word.toInt = n) ∧
      ∀ (catalog : Catalog) (e e' : Expr) (v : Value), (range e e').eval catalog = .ok v ↔
        ∃ numbers, v = .ints numbers.reverse ∧ (range e' e).eval catalog = .ok (.ints numbers) := by
  refine ⟨?_, fun _ => range_eq_ok_iff, ?_, fun _ _ _ _ => eval_range_swap_iff⟩
  · simp only [range_eq_ok_iff, exists_and_left]
    exact and_iff_left ⟨_, _, rfl, steps_between _ _⟩
  · intro numbers h n hn
    rw [h.unique (steps_between _ _)] at hn
    have hbetween := mem_between hn
    have := first.le_toInt
    have := first.toInt_lt
    have := last.le_toInt
    have := last.toInt_lt
    exact ⟨Int64.ofInt n, Int64.toInt_ofInt_of_le (by omega) (by omega)⟩

/-- A range down to the least number, and the longest range with the first that is too long. -/
theorem range_exact_least :
    Value.range (-9223372036854775807) Int64.minValue.toInt =
        .ok (.ints [-9223372036854775807, -9223372036854775808]) ∧
      (∃ word : Int64, word.toInt = -9223372036854775808) ∧ (∃ v, Value.range 999999 0 = .ok v) ∧
      ¬ ∃ v, Value.range 1000000 0 = .ok v := by
  have hsteps : Steps (-9223372036854775807) (-9223372036854775808)
      [-9223372036854775807, -9223372036854775808] := ⟨rfl, rfl, rfl, by simp⟩
  obtain ⟨-, hrange, hword, -⟩ := range_exact (-9223372036854775807) Int64.minValue
  refine ⟨(hrange _).2 ⟨by decide, _, rfl, hsteps⟩, hword _ hsteps _ (by simp), ?_, ?_⟩
  · exact (range_exact 999999 0).1.2 (by decide)
  · exact mt (range_exact 1000000 0).1.1 (by decide)

end Expr

end ColumnSelect
