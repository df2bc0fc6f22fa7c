/-
Columns named by a stem and a number. At a width a number is its plain decimal text with zeros behind the sign, so
that the text tells the number whatever the width (`Written.value`), and a name stands for one number only.
Main statement: `apply_numRange`, what numbers select and in which order.
-/
import ColumnSelect.Matcher.Call
import ColumnSelect.Pattern.Standard
import ColumnSelect.Proofs.Catalog
import ColumnSelect.Proofs.Text.Decimal
import Mathlib.Data.List.Nodup

namespace ColumnSelect.Matcher

open Text

/-! ## Numbers at a width -/

/-- The texts of a number: the plain one, and at a width the one with as many zeros between sign and digits as
fill it up to the width. A plain text that is no shorter than the width stays as it is. -/
inductive Written : Option Nat → Int → List Char → Prop
  | plain {n} : Written none n (toString n).toList
  | padded {width n text} (zeros : Nat)
      (htext : text = signOf n ++ (List.replicate zeros '0' ++ Nat.toDigits 10 n.natAbs))
      (hlength : text.length = max width (toString n).length) : Written (some width) n text

theorem length_toString_int (n : Int) :
    (toString n).length = (signOf n).length + (Nat.toDigits 10 n.natAbs).length := by
  rw [← String.length_toList, toList_toString_int, List.length_append]

theorem paddedDigits_eq (width : Nat) (n : Int) : paddedDigits width n =
    signOf n ++ (List.replicate (width - (toString n).length) '0' ++ Nat.toDigits 10 n.natAbs) := by
  rw [paddedDigits, length_toString_int, signOf]
  split
  · rw [List.length_singleton, Nat.sub_add_eq]
    rfl
  · rw [List.length_nil, Nat.zero_add, List.nil_append]

/-- Nothing fills a plain text that is no shorter than the width. -/
theorem paddedDigits_of_le {width : Nat} {n : Int} (h : width ≤ (toString n).length) :
    paddedDigits width n = (toString n).toList := by
  rw [paddedDigits_eq, Nat.sub_eq_zero_of_le h, toList_toString_int]
  rfl

/-- A number has one text, plain or at a width, and it is the one that names are made with. -/
theorem written_iff {width : Option Nat} {n : Int} {text : List Char} :
    Written width n text ↔ text = paddedDigits (width.getD 0) n := by
  have hplain := length_toString_int n
  constructor
  · rintro (_ | ⟨zeros, rfl, hlength⟩)
    · exact (paddedDigits_of_le (Nat.zero_le _)).symm
    · -- the width tells how many zeros there are
      rename_i width
      have hzeros : zeros = width - (toString n).length := by
        rw [List.length_append, List.length_append, List.length_replicate] at hlength
        omega
      rw [hzeros, Option.getD_some, paddedDigits_eq]
  · rintro rfl
    cases width with
    | none =>
      rw [Option.getD_none, paddedDigits_of_le (Nat.zero_le _)]
      exact .plain
    | some width =>
      refine .padded _ (paddedDigits_eq width n) ?_
      rw [Option.getD_some, paddedDigits_eq, List.length_append, List.length_append, List.length_replicate]
      omega

example : paddedDigits 4 (-7) = ['-', '0', '0', '7'] := by decide

/-- The text of a number tells it. -/
theorem Written.value {width : Option Nat} {n : Int} {text : List Char} (h : Written width n text) :
    decimalValue text = n := by
  rw [written_iff.1 h, paddedDigits_eq, decimalValue_signed]

/-! ## The names of numbers -/

variable {catalog : Catalog} {stem : String} {width : Option Nat}

/-- The first position that has the name made of a stem and a number. -/
def NumberedAt (catalog : Catalog) (stem : String) (width : Option Nat) (n : Int) (p : Nat) : Prop :=
  ∃ text, Written width n text ∧ catalog.nameAt? p = some (stem ++ String.ofList text) ∧
    ∀ q < p, catalog.nameAt? q ≠ some (stem ++ String.ofList text)

theorem position?_numbered_iff {n : Int} {p : Nat} :
    catalog.position? (numbered stem width n) = some p ↔ NumberedAt catalog stem width n p := by
  rw [position?_eq_some_iff, NumberedAt]
  simp only [written_iff, exists_eq_left]
  rfl

/-- Different numbers have different names, and so their positions differ. -/
theorem NumberedAt.unique {n m : Int} {p : Nat} (hn : NumberedAt catalog stem width n p)
    (hm : NumberedAt catalog stem width m p) : n = m := by
  obtain ⟨text, hwritten, hname, -⟩ := hn
  obtain ⟨text', hwritten', hname', -⟩ := hm
  have hstem := Option.some.inj (hname.symm.trans hname')
  have htext : text = text' := by
    rw [String.append_right_inj, String.ofList_inj] at hstem
    exact hstem
  rw [← hwritten.value, htext, hwritten'.value]

/-- A width that no plain text falls short of changes no name. -/
theorem numbered_of_le {w : Nat} {n : Int} (h : w ≤ (toString n).length) :
    numbered stem (some w) n = numbered stem none n := by
  rw [numbered, numbered, Option.getD_some, Option.getD_none, paddedDigits_of_le h, paddedDigits_of_le (Nat.zero_le _)]

/-- Numbers select, in their own order, the first column of each of the names that they make with the stem, where
there is one. A column is selected by one number at most, so that numbers that differ select different columns; and
a width for which every number is wide enough by itself selects what is selected without. -/
theorem apply_numRange [Pattern.Engine] (catalog : Catalog) (stem : String) (numbers : List Int)
    (width : Option Nat) :
    ∃ positions, (Call.numRange stem numbers width).apply catalog = .ok positions ∧
      (∃ position? : Int → Option Nat, (∀ n p, position? n = some p ↔ NumberedAt catalog stem width n p) ∧
        positions = numbers.filterMap position?) ∧
      (∀ n m p, NumberedAt catalog stem width n p → NumberedAt catalog stem width m p → n = m) ∧
      (numbers.Nodup → positions.Nodup) ∧
      (∀ w, (∀ n ∈ numbers, w ≤ (toString n).length) →
        (Call.numRange stem numbers (some w)).apply catalog = (Call.numRange stem numbers none).apply catalog) := by
  refine ⟨_, rfl, ⟨_, fun _ _ => position?_numbered_iff, rfl⟩, fun _ _ _ => NumberedAt.unique, ?_, ?_⟩
  · intro hnodup
    refine hnodup.filterMap fun n m p hn hm => ?_
    exact (position?_numbered_iff.1 hn).unique (position?_numbered_iff.1 hm)
  · intro w hw
    rw [Call.apply, Call.apply, List.filterMap_congr fun n hn => by rw [numbered_of_le (hw n hn)]]

/-- The sign stands in front of the zeros, the first of two equal names is selected, and a number without a column
selects none. -/
theorem apply_numRange_signs :
    (Call.numRange "x" [7, -7, 9] (some 3)).apply ["x-07", "x007", "x7", "x007"] = .ok [2, 1] ∧ [2, 1].Nodup ∧
      (Call.numRange "x" [7, -7, 9] (some 1)).apply ["x-07", "x007", "x7", "x007"] = .ok [3] := by
  obtain ⟨positions, hok, -, -, hnodup, hwidth⟩ :=
    apply_numRange ["x-07", "x007", "x7", "x007"] "x" [7, -7, 9] (some 3)
  have hpositions : positions = [2, 1] := by
    cases hok
    decide +kernel
  subst hpositions
  exact ⟨hok, hnodup (by decide), (hwidth 1 (by decide +kernel)).trans (by decide +kernel)⟩

end ColumnSelect.Matcher
