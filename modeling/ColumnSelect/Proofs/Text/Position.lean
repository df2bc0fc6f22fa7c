/-
Places of a text in reading order: line before line, and column before column within a line. Every character moves
the place forward (`lt_advance`), a line feed too, which takes the column back but begins a line. So boundaries
further on in a text have greater places (`ofOffset_lt`), and no two boundaries share one (`ofOffset_inj`).
-/
import ColumnSelect.Text.Position

namespace ColumnSelect.Text.Position

/-- Reading order. -/
instance : LT Position := ⟨fun p q => p.line < q.line ∨ p.line = q.line ∧ p.column < q.column⟩

theorem lt_iff {p q : Position} : p < q ↔ p.line < q.line ∨ p.line = q.line ∧ p.column < q.column := Iff.rfl

theorem lt_irrefl (p : Position) : ¬ p < p := by
  rw [lt_iff]
  omega

theorem lt_trans {p q r : Position} (h : p < q) (h' : q < r) : p < r := by
  rw [lt_iff] at *
  omega

/-- Behind a character there is a greater place than before it. -/
theorem lt_advance (p : Position) (c : Char) : p < p.advance c := by
  unfold advance
  split
  · exact .inl (Nat.lt_succ_self _)
  · exact .inr ⟨rfl, Nat.lt_succ_self _⟩

theorem ofOffset_succ {text : List Char} {offset : Nat} (h : offset < text.length) :
    ofOffset text (offset + 1) = (ofOffset text offset).advance text[offset] := by
  rw [ofOffset, List.take_add_one, List.getElem?_eq_getElem h, List.foldl_append]
  rfl

theorem ofOffset_lt {text : List Char} {i j : Nat} (hij : i < j) (hj : j ≤ text.length) :
    ofOffset text i < ofOffset text j := by
  induction hij with
  | refl =>
    rw [ofOffset_succ hj]
    exact lt_advance _ _
  | step _ ih =>
    rw [ofOffset_succ hj]
    exact lt_trans (ih (Nat.le_of_succ_le hj)) (lt_advance _ _)

/-- A place is that of one boundary only. -/
theorem ofOffset_inj {text : List Char} {i j : Nat} (hi : i ≤ text.length) (hj : j ≤ text.length)
    (h : ofOffset text i = ofOffset text j) : i = j := by
  rcases Nat.lt_trichotomy i j with hij | hij | hij
  · exact absurd (h ▸ ofOffset_lt hij hj) (lt_irrefl _)
  · exact hij
  · exact absurd (h ▸ ofOffset_lt hij hi) (lt_irrefl _)

end ColumnSelect.Text.Position
