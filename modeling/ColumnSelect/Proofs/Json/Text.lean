/-
Strings of JSON texts read back. A character is spelled by a piece of text, by itself or by an escape (`Spells`),
and each piece is read as its character whatever stands behind it (`ReadsAs`). So a string is read back up to its
closing quote, however its characters are spelled. Main statement: `readChars_spelled`.
-/
import ColumnSelect.Json.Text
import ColumnSelect.Proofs.Outcome

namespace ColumnSelect.Json

/-! ## Hexadecimal digits -/

theorem hexFour_of_lt : ∀ n < 256, Text.hexFour n = ['0', '0', Nat.digitChar (n / 16), Nat.digitChar (n % 16)] := by
  decide +kernel

theorem hexDigit?_digitChar : ∀ n < 16, Text.hexDigit? (Nat.digitChar n) = some n := by
  decide

theorem hexNumber?_of_lt {n : Nat} (h : n < 256) :
    hexNumber? '0' '0' (Nat.digitChar (n / 16)) (Nat.digitChar (n % 16)) = some n := by
  have hzero : Text.hexDigit? '0' = some 0 := hexDigit?_digitChar 0 (by decide)
  have hhigh := hexDigit?_digitChar (n / 16) (by omega)
  have hlow := hexDigit?_digitChar (n % 16) (Nat.mod_lt _ (by decide))
  have hvalue : ((0 * 16 + 0) * 16 + n / 16) * 16 + n % 16 = n := by omega
  rw [hexNumber?, hzero, hhigh, hlow]
  exact congrArg some hvalue

/-! ## Characters -/

/-- The ways to write a character inside of quotes: itself, by a letter, by the four hexadecimal digits of its code
point, or by those of its two halves. -/
inductive Spells : Char → List Char → Prop
  | self {c} (hspace : 32 ≤ c.toNat) (hquote : c ≠ '"') (hbackslash : c ≠ '\\') : Spells c [c]
  | letter {c letter} (h : unescape? letter = some c) : Spells c ['\\', letter]
  | code {i j k l n} (h : hexNumber? i j k l = some n) (hhigh : isHighHalf n = false) (hlow : isLowHalf n = false) :
      Spells (Char.ofNat n) ['\\', 'u', i, j, k, l]
  | halves {i j k l n i' j' k' l' m} (h : hexNumber? i j k l = some n) (hhigh : isHighHalf n = true)
      (h' : hexNumber? i' j' k' l' = some m) (hlow : isLowHalf m = true) :
      Spells (joinHalves n m) ['\\', 'u', i, j, k, l, '\\', 'u', i', j', k', l']

/-- A piece of text that is read as one character inside of quotes, whatever stands behind it. -/
def ReadsAs (c : Char) (piece : List Char) : Prop :=
  ∀ {cs text after}, readChars cs = .ok (text, after) → readChars (piece ++ cs) = .ok (c :: text, after)

theorem readsAs_self {c : Char} (hspace : 32 ≤ c.toNat) (hquote : c ≠ '"') (hbackslash : c ≠ '\\') :
    ReadsAs c [c] := by
  intro cs text after h
  rw [List.singleton_append, readChars.eq_5 c cs hquote (fun _ _ _ _ _ hc => absurd hc hbackslash)
    (fun _ _ hc => absurd hc hbackslash), if_neg (by simp [hbackslash, hspace]), h]
  rfl

theorem readsAs_letter {c letter : Char} (h : unescape? letter = some c) : ReadsAs c ['\\', letter] := by
  intro cs text after hcs
  have hletter : letter ≠ 'u' := by
    rintro rfl
    cases h
  rw [List.cons_append, List.singleton_append, readChars.eq_4 letter cs fun _ _ _ _ _ hu => absurd hu hletter, h, hcs]
  rfl

theorem readsAs_code {i j k l : Char} {n : Nat} (h : hexNumber? i j k l = some n) (hhigh : isHighHalf n = false)
    (hlow : isLowHalf n = false) : ReadsAs (Char.ofNat n) ['\\', 'u', i, j, k, l] := by
  intro cs text after hcs
  show readChars ('\\' :: 'u' :: i :: j :: k :: l :: cs) = _
  rw [readChars, h]
  simp only [hhigh, hlow, hcs]
  rfl

theorem readsAs_halves {i j k l i' j' k' l' : Char} {n m : Nat} (h : hexNumber? i j k l = some n)
    (hhigh : isHighHalf n = true) (h' : hexNumber? i' j' k' l' = some m) (hlow : isLowHalf m = true) :
    ReadsAs (joinHalves n m) ['\\', 'u', i, j, k, l, '\\', 'u', i', j', k', l'] := by
  intro cs text after hcs
  show readChars ('\\' :: 'u' :: i :: j :: k :: l :: '\\' :: 'u' :: i' :: j' :: k' :: l' :: cs) = _
  rw [readChars, h]
  simp only [hhigh, if_true, h', hlow, hcs]
  rfl

theorem Spells.readsAs {c : Char} {piece : List Char} (h : Spells c piece) : ReadsAs c piece := by
  cases h with
  | self hspace hquote hbackslash => exact readsAs_self hspace hquote hbackslash
  | letter h => exact readsAs_letter h
  | code h hhigh hlow => exact readsAs_code h hhigh hlow
  | halves h hhigh h' hlow => exact readsAs_halves h hhigh h' hlow

theorem spells_code {c : Char} (h : c.toNat < 256) : Spells c ('\\' :: 'u' :: Text.hexFour c.toNat) := by
  have hhigh : isHighHalf c.toNat = false := by
    rw [isHighHalf, Bool.and_eq_false_iff, decide_eq_false_iff_not]
    omega
  have hlow : isLowHalf c.toNat = false := by
    rw [isLowHalf, Bool.and_eq_false_iff, decide_eq_false_iff_not]
    omega
  have hcode := Spells.code (hexNumber?_of_lt h) hhigh hlow
  rw [Char.ofNat_toNat] at hcode
  rw [hexFour_of_lt _ h]
  exact hcode

theorem spells_mark {c : Char} (h : (decide (c = '"') || decide (c = '\\')) = true) : Spells c ['\\', c] := by
  rcases Bool.or_eq_true_iff.1 h with h | h
  · obtain rfl := of_decide_eq_true h
    exact .letter rfl
  · obtain rfl := of_decide_eq_true h
    exact .letter rfl

theorem spells_escapeChar (c : Char) : Spells c (escapeChar c) := by
  unfold escapeChar
  split
  case isTrue h => exact spells_mark h
  case isFalse hplain =>
    rw [Bool.or_eq_true_iff, decide_eq_true_eq, decide_eq_true_eq, not_or] at hplain
    -- the control characters that have a letter
    iterate 5
      split
      · subst c
        exact .letter rfl
    split
    case isTrue h => exact spells_code (Nat.lt_trans h (by decide))
    case isFalse h => exact .self (Nat.not_lt.1 h) hplain.1 hplain.2

/-! ## Strings -/

/-- A string is read back up to its closing quote, however its characters are spelled. -/
theorem readChars_spelled {text : List Char} {pieces : List (List Char)} (h : List.Forall₂ Spells text pieces)
    (rest : List Char) : readChars (pieces.flatten ++ '"' :: rest) = .ok (text, rest) := by
  induction h with
  | nil => exact readChars.eq_2 rest
  | cons hc _ ih =>
    rw [List.flatten_cons, List.append_assoc]
    exact hc.readsAs ih

/-- The texts of a string, in quotes and with each of its characters spelled in any way. -/
def StringText (written : List Char) (text : String) : Prop :=
  ∃ pieces, List.Forall₂ Spells text.toList pieces ∧ written = '"' :: pieces.flatten ++ ['"']

theorem stringText_written {escape : Char → List Char} (h : ∀ c, Spells c (escape c)) (text : String) :
    StringText ('"' :: text.toList.flatMap escape ++ ['"']) text := by
  refine ⟨text.toList.map escape, ?_, by rw [List.flatMap_def]⟩
  rw [List.forall₂_map_right_iff, List.forall₂_same]
  exact fun c _ => h c

theorem stringText_quote (text : String) : StringText (quote text) text := stringText_written spells_escapeChar text

/-- A text in quotes that a string is read back from, whatever stands behind it. -/
def Quotes (written : List Char) (text : String) : Prop :=
  ∃ body, written = '"' :: body ∧ ∀ rest, readChars (body ++ rest) = .ok (text.toList, rest)

theorem StringText.quotes {written : List Char} {text : String} (h : StringText written text) :
    Quotes written text := by
  obtain ⟨pieces, hpieces, rfl⟩ := h
  refine ⟨_, List.cons_append, fun rest => ?_⟩
  rw [List.append_assoc, List.singleton_append, readChars_spelled hpieces]

/-- What is written in quotes is read back. -/
theorem quotes_quote (text : String) : Quotes (quote text) text := (stringText_quote text).quotes

/-! ## Lines -/

theorem newline_notMem_hexFour {n : Nat} (h : n < 256) : '\n' ∉ Text.hexFour n := by
  have hdigit : ∀ k < 16, '\n' ≠ Nat.digitChar k := by decide
  have hhigh := hdigit (n / 16) (by omega)
  have hlow := hdigit (n % 16) (Nat.mod_lt _ (by decide))
  rw [hexFour_of_lt n h]
  simp [hhigh, hlow]

theorem newline_notMem_mark {c : Char} (h : (decide (c = '"') || decide (c = '\\')) = true) :
    '\n' ∉ ['\\', c] := by
  rcases Bool.or_eq_true_iff.1 h with h | h
  · obtain rfl := of_decide_eq_true h
    decide
  · obtain rfl := of_decide_eq_true h
    decide

theorem newline_notMem_escapeChar (c : Char) : '\n' ∉ escapeChar c := by
  unfold escapeChar
  split
  case isTrue h => exact newline_notMem_mark h
  case isFalse =>
    split
    case isTrue => decide
    case isFalse hnewline =>
      iterate 4
        split
        · decide
      split
      case isTrue h => simpa using newline_notMem_hexFour (Nat.lt_trans h (by decide))
      case isFalse => simpa using Ne.symm hnewline

/-- No line ends inside of quotes, if none ends in what is written of a character. -/
theorem newline_notMem_quoted {escape : Char → List Char} (h : ∀ c, '\n' ∉ escape c) (text : String) :
    '\n' ∉ '"' :: text.toList.flatMap escape ++ ['"'] := by
  rw [List.mem_append, List.mem_cons, List.mem_flatMap, List.mem_singleton]
  rintro ((hc | ⟨c, -, hc⟩) | hc)
  · cases hc
  · exact h c hc
  · cases hc

theorem newline_notMem_quote (text : String) : '\n' ∉ quote text :=
  newline_notMem_quoted newline_notMem_escapeChar text

end ColumnSelect.Json
