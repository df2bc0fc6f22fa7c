/-
Where a text is no longer made of tokens. At a character that begins no token there are six ways in which it fails
to, each told at that character, at a backslash behind it or at the character behind a number (`Faults`). A text is
read through tokens and blanks up to the first such character, and the lexer fails there (`StuckAt`). Main statement:
`stuckAt_of_readAll`.
-/
import ColumnSelect.Proofs.Token.Layout

namespace ColumnSelect

namespace Token

/-! ## No token -/

/-- The character opens a string or a quoted name. -/
def IsQuote (c : Char) : Prop := c = '"' ∨ c = '\'' ∨ c = nameQuote

/-- The characters are whole ones between quotes of this kind: a closing quote could follow. -/
def Inside (quote : Char) (inside : List Char) : Prop := ∃ text, Quoted quote (inside ++ [quote]) text

theorem inside_nil {quote : Char} (hq : quote ≠ '\\') : Inside quote [] := ⟨[], .close hq⟩

theorem Inside.escaped {quote letter c : Char} (hl : unescape? letter = some c) {inside : List Char}
    (h : Inside quote inside) : Inside quote ('\\' :: letter :: inside) := by
  obtain ⟨text, h⟩ := h
  exact ⟨c :: text, .escaped hl h⟩

theorem Inside.plain {quote c : Char} (hc : c ≠ '\\') (hne : c ≠ quote) {inside : List Char}
    (h : Inside quote inside) : Inside quote (c :: inside) := by
  obtain ⟨text, h⟩ := h
  exact ⟨c :: text, .plain hc hne h⟩

theorem IsQuote.ne_backslash {c : Char} (h : IsQuote c) : c ≠ '\\' := by
  rcases h with rfl | rfl | rfl <;> decide

/-- Why the text `c :: cs` begins with no token, and how many characters behind `c` that is told. -/
inductive Faults (c : Char) (cs : List Char) : Nat → Flaw → Prop where
  | unexpectedCharacter (hp : punctuation? c = none) (hq : ¬ IsQuote c) (hd : c.isDigit = false)
      (hn : Text.isNameStart c = false) : Faults c cs 0 (.unexpectedCharacter c)
  /-- Told at the opening quote: the text ends before a closing one, maybe behind a backslash. -/
  | unterminatedQuote {inside : List Char} (hq : IsQuote c) (hi : Inside c inside)
      (ht : cs = inside ∨ cs = inside ++ ['\\']) : Faults c cs 0 .unterminatedQuote
  /-- Told at the backslash. -/
  | unknownEscape {inside after : List Char} {letter : Char} (hq : IsQuote c) (hi : Inside c inside)
      (ht : cs = inside ++ '\\' :: letter :: after) (hl : unescape? letter = none) :
      Faults c cs (inside.length + 1) (.unknownEscape letter)
  /-- Told at the opening quote. -/
  | emptyName {after : List Char} (hq : c = nameQuote) (ht : cs = nameQuote :: after) : Faults c cs 0 .emptyName
  /-- Told at the character behind the number. -/
  | nameWithDigit {digits after : List Char} {d : Char} (ht : c :: cs = digits ++ d :: after) (hne : digits ≠ [])
      (hdigits : ∀ x ∈ digits, x.isDigit = true) (hd : d.isDigit = false) (hp : Text.isNamePart d = true) :
      Faults c cs digits.length .nameWithDigit
  /-- Told at the first digit. -/
  | numberTooLarge {digits after : List Char} (ht : c :: cs = digits ++ after)
      (hdigits : ∀ x ∈ digits, x.isDigit = true) (hc : Clear after) (hlt : maxNumber < digitsValue digits) :
      Faults c cs 0 (.numberTooLarge (String.ofList digits))

/-- A fault is told at a character of the text. -/
theorem Faults.lt {c : Char} {cs : List Char} {offset : Nat} {flaw : Flaw} (h : Faults c cs offset flaw) :
    offset < (c :: cs).length := by
  cases h with
  | unexpectedCharacter | unterminatedQuote | emptyName | numberTooLarge => exact Nat.succ_pos _
  | unknownEscape hq hi ht hl =>
    rw [ht]
    simp
  | nameWithDigit ht hne hdigits hd hp =>
    rw [ht]
    simp

theorem readQuoted_eq_error {quote : Char} (hq : quote ≠ '\\') {index : Nat} {cs : List Char} {m : Misreading}
    (h : readQuoted quote index cs = .error m) :
    ∃ inside, Inside quote inside ∧
      ((cs = inside ∨ cs = inside ++ ['\\']) ∧ m = ⟨some 0, .unterminatedQuote⟩ ∨
        ∃ letter after, cs = inside ++ '\\' :: letter :: after ∧ unescape? letter = none ∧
          m = ⟨some (inside.length + index), .unknownEscape letter⟩) := by
  induction index, cs using readQuoted.induct quote generalizing m with
  | case1 index =>
    cases h
    exact ⟨[], inside_nil hq, .inl ⟨.inl rfl, rfl⟩⟩
  | case2 index =>
    cases h
    exact ⟨[], inside_nil hq, .inl ⟨.inr rfl, rfl⟩⟩
  | case3 index letter cs c hl ih =>
    rw [readQuoted, hl] at h
    obtain h | ⟨_, -, h⟩ := bind_eq_error_iff.1 h
    · obtain ⟨inside, hi, ⟨rfl | rfl, rfl⟩ | ⟨letter', after, rfl, hl', rfl⟩⟩ := ih h
      · exact ⟨_, hi.escaped hl, .inl ⟨.inl rfl, rfl⟩⟩
      · exact ⟨_, hi.escaped hl, .inl ⟨.inr rfl, rfl⟩⟩
      · have hplace : inside.length + (index + 2) = ('\\' :: letter :: inside).length + index := by
          simp only [List.length_cons]
          omega
        exact ⟨_, hi.escaped hl, .inr ⟨letter', after, rfl, hl', by rw [hplace]⟩⟩
    · cases h
  | case4 index letter cs hl =>
    rw [readQuoted, hl] at h
    cases h
    exact ⟨[], inside_nil hq, .inr ⟨letter, cs, rfl, hl, by simp⟩⟩
  | case5 index cs hc =>
    rw [readQuoted.eq_4 _ _ _ _ hc, if_pos rfl] at h
    cases h
  | case6 index c cs hc hne ih =>
    rw [readQuoted.eq_4 _ _ _ _ hc, if_neg hne] at h
    obtain h | ⟨_, -, h⟩ := bind_eq_error_iff.1 h
    · obtain ⟨inside, hi, ⟨rfl | rfl, rfl⟩ | ⟨letter, after, rfl, hl, rfl⟩⟩ := ih h
      · exact ⟨_, hi.plain hc hne, .inl ⟨.inl rfl, rfl⟩⟩
      · exact ⟨_, hi.plain hc hne, .inl ⟨.inr rfl, rfl⟩⟩
      · have hplace : inside.length + (index + 1) = (c :: inside).length + index := by
          simp only [List.length_cons]
          omega
        exact ⟨_, hi.plain hc hne, .inr ⟨letter, after, rfl, hl, by rw [hplace]⟩⟩
    · cases h

/-- A fault between quotes is one of the text that the opening quote begins. -/
theorem faults_of_readQuoted {c : Char} (hq : IsQuote c) {cs : List Char} {m : Misreading}
    (h : readQuoted c 1 cs = .error m) : ∃ offset, m.place = some offset ∧ Faults c cs offset m.flaw := by
  obtain ⟨inside, hi, ⟨ht, rfl⟩ | ⟨letter, after, ht, hl, rfl⟩⟩ := readQuoted_eq_error hq.ne_backslash h
  · exact ⟨0, rfl, .unterminatedQuote hq hi ht⟩
  · exact ⟨_, rfl, .unknownEscape hq hi ht hl⟩

theorem faults_of_readQuotedName {cs : List Char} {m : Misreading} (h : readQuotedName cs = .error m) :
    ∃ offset, m.place = some offset ∧ Faults nameQuote cs offset m.flaw := by
  obtain h | ⟨⟨text, size, rest⟩, hq, h⟩ := bind_eq_error_iff.1 h
  · exact faults_of_readQuoted (.inr (.inr rfl)) h
  · cases text with
    | nil =>
      cases h
      -- there is nothing between the quotes, so the closing one follows at once
      obtain ⟨_, ⟨⟩, rfl, -⟩ := readQuoted_eq_ok_iff.1 hq
      exact ⟨0, rfl, .emptyName rfl rfl⟩
    | cons d text => cases h

theorem faults_of_readNumber {c : Char} (hc : c.isDigit = true) {cs : List Char} {m : Misreading}
    (h : readNumber (c :: cs) = .error m) : ∃ offset, m.place = some offset ∧ Faults c cs offset m.flaw := by
  have hwhole := (List.takeWhile_append_dropWhile (p := Char.isDigit) (l := c :: cs)).symm
  have hdigits : ∀ x ∈ (c :: cs).takeWhile Char.isDigit, x.isDigit = true := fun x => List.mem_takeWhile_imp
  have hne : (c :: cs).takeWhile Char.isDigit ≠ [] := by
    rw [List.takeWhile_cons_of_pos hc]
    exact List.cons_ne_nil _ _
  unfold readNumber at h
  simp only at h
  split at h
  · rename_i hpart
    cases h
    -- something follows the digits, since a character of a name does
    obtain ⟨d, hhead, hpart⟩ := (Option.any_eq_true _ _).1 hpart
    have hd := List.head?_dropWhile_not Char.isDigit (c :: cs)
    rw [hhead] at hd
    obtain ⟨after, hrest⟩ := List.head?_eq_some_iff.1 hhead
    rw [hrest] at hwhole
    exact ⟨_, rfl, .nameWithDigit hwhole hne hdigits hd hpart⟩
  · rename_i hpart
    split at h
    · rename_i hlt
      cases h
      exact ⟨0, rfl, .numberTooLarge hwhole hdigits (clear_iff.2 (Bool.eq_false_iff.2 hpart)) hlt⟩
    · cases h

/-- Where no token is read, one of the faults is told. -/
theorem faults_of_read {c : Char} {cs : List Char} {m : Misreading} (h : read c cs = .error m) :
    ∃ offset, m.place = some offset ∧ Faults c cs offset m.flaw := by
  unfold read at h
  split at h
  · cases h
  · rename_i hp
    split at h
    · rename_i hquote
      obtain h | ⟨_, -, h⟩ := bind_eq_error_iff.1 h
      · have hquote : c = '"' ∨ c = '\'' := by simpa using hquote
        exact faults_of_readQuoted (hquote.imp_right .inl) h
      · cases h
    · rename_i hquote
      split at h
      · rename_i hname
        subst hname
        exact faults_of_readQuotedName h
      · rename_i hname
        split at h
        · rename_i hd
          exact faults_of_readNumber hd h
        · rename_i hd
          split at h
          · cases h
          · rename_i hn
            cases h
            have hq : ¬ IsQuote c := by simpa [IsQuote, hname] using hquote
            exact ⟨0, rfl, .unexpectedCharacter hp hq (Bool.eq_false_iff.2 hd) (Bool.eq_false_iff.2 hn)⟩

end Token

open Token

/-! ## Texts -/

/-- The text is made of tokens and blanks up to a character that is no blank and begins no token; the flaw says why
it does not, and the place is where that is told. -/
inductive StuckAt : List Char → Nat → Flaw → Prop where
  | here {c : Char} {cs : List Char} {place : Nat} {flaw : Flaw} (hc : Unicode.isBlank c = false)
      (hnone : ∀ scan, ¬ Scans c cs scan) (hf : Faults c cs place flaw) : StuckAt (c :: cs) place flaw
  | blank {c : Char} {cs : List Char} {place : Nat} {flaw : Flaw} (hc : Unicode.isBlank c = true)
      (h : StuckAt cs place flaw) : StuckAt (c :: cs) (1 + place) flaw
  | token {c : Char} {cs : List Char} {scan : Scan} {place : Nat} {flaw : Flaw} (hs : Scans c cs scan)
      (h : StuckAt scan.rest place flaw) : StuckAt (c :: cs) (scan.size + place) flaw

theorem StuckAt.lt {text : List Char} {place : Nat} {flaw : Flaw} (h : StuckAt text place flaw) :
    place < text.length := by
  induction h with
  | here hc hnone hf => exact hf.lt
  | blank hc h ih =>
    rw [List.length_cons, Nat.add_comm]
    exact Nat.succ_lt_succ ih
  | token hs h ih =>
    obtain ⟨word, htext, hsize, -⟩ := hs.cut
    rw [htext, List.length_append, hsize]
    exact Nat.add_lt_add_left ih _

theorem stuckAt_of_readFrom {fuel offset : Nat} {text : List Char} {m : Misreading}
    (h : Lexeme.readFrom fuel offset text = .error m) :
    ∃ place, m.place = some (offset + place) ∧ StuckAt text place m.flaw := by
  induction fuel generalizing offset text m with
  | zero => cases h
  | succ fuel ih =>
    cases text with
    | nil => cases h
    | cons c cs =>
      unfold Lexeme.readFrom at h
      split at h
      · rename_i hc
        obtain ⟨place, hplace, hstuck⟩ := ih h
        exact ⟨1 + place, by rw [hplace, Nat.add_assoc], .blank hc hstuck⟩
      · rename_i hc
        split at h
        · rename_i fault hr
          cases h
          obtain ⟨place, hplace, hfaults⟩ := faults_of_read hr
          have hnone : ∀ scan, ¬ Scans c cs scan := by
            intro scan hs
            rw [hs.read_eq] at hr
            cases hr
          exact ⟨place, by rw [hplace]; rfl, .here (Bool.eq_false_iff.2 hc) hnone hfaults⟩
        · rename_i scan hr
          obtain h | ⟨_, -, h⟩ := bind_eq_error_iff.1 h
          · obtain ⟨place, hplace, hstuck⟩ := ih h
            exact ⟨scan.size + place, by rw [hplace, Nat.add_assoc], .token (read_eq_ok_iff.1 hr) hstuck⟩
          · cases h

/-- The lexer fails at the first character that begins no token. -/
theorem stuckAt_of_readAll {text : List Char} {m : Misreading} (h : Lexeme.readAll text = .error m) :
    ∃ place, m.place = some place ∧ StuckAt text place m.flaw := by
  obtain ⟨place, hplace, hstuck⟩ := stuckAt_of_readFrom h
  exact ⟨place, by rw [hplace, Nat.zero_add], hstuck⟩

end ColumnSelect
