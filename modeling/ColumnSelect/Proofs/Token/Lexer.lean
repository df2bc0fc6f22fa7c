/-
The lexer by what a text consists of. A token at the head of a text is one of five kinds (`Scans`),
told apart by its first character; what stands between quotes is spelled character by character or by
escapes (`Quoted`). A text has tokens when it is made of tokens and blanks (`Lexes`). Main statements:
the lexer reads exactly such texts, to these tokens (`lexes_iff`), and its names are not empty and its
numbers not negative (`Lexes.proper`).
-/
import ColumnSelect.Proofs.Outcome
import ColumnSelect.Proofs.Text.Identifier

namespace ColumnSelect

/-- The tokens of lexemes. -/
def tokensOf (lexemes : List Lexeme) : List Token := lexemes.map Lexeme.token

@[simp] theorem tokensOf_cons (l : Lexeme) (ls : List Lexeme) :
    tokensOf (l :: ls) = l.token :: tokensOf ls := rfl

theorem length_tokensOf (ls : List Lexeme) : (tokensOf ls).length = ls.length := List.length_map _

theorem tokensOf_eq_nil {ls : List Lexeme} (h : tokensOf ls = []) : ls = [] := List.map_eq_nil_iff.1 h

theorem tokensOf_eq_cons {ls : List Lexeme} {t : Token} {ts : List Token} (h : tokensOf ls = t :: ts) :
    ∃ start rest, ls = ⟨t, start⟩ :: rest ∧ tokensOf rest = ts := by
  cases ls with
  | nil => cases h
  | cons l ls =>
    obtain ⟨token, start⟩ := l
    obtain ⟨rfl, rfl⟩ := List.cons.inj h
    exact ⟨start, ls, rfl, rfl⟩

namespace Token

/-! ## Single tokens -/

/-- A text does not go on with the word in front of it. -/
def Clear (rest : List Char) : Prop := ∀ c ∈ rest.head?, Text.isNamePart c = false

/-- The token at the head of the text `c :: cs`. -/
inductive Scans (c : Char) (cs : List Char) : Scan → Prop where
  | punctuation {t : Token} (h : punctuation? c = some t) : Scans c cs ⟨t, 1, cs⟩
  | str {text rest : List Char} {size : Nat} (hc : c = '"' ∨ c = '\'')
      (h : readQuoted c 1 cs = .ok (text, size, rest)) : Scans c cs ⟨.str (String.ofList text), size, rest⟩
  | quotedName {text rest : List Char} {size : Nat} (hc : c = nameQuote)
      (h : readQuoted nameQuote 1 cs = .ok (text, size, rest)) (ht : text ≠ []) :
      Scans c cs ⟨.name (String.ofList text) true, size, rest⟩
  | number {digits rest : List Char} (hc : c.isDigit = true) (hd : (c :: cs).takeWhile Char.isDigit = digits)
      (hr : (c :: cs).dropWhile Char.isDigit = rest) (hclear : Clear rest)
      (hle : digitsValue digits ≤ maxNumber) :
      Scans c cs ⟨.number (Int64.ofNat (digitsValue digits)), digits.length, rest⟩
  | word (hc : Text.isNameStart c = true) : Scans c cs (readWord (c :: cs))

theorem clear_iff {rest : List Char} : Clear rest ↔ rest.head?.any Text.isNamePart = false := by
  cases rest <;> simp [Clear]

/-- What holds of the first character, but of no quote and no punctuation, tells them apart. -/
theorem first_ne {p : Char → Bool} {c : Char} (hc : p c = true)
    (hp : ['-', ':', ',', '=', '(', ')', '"', '\'', nameQuote].all (!p ·) = true) :
    punctuation? c = none ∧ (c = '"' || c = '\'') = false ∧ c ≠ nameQuote := by
  have hne : ∀ d ∈ ['-', ':', ',', '=', '(', ')', '"', '\'', nameQuote], c ≠ d := by
    rintro d hd rfl
    have := List.all_eq_true.1 hp c hd
    rw [hc] at this
    cases this
  simp only [List.mem_cons, List.not_mem_nil, or_false, forall_eq_or_imp, forall_eq] at hne
  simp [punctuation?, hne]

theorem read_of_isDigit {c : Char} (h : c.isDigit = true) (cs : List Char) :
    read c cs = readNumber (c :: cs) := by
  obtain ⟨hp, hq, hn⟩ := first_ne h (by decide)
  unfold read
  rw [hp]
  simp only [hq, hn, h, if_true, if_false, Bool.false_eq_true]

theorem read_of_isNameStart {c : Char} (h : Text.isNameStart c = true) (cs : List Char) :
    read c cs = .ok (readWord (c :: cs)) := by
  obtain ⟨hp, hq, hn⟩ := first_ne h (by decide)
  have hd : c.isDigit = false := by
    rw [Bool.eq_false_iff]
    intro hd
    rw [Text.isNameStart_of_isDigit hd] at h
    cases h
  unfold read
  rw [hp]
  simp only [hq, hn, hd, h, if_true, if_false, Bool.false_eq_true]

theorem readNumber_eq_ok_iff {cs : List Char} {scan : Scan} :
    readNumber cs = .ok scan ↔
      Clear (cs.dropWhile Char.isDigit) ∧ digitsValue (cs.takeWhile Char.isDigit) ≤ maxNumber ∧
        scan = ⟨.number (Int64.ofNat (digitsValue (cs.takeWhile Char.isDigit))),
          (cs.takeWhile Char.isDigit).length, cs.dropWhile Char.isDigit⟩ := by
  unfold readNumber
  rw [clear_iff]
  simp only
  split
  · rename_i h
    simp [h]
  · rename_i h
    split
    · rename_i hlt
      simp [Nat.not_le.2 hlt]
    · rename_i hle
      simp [h, Nat.not_lt.1 hle, eq_comm]

theorem readString_eq_ok_iff {quote : Char} {cs : List Char} {scan : Scan} :
    readString quote cs = .ok scan ↔
      ∃ text size rest, readQuoted quote 1 cs = .ok (text, size, rest) ∧
        scan = ⟨.str (String.ofList text), size, rest⟩ := by
  unfold readString
  rw [bind_eq_ok_iff]
  constructor
  · rintro ⟨⟨text, size, rest⟩, h, hs⟩
    cases hs
    exact ⟨text, size, rest, h, rfl⟩
  · rintro ⟨text, size, rest, h, rfl⟩
    exact ⟨_, h, rfl⟩

theorem readQuotedName_eq_ok_iff {cs : List Char} {scan : Scan} :
    readQuotedName cs = .ok scan ↔
      ∃ text size rest, readQuoted nameQuote 1 cs = .ok (text, size, rest) ∧ text ≠ [] ∧
        scan = ⟨.name (String.ofList text) true, size, rest⟩ := by
  unfold readQuotedName
  rw [bind_eq_ok_iff]
  constructor
  · rintro ⟨⟨text, size, rest⟩, h, hs⟩
    cases text with
    | nil => cases hs
    | cons c text =>
      cases hs
      exact ⟨c :: text, size, rest, h, by simp, rfl⟩
  · rintro ⟨text, size, rest, h, ht, rfl⟩
    cases text with
    | nil => exact absurd rfl ht
    | cons c text => exact ⟨_, h, rfl⟩

theorem scans_of_read {c : Char} {cs : List Char} {scan : Scan} (h : read c cs = .ok scan) :
    Scans c cs scan := by
  unfold read at h
  split at h
  · rename_i t ht
    cases h
    exact .punctuation ht
  · split at h
    · rename_i hc
      obtain ⟨text, size, rest, hq, rfl⟩ := readString_eq_ok_iff.1 h
      exact .str (by simpa using hc) hq
    · split at h
      · rename_i hc
        obtain ⟨text, size, rest, hq, ht, rfl⟩ := readQuotedName_eq_ok_iff.1 h
        exact .quotedName hc hq ht
      · split at h
        · rename_i hc
          obtain ⟨hclear, hle, rfl⟩ := readNumber_eq_ok_iff.1 h
          exact .number hc rfl rfl hclear hle
        · split at h
          · rename_i hc
            cases h
            exact .word hc
          · cases h

theorem Scans.read_eq {c : Char} {cs : List Char} {scan : Scan} (h : Scans c cs scan) :
    read c cs = .ok scan := by
  cases h with
  | punctuation ht =>
    unfold read
    rw [ht]
  | str hc hq =>
    -- for either quote the branches before this one are decided by evaluation
    have hs := readString_eq_ok_iff.2 ⟨_, _, _, hq, rfl⟩
    rcases hc with rfl | rfl <;> exact hs
  | quotedName hc hq ht =>
    subst hc
    exact readQuotedName_eq_ok_iff.2 ⟨_, _, _, hq, ht, rfl⟩
  | number hc hd hr hclear hle =>
    subst hd hr
    rw [read_of_isDigit hc]
    exact readNumber_eq_ok_iff.2 ⟨hclear, hle, rfl⟩
  | word hc => rw [read_of_isNameStart hc]

/-- The token of a text is told by its first character. -/
theorem read_eq_ok_iff {c : Char} {cs : List Char} {scan : Scan} :
    read c cs = .ok scan ↔ Scans c cs scan := ⟨scans_of_read, Scans.read_eq⟩

/-! ## Quoted texts -/

/-- The characters up to and with a closing quote, and the text that they spell. -/
inductive Quoted (quote : Char) : List Char → List Char → Prop where
  | close (hq : quote ≠ '\\') : Quoted quote [quote] []
  | escaped {letter c : Char} {word text : List Char} (hl : unescape? letter = some c) (h : Quoted quote word text) :
      Quoted quote ('\\' :: letter :: word) (c :: text)
  | plain {c : Char} {word text : List Char} (hc : c ≠ '\\') (hne : c ≠ quote) (h : Quoted quote word text) :
      Quoted quote (c :: word) (c :: text)

theorem exists_quoted_of_readQuoted {quote : Char} {index : Nat} {cs text rest : List Char} {size : Nat}
    (h : readQuoted quote index cs = .ok (text, size, rest)) :
    ∃ word, Quoted quote word text ∧ word ++ rest = cs ∧ index + word.length = size := by
  induction index, cs using readQuoted.induct quote generalizing text rest size with
  | case1 => cases h
  | case2 => cases h
  | case3 index letter cs c hl ih =>
    rw [readQuoted, hl] at h
    obtain ⟨⟨text', size', rest'⟩, hq, h⟩ := bind_eq_ok_iff.1 h
    cases h
    obtain ⟨word, hword, rfl, rfl⟩ := ih hq
    exact ⟨_, .escaped hl hword, rfl, by simp only [List.length_cons]; omega⟩
  | case4 index letter cs hl =>
    rw [readQuoted, hl] at h
    cases h
  | case5 index cs hc =>
    rw [readQuoted.eq_4 _ _ _ _ hc, if_pos rfl] at h
    cases h
    exact ⟨[quote], .close hc, rfl, rfl⟩
  | case6 index c cs hc hne ih =>
    rw [readQuoted.eq_4 _ _ _ _ hc, if_neg hne] at h
    obtain ⟨⟨text', size', rest'⟩, hq, h⟩ := bind_eq_ok_iff.1 h
    cases h
    obtain ⟨word, hword, rfl, rfl⟩ := ih hq
    exact ⟨_, .plain hc hne hword, rfl, by simp only [List.length_cons]; omega⟩

theorem Quoted.readQuoted_eq {quote : Char} {word text : List Char} (h : Quoted quote word text) (index : Nat)
    (rest : List Char) : readQuoted quote index (word ++ rest) = .ok (text, index + word.length, rest) := by
  induction h generalizing index with
  | close hq =>
    rw [List.singleton_append, readQuoted.eq_4 _ _ _ _ hq, if_pos rfl]
    rfl
  | @escaped letter c word text hl h ih =>
    have hlength : index + 2 + word.length = index + ('\\' :: letter :: word).length := by
      simp only [List.length_cons]
      omega
    rw [List.cons_append, List.cons_append, readQuoted, hl, ← hlength]
    exact bind_eq_ok_iff.2 ⟨_, ih (index + 2), rfl⟩
  | @plain c word text hc hne h ih =>
    have hlength : index + 1 + word.length = index + (c :: word).length := by
      simp only [List.length_cons]
      omega
    rw [List.cons_append, readQuoted.eq_4 _ _ _ _ hc, if_neg hne, ← hlength]
    exact bind_eq_ok_iff.2 ⟨_, ih (index + 1), rfl⟩

/-- A quoted text is read from the characters up to its closing quote, whatever stands behind them. -/
theorem readQuoted_eq_ok_iff {quote : Char} {index : Nat} {cs text rest : List Char} {size : Nat} :
    readQuoted quote index cs = .ok (text, size, rest) ↔
      ∃ word, Quoted quote word text ∧ word ++ rest = cs ∧ index + word.length = size := by
  constructor
  · exact exists_quoted_of_readQuoted
  · rintro ⟨word, h, rfl, rfl⟩
    exact h.readQuoted_eq index rest

/-! ## What a token leaves -/

theorem readQuoted_rest {quote : Char} {index : Nat} {cs text rest : List Char} {size : Nat}
    (h : readQuoted quote index cs = .ok (text, size, rest)) : rest.length ≤ cs.length := by
  obtain ⟨word, -, rfl, -⟩ := readQuoted_eq_ok_iff.1 h
  rw [List.length_append]
  exact Nat.le_add_left _ _

/-- A token takes its first character. -/
theorem Scans.rest_le {c : Char} {cs : List Char} {scan : Scan} (h : Scans c cs scan) :
    scan.rest.length ≤ cs.length := by
  cases h with
  | punctuation ht => exact Nat.le_refl _
  | str hc hq => exact readQuoted_rest hq
  | quotedName hc hq ht => exact readQuoted_rest hq
  | number hc hd hr hclear hle =>
    rw [List.dropWhile_cons_of_pos hc] at hr
    rw [← hr]
    exact (List.dropWhile_sublist _).length_le
  | word hc =>
    simp only [readWord]
    rw [List.dropWhile_cons_of_pos (Text.isNamePart_of_isNameStart hc)]
    exact (List.dropWhile_sublist _).length_le

theorem Scans.not_blank {c : Char} {cs : List Char} {scan : Scan} (h : Scans c cs scan) :
    Unicode.isBlank c = false := by
  cases h with
  | punctuation ht =>
    unfold punctuation? at ht
    repeat' split at ht
    all_goals first | (subst c; decide) | cases ht
  | str hc hq => rcases hc with rfl | rfl <;> decide
  | quotedName hc hq ht =>
    subst hc
    decide
  | number hc hd hr hclear hle => exact Unicode.isBlank_of_isDigit hc
  | word hc =>
    rw [Bool.eq_false_iff]
    intro hb
    rw [Text.isNameStart_of_isBlank hb] at hc
    cases hc

/-- Names are not empty and numbers not negative. -/
def Proper : Token → Prop
  | .name text _ => text ≠ ""
  | .number value => 0 ≤ value.toInt
  | _ => True

theorem Scans.proper {c : Char} {cs : List Char} {scan : Scan} (h : Scans c cs scan) :
    scan.token.Proper := by
  cases h with
  | punctuation ht =>
    unfold punctuation? at ht
    repeat' split at ht
    all_goals cases ht <;> trivial
  | str hc hq => trivial
  | quotedName hc hq ht => simpa [Proper] using ht
  | @number digits rest hc hd hr hclear hle =>
    -- the bound on numbers is what keeps the sign bit clear
    have hlt : digitsValue digits < 2 ^ 63 := Nat.lt_of_le_of_lt hle (by decide)
    simp only [Proper]
    rw [Int64.toInt_ofNat_of_lt hlt]
    omega
  | word hc =>
    simp only [readWord]
    rw [List.takeWhile_cons_of_pos (Text.isNamePart_of_isNameStart hc)]
    split
    · trivial
    · simp [Proper]

end Token

/-! ## Texts -/

/-- A text consists of some tokens and blanks between them. -/
inductive Lexes : List Char → List Token → Prop where
  | nil : Lexes [] []
  | blank {c : Char} {cs : List Char} {ts : List Token} (hc : Unicode.isBlank c = true)
      (h : Lexes cs ts) : Lexes (c :: cs) ts
  | token {c : Char} {cs : List Char} {scan : Scan} {ts : List Token} (hs : Token.Scans c cs scan)
      (h : Lexes scan.rest ts) : Lexes (c :: cs) (scan.token :: ts)

theorem Lexes.proper {text : List Char} {ts : List Token} (h : Lexes text ts) : ∀ t ∈ ts, t.Proper := by
  induction h with
  | nil => simp
  | blank hc h ih => exact ih
  | token hs h ih => exact List.forall_mem_cons.2 ⟨hs.proper, ih⟩

theorem lexes_of_readFrom {fuel offset : Nat} {text : List Char} {lexemes : List Lexeme}
    (hf : text.length ≤ fuel) (h : Lexeme.readFrom fuel offset text = .ok lexemes) :
    Lexes text (tokensOf lexemes) := by
  induction fuel generalizing offset text lexemes with
  | zero =>
    cases List.eq_nil_of_length_eq_zero (Nat.le_zero.1 hf)
    cases h
    exact .nil
  | succ fuel ih =>
    cases text with
    | nil =>
      cases h
      exact .nil
    | cons c cs =>
      have hcs := Nat.le_of_succ_le_succ hf
      unfold Lexeme.readFrom at h
      split at h
      · rename_i hc
        exact .blank hc (ih hcs h)
      · split at h
        · cases h
        · rename_i scan hr
          obtain ⟨others, ho, h⟩ := bind_eq_ok_iff.1 h
          cases h
          have hs := Token.read_eq_ok_iff.1 hr
          exact .token hs (ih (Nat.le_trans hs.rest_le hcs) ho)

theorem Lexes.readFrom {text : List Char} {ts : List Token} (h : Lexes text ts) {fuel : Nat}
    (hf : text.length ≤ fuel) (offset : Nat) :
    ∃ lexemes, Lexeme.readFrom fuel offset text = .ok lexemes ∧ tokensOf lexemes = ts := by
  induction h generalizing fuel offset with
  | nil => cases fuel <;> exact ⟨[], rfl, rfl⟩
  | blank hc h ih =>
    cases fuel with
    | zero => cases hf
    | succ fuel =>
      unfold Lexeme.readFrom
      rw [if_pos hc]
      exact ih (Nat.le_of_succ_le_succ hf) (offset + 1)
  | token hs h ih =>
    cases fuel with
    | zero => cases hf
    | succ fuel =>
      obtain ⟨others, ho, ht⟩ := ih (Nat.le_trans hs.rest_le (Nat.le_of_succ_le_succ hf)) (offset + _)
      unfold Lexeme.readFrom
      rw [if_neg (by simp [hs.not_blank]), Token.read_eq_ok_iff.2 hs]
      exact ⟨_, bind_eq_ok_iff.2 ⟨_, ho, rfl⟩, by rw [tokensOf_cons, ht]⟩

/-- The lexer reads the texts that consist of tokens and blanks, to these tokens. -/
theorem lexes_iff {text : List Char} {ts : List Token} :
    Lexes text ts ↔ ∃ lexemes, Lexeme.readAll text = .ok lexemes ∧ tokensOf lexemes = ts := by
  constructor
  · intro h
    exact h.readFrom (Nat.le_refl _) 0
  · rintro ⟨lexemes, h, rfl⟩
    exact lexes_of_readFrom (Nat.le_refl _) h

/-- A text consists of one sequence of tokens only. -/
theorem Lexes.unique {text : List Char} {ts ts' : List Token} (h : Lexes text ts) (h' : Lexes text ts') :
    ts = ts' := by
  obtain ⟨lexemes, hl, rfl⟩ := lexes_iff.1 h
  obtain ⟨lexemes', hl', rfl⟩ := lexes_iff.1 h'
  cases hl.symm.trans hl'
  rfl

end ColumnSelect
