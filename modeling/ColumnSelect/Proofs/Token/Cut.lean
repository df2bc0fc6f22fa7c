/-
Texts cut in two. A token is the same one in front of any text that does not go on with it (`Scans.append`). Where
the second part does not go on with the last word of the first, a whole that consists of tokens is cut into those of
its parts. Main statement: `Lexes.cut`. So what stands in a text that can be read can be read by itself, and a
number in it is none too large (`le_maxNumber_of_lexable`).
-/
import ColumnSelect.Proofs.Token.Printer

namespace ColumnSelect

namespace Token

/-! ## Single tokens -/

theorem clear_append {text rest : List Char} (ht : Clear text) (hr : Clear rest) : Clear (text ++ rest) := by
  cases text with
  | nil => exact hr
  | cons c cs => exact clear_cons (ht c rfl) _

/-- A run of characters that only names have does not go on behind a text. -/
theorem run_append {p : Char → Bool} (hp : ∀ c, p c = true → Text.isNamePart c = true) {rest : List Char}
    (hr : Clear rest) (cs : List Char) :
    (cs ++ rest).takeWhile p = cs.takeWhile p ∧ (cs ++ rest).dropWhile p = cs.dropWhile p ++ rest := by
  induction cs with
  | nil => exact takeWhile_clear (List.forall_mem_nil _) hp hr
  | cons c cs ih =>
    rw [List.cons_append]
    by_cases hc : p c = true
    · rw [List.takeWhile_cons_of_pos hc, List.takeWhile_cons_of_pos hc, List.dropWhile_cons_of_pos hc,
        List.dropWhile_cons_of_pos hc, ih.1, ih.2]
      exact ⟨rfl, rfl⟩
    · rw [List.takeWhile_cons_of_neg hc, List.takeWhile_cons_of_neg hc, List.dropWhile_cons_of_neg hc,
        List.dropWhile_cons_of_neg hc]
      exact ⟨rfl, rfl⟩

theorem readQuoted_append {quote : Char} {index : Nat} {cs text after : List Char} {size : Nat}
    (h : readQuoted quote index cs = .ok (text, size, after)) (rest : List Char) :
    readQuoted quote index (cs ++ rest) = .ok (text, size, after ++ rest) := by
  obtain ⟨word, hword, rfl, rfl⟩ := readQuoted_eq_ok_iff.1 h
  rw [List.append_assoc]
  exact hword.readQuoted_eq index (after ++ rest)

/-- Bare names, truth values and numbers go on as long as there are characters of a name; of all other tokens the
last character is told by the token itself. -/
def isBare : Token → Bool
  | .name _ quoted => !quoted
  | .number _ | .bool _ => true
  | _ => false

/-- The token ends where the text behind it begins. -/
def EndsBefore (t : Token) (rest : List Char) : Prop := t.isBare = true → Clear rest

theorem isBare_readWord (cs : List Char) : (readWord cs).token.isBare = true := by
  unfold readWord
  simp only
  split <;> rfl

/-- A token is the same one in front of whatever it ends before. -/
theorem Scans.append {c : Char} {cs : List Char} {scan : Scan} (h : Scans c cs scan) {rest : List Char}
    (he : scan.token.EndsBefore rest) : Scans c (cs ++ rest) ⟨scan.token, scan.size, scan.rest ++ rest⟩ := by
  cases h with
  | punctuation ht => exact .punctuation ht
  | str hc hq => exact .str hc (readQuoted_append hq rest)
  | quotedName hc hq ht => exact .quotedName hc (readQuoted_append hq rest) ht
  | number hc hd hdrop hclear hle =>
    have hr : Clear rest := he rfl
    obtain ⟨htake, hrest⟩ := run_append (fun _ => Text.isNamePart_of_isDigit) hr (c :: cs)
    exact .number hc (htake.trans hd) (hrest.trans (by rw [hdrop])) (clear_append hclear hr) hle
  | word hc =>
    have hword : Scans c (cs ++ rest) (readWord (c :: (cs ++ rest))) := .word hc
    obtain ⟨htake, hrest⟩ := run_append (fun _ h => h) (he (isBare_readWord _)) (c :: cs)
    rw [List.cons_append] at htake hrest
    unfold readWord at hword ⊢
    rw [htake, hrest] at hword
    exact hword

theorem Scans.unique {c : Char} {cs : List Char} {scan scan' : Scan} (h : Scans c cs scan)
    (h' : Scans c cs scan') : scan = scan' :=
  Except.ok.inj (h.read_eq.symm.trans h'.read_eq)

end Token

open Token

/-! ## Texts -/

/-- The text begins with the token, and has others behind it. -/
theorem Lexes.behind {c : Char} {cs : List Char} {scan : Scan} {us : List Token} (hs : Scans c cs scan)
    (h : Lexes (c :: cs) us) : ∃ ts, Lexes scan.rest ts ∧ us = scan.token :: ts := by
  cases h with
  | blank hc h =>
    rw [hs.not_blank] at hc
    cases hc
  | token hs' h =>
    cases hs.unique hs'
    exact ⟨_, h, rfl⟩

/-- The tokens of a text that is cut where no word goes on are those of its parts. -/
theorem Lexes.cut {text rest : List Char} {tokens us : List Token} (h : Lexes text tokens) (hr : Clear rest)
    (hu : Lexes (text ++ rest) us) : ∃ ts, Lexes rest ts ∧ us = tokens ++ ts := by
  induction h generalizing us with
  | nil => exact ⟨us, hu, rfl⟩
  | blank hc h ih =>
    cases hu with
    | blank _ hu => exact ih hu
    | token hs hu =>
      rw [hs.not_blank] at hc
      cases hc
  | token hs h ih =>
    obtain ⟨vs, hv, rfl⟩ := Lexes.behind (hs.append fun _ => hr) hu
    obtain ⟨ts, ht, rfl⟩ := ih hv
    exact ⟨ts, ht, rfl⟩

/-- A text that consists of tokens and blanks. -/
def Lexable (text : List Char) : Prop := ∃ ts, Lexes text ts

theorem lexable_of_punctuation {c : Char} {t : Token} (hc : punctuation? c = some t) {text : List Char}
    (h : Lexable (c :: text)) : Lexable text := by
  obtain ⟨us, hu⟩ := h
  obtain ⟨ts, ht, -⟩ := Lexes.behind (.punctuation hc) hu
  exact ⟨ts, ht⟩

theorem lexable_of_blank {text : List Char} (h : Lexable (' ' :: text)) : Lexable text := by
  obtain ⟨us, hu⟩ := h
  cases hu with
  | blank _ hu => exact ⟨us, hu⟩
  | token hs _ => exact absurd hs.not_blank (by decide)

theorem Writes.lexable {text : List Char} {tokens : List Token} (hw : Writes text tokens) {rest : List Char}
    (hr : Clear rest) (h : Lexable (text ++ rest)) : Lexable rest := by
  obtain ⟨us, hu⟩ := h
  obtain ⟨ts, ht, -⟩ := hw.lexes.cut hr hu
  exact ⟨ts, ht⟩

/-- A number in a text that can be read is none too large. -/
theorem le_maxNumber_of_lexable {n : Nat} {rest : List Char} (hr : Clear rest)
    (h : Lexable (Nat.toDigits 10 n ++ rest)) : n ≤ maxNumber := by
  obtain ⟨us, hu⟩ := h
  have hdigits := Text.isDigit_of_mem_toDigits (n := n)
  have htake := (takeWhile_clear hdigits (fun _ => Text.isNamePart_of_isDigit) hr).1
  obtain ⟨c, cs, hd, hc⟩ := Text.toDigits_eq_cons n
  rw [hd, List.cons_append] at hu htake
  cases hu with
  | blank hb _ =>
    rw [Unicode.isBlank_of_isDigit hc] at hb
    cases hb
  | token hs _ =>
    -- of all tokens only a number begins with a digit
    have hread := hs.read_eq
    rw [read_of_isDigit hc] at hread
    have hle := (readNumber_eq_ok_iff.1 hread).2.1
    rw [htake, ← hd, digitsValue_toDigits] at hle
    exact hle

end ColumnSelect
