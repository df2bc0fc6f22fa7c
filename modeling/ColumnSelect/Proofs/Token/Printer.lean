/-
The written form of single tokens. A text is the written form of some tokens when they are read from
it in front of any further text that does not go on with its last word (`Writes`); such texts may be
put together. A name, a string and a number are each written as one token.
-/
import ColumnSelect.Expr.Printer
import ColumnSelect.Proofs.Text.Decimal
import ColumnSelect.Proofs.Token.Lexer

namespace ColumnSelect

open Token

/-- In front of whatever does not go on with it, the text consists of the tokens. -/
def Writes (text : List Char) (tokens : List Token) : Prop :=
  ∀ rest ts, Clear rest → Lexes rest ts → Lexes (text ++ rest) (tokens ++ ts)

/-! ## Putting texts together -/

theorem clear_nil : Clear [] := by simp [Clear]

theorem clear_cons {c : Char} (h : Text.isNamePart c = false) (cs : List Char) : Clear (c :: cs) := by
  simpa [Clear] using h

theorem Writes.lexes {text : List Char} {tokens : List Token} (h : Writes text tokens) :
    Lexes text tokens := by
  simpa using h [] [] clear_nil .nil

theorem writes_nil : Writes [] [] := fun _ _ _ h => h

/-- A token that is read in front of anything clear is written. -/
theorem writes_of_scans {c : Char} {cs : List Char} {t : Token}
    (h : ∀ rest, Clear rest → ∃ size, Scans c (cs ++ rest) ⟨t, size, rest⟩) : Writes (c :: cs) [t] := by
  intro rest ts hr hl
  obtain ⟨size, hs⟩ := h rest hr
  exact .token hs hl

theorem Writes.punctuation {c : Char} {t : Token} (hc : punctuation? c = some t) {text : List Char}
    {tokens : List Token} (h : Writes text tokens) : Writes (c :: text) (t :: tokens) := by
  intro rest ts hr hl
  exact .token (.punctuation hc) (h rest ts hr hl)

theorem Writes.blank {text : List Char} {tokens : List Token} (h : Writes text tokens) :
    Writes (' ' :: text) tokens := by
  intro rest ts hr hl
  exact .blank (by decide) (h rest ts hr hl)

/-- A text may follow that begins with no character of a name. -/
theorem Writes.append {a b : List Char} {ta tb : List Token} {c : Char} (ha : Writes a ta)
    (hb : Writes (c :: b) tb) (hc : Text.isNamePart c = false) : Writes (a ++ c :: b) (ta ++ tb) := by
  intro rest ts hr hl
  rw [List.append_assoc, List.append_assoc]
  exact ha _ _ (clear_cons hc _) (hb rest ts hr hl)

/-! ## Words -/

theorem takeWhile_clear {word rest : List Char} {p : Char → Bool} (hw : ∀ c ∈ word, p c = true)
    (hp : ∀ c, p c = true → Text.isNamePart c = true) (hr : Clear rest) :
    (word ++ rest).takeWhile p = word ∧ (word ++ rest).dropWhile p = rest := by
  rw [List.takeWhile_append_of_pos hw, List.dropWhile_append_of_pos hw]
  cases rest with
  | nil => simp
  | cons c rest =>
    -- the run ends here, since `p` asks for more than a name does
    have hc : ¬ p c = true := by
      intro hc
      have := hr c rfl
      rw [hp c hc] at this
      cases this
    rw [List.takeWhile_cons_of_neg hc, List.dropWhile_cons_of_neg hc]
    simp

/-- The token of a word. -/
def wordToken (word : List Char) : Token :=
  match Text.truthValue? word with
  | some value => .bool value
  | none => .name (String.ofList word) false

theorem writes_word {c : Char} {cs : List Char} (hc : Text.isNameStart c = true)
    (hcs : ∀ d ∈ cs, Text.isNamePart d = true) : Writes (c :: cs) [wordToken (c :: cs)] := by
  apply writes_of_scans
  intro rest hr
  have hw : ∀ d ∈ c :: cs, Text.isNamePart d = true :=
    List.forall_mem_cons.2 ⟨Text.isNamePart_of_isNameStart hc, hcs⟩
  obtain ⟨ht, hd⟩ := takeWhile_clear hw (fun _ h => h) hr
  have hscan : Scans c (cs ++ rest) (readWord (c :: (cs ++ rest))) := .word hc
  unfold readWord at hscan
  rw [← List.cons_append, ht, hd] at hscan
  exact ⟨_, hscan⟩

theorem writes_bareName {name : String} (h : Text.isBareName name.toList = true) :
    Writes name.toList [.name name false] := by
  rcases hn : name.toList with _ | ⟨c, cs⟩
  · rw [hn] at h
    cases h
  · rw [hn] at h
    simp only [Text.isBareName, Bool.and_eq_true, List.all_eq_true, Option.isNone_iff_eq_none] at h
    obtain ⟨⟨hc, hcs⟩, ht⟩ := h
    have hw := writes_word hc hcs
    rw [wordToken, ht, ← hn, String.ofList_toList, hn] at hw
    exact hw

theorem writes_bool (value : Bool) : Writes (Expr.render (.bool value)) [.bool value] := by
  cases value
  · have hcs : ['A', 'L', 'S', 'E'].all Text.isNamePart = true := by decide
    exact writes_word (show Text.isNameStart 'F' = true by decide) (List.all_eq_true.1 hcs)
  · have hcs : ['R', 'U', 'E'].all Text.isNamePart = true := by decide
    exact writes_word (show Text.isNameStart 'T' = true by decide) (List.all_eq_true.1 hcs)

/-! ## Quoted texts -/

/-- A character is written between quotes as itself, or as an escape that stands for it. -/
def Escapes (quote c : Char) (written : List Char) : Prop :=
  written = [c] ∧ c ≠ '\\' ∧ c ≠ quote ∨ ∃ letter, written = ['\\', letter] ∧ unescape? letter = some c

theorem quoted_escaped {quote : Char} (hq : quote ≠ '\\') {escape : Char → List Char}
    (he : ∀ c, Escapes quote c (escape c)) (text : List Char) :
    Quoted quote (text.flatMap escape ++ [quote]) text := by
  induction text with
  | nil => exact .close hq
  | cons c text ih =>
    rw [List.flatMap_cons, List.append_assoc]
    rcases he c with ⟨hw, hc, hne⟩ | ⟨letter, hw, hl⟩
    · rw [hw]
      exact .plain hc hne ih
    · rw [hw]
      exact .escaped hl ih

/-- Escaped characters are read up to the closing quote. -/
theorem readQuoted_escaped {quote : Char} (hq : quote ≠ '\\') {escape : Char → List Char}
    (he : ∀ c, Escapes quote c (escape c)) (text rest : List Char) (index : Nat) :
    ∃ size, readQuoted quote index (text.flatMap escape ++ quote :: rest) = .ok (text, size, rest) := by
  rw [← List.singleton_append, ← List.append_assoc]
  exact ⟨_, (quoted_escaped hq he text).readQuoted_eq index rest⟩

/-- A character of a quoted name. -/
def nameChar (c : Char) : List Char := if c = nameQuote || c = '\\' then ['\\', c] else [c]

/-- A character of a string. -/
def stringChar (c : Char) : List Char :=
  if c = '"' || c = '\\' then ['\\', c]
  else if c = '\n' then ['\\', 'n']
  else if c = '\t' then ['\\', 't']
  else [c]

theorem escapeName_eq (cs : List Char) : escapeName cs = cs.flatMap nameChar := by
  induction cs with
  | nil => rfl
  | cons c cs ih => rw [escapeName, ih, List.flatMap_cons, nameChar]

theorem escapeString_eq (cs : List Char) : escapeString cs = cs.flatMap stringChar := by
  induction cs with
  | nil => rfl
  | cons c cs ih => rw [escapeString, ih, List.flatMap_cons, stringChar]

theorem escapes_nameChar (c : Char) : Escapes nameQuote c (nameChar c) := by
  unfold nameChar
  split
  · rename_i h
    simp only [Bool.or_eq_true, decide_eq_true_eq] at h
    rcases h with rfl | rfl <;> exact .inr ⟨_, rfl, by decide⟩
  · rename_i h
    simp only [Bool.or_eq_true, decide_eq_true_eq, not_or] at h
    exact .inl ⟨rfl, h.2, h.1⟩

theorem escapes_stringChar (c : Char) : Escapes '"' c (stringChar c) := by
  unfold stringChar
  split
  · rename_i h
    simp only [Bool.or_eq_true, decide_eq_true_eq] at h
    rcases h with rfl | rfl <;> exact .inr ⟨_, rfl, by decide⟩
  · rename_i h
    simp only [Bool.or_eq_true, decide_eq_true_eq, not_or] at h
    split
    · rename_i hn
      exact .inr ⟨_, rfl, by rw [hn]; decide⟩
    · split
      · rename_i ht
        exact .inr ⟨_, rfl, by rw [ht]; decide⟩
      · exact .inl ⟨rfl, h.2, h.1⟩

theorem writes_renderString (text : String) : Writes (renderString text) [.str text] := by
  apply writes_of_scans
  intro rest hr
  obtain ⟨size, h⟩ := readQuoted_escaped (by decide) escapes_stringChar text.toList rest 1
  have hscan := Scans.str (.inl rfl) h
  rw [String.ofList_toList, ← escapeString_eq] at hscan
  exact ⟨size, by simpa using hscan⟩

theorem writes_quotedName {name : String} (hn : name ≠ "") :
    Writes (nameQuote :: escapeName name.toList ++ [nameQuote]) [.name name true] := by
  apply writes_of_scans
  intro rest hr
  obtain ⟨size, h⟩ := readQuoted_escaped (by decide) escapes_nameChar name.toList rest 1
  have hscan := Scans.quotedName rfl h (by simpa using hn)
  rw [String.ofList_toList, ← escapeName_eq] at hscan
  exact ⟨size, by simpa using hscan⟩

/-- A name is written bare where it can be. -/
theorem writes_renderName {name : String} (hn : name ≠ "") :
    Writes (renderName name) [.name name (!Text.isBareName name.toList)] := by
  unfold renderName
  split
  · rename_i h
    rw [h]
    exact writes_bareName h
  · rename_i h
    rw [Bool.eq_false_iff.2 h]
    exact writes_quotedName hn

/-! ## Numbers -/

theorem digitsValue_toDigits (n : Nat) : digitsValue (Nat.toDigits 10 n) = n := by
  rw [digitsValue, ← Nat.ofDigitChars_eq_foldl, Nat.ofDigitChars_ten_toDigits]

theorem writes_toDigits {n : Nat} (hn : n ≤ maxNumber) :
    Writes (Nat.toDigits 10 n) [.number (Int64.ofNat n)] := by
  have hdigits := Text.isDigit_of_mem_toDigits (n := n)
  have hvalue := digitsValue_toDigits n
  obtain ⟨c, cs, hd, hc⟩ := Text.toDigits_eq_cons n
  rw [hd] at hdigits hvalue ⊢
  apply writes_of_scans
  intro rest hr
  obtain ⟨ht, hdrop⟩ := takeWhile_clear hdigits (fun _ => Text.isNamePart_of_isDigit) hr
  have hscan := Scans.number hc ht hdrop hr (by rw [hvalue]; exact hn)
  rw [hvalue] at hscan
  exact ⟨_, hscan⟩

end ColumnSelect
