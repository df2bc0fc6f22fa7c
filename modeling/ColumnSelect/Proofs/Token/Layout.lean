/-
Where the tokens of a text stand. A token has a word that is the token by itself (`Spells`), and what stands behind
the word matters only in that a bare one must end there. So a text that can be read is laid out as blanks and then,
from token to token, a word and blanks behind it (`Laid`), and the lexer reads exactly such texts, to these tokens at
these starts (`readAll_eq_ok_iff`). Main statement: cut in front of its tokens a text falls into one piece for each,
which is that token by itself, and blanks put in at the cuts change no token (`readAll_cut`).
-/
import ColumnSelect.Proofs.Token.Cut
import Mathlib.Data.List.TakeWhile

namespace ColumnSelect

/-- The text is empty or blank. -/
def Blank (text : List Char) : Prop := ∀ c ∈ text, Unicode.isBlank c = true

instance (text : List Char) : Decidable (Blank text) :=
  List.decidableBAll (fun c => Unicode.isBlank c = true) text

theorem blank_nil : Blank [] := List.forall_mem_nil _

namespace Token

/-! ## Words -/

/-- The word is the token by itself. -/
def Spells (word : List Char) (t : Token) : Prop :=
  ∃ c cs, word = c :: cs ∧ Scans c cs ⟨t, word.length, []⟩

/-- A run of characters is the same run by itself. -/
theorem run_cut (p : Char → Bool) (cs : List Char) :
    (cs.takeWhile p).takeWhile p = cs.takeWhile p ∧ (cs.takeWhile p).dropWhile p = [] := by
  have hall : ∀ c ∈ cs.takeWhile p, p c = true := fun c => List.mem_takeWhile_imp
  exact ⟨List.takeWhile_eq_self_iff.2 hall, List.dropWhile_eq_nil_iff.2 hall⟩

theorem Scans.cut {c : Char} {cs : List Char} {scan : Scan} (h : Scans c cs scan) :
    ∃ word, c :: cs = word ++ scan.rest ∧ word.length = scan.size ∧ Spells word scan.token := by
  cases h with
  | punctuation ht => exact ⟨[c], rfl, rfl, c, [], rfl, .punctuation ht⟩
  | str hc hq =>
    obtain ⟨word, hword, rfl, rfl⟩ := readQuoted_eq_ok_iff.1 hq
    have hsize : (c :: word).length = 1 + word.length := Nat.add_comm _ _
    refine ⟨c :: word, rfl, hsize, c, word, rfl, ?_⟩
    rw [hsize]
    exact .str hc (readQuoted_eq_ok_iff.2 ⟨word, hword, List.append_nil _, rfl⟩)
  | quotedName hc hq ht =>
    obtain ⟨word, hword, rfl, rfl⟩ := readQuoted_eq_ok_iff.1 hq
    have hsize : (c :: word).length = 1 + word.length := Nat.add_comm _ _
    refine ⟨c :: word, rfl, hsize, c, word, rfl, ?_⟩
    rw [hsize]
    exact .quotedName hc (readQuoted_eq_ok_iff.2 ⟨word, hword, List.append_nil _, rfl⟩) ht
  | number hc hd hr hclear hle =>
    obtain ⟨htake, hdrop⟩ := run_cut Char.isDigit (c :: cs)
    have hcons := List.takeWhile_cons_of_pos (l := cs) hc
    have hwhole := List.takeWhile_append_dropWhile (p := Char.isDigit) (l := c :: cs)
    rw [hd] at htake hdrop hcons hwhole
    rw [hr] at hwhole
    refine ⟨_, hwhole.symm, rfl, c, _, hcons, ?_⟩
    rw [hcons] at htake hdrop hle ⊢
    exact .number hc htake hdrop clear_nil hle
  | word hc =>
    have hpart := Text.isNamePart_of_isNameStart hc
    obtain ⟨htake, hdrop⟩ := run_cut Text.isNamePart (c :: cs)
    have hcons := List.takeWhile_cons_of_pos (l := cs) hpart
    have hword : Scans c (cs.takeWhile Text.isNamePart) (readWord (c :: cs.takeWhile Text.isNamePart)) := .word hc
    refine ⟨(c :: cs).takeWhile Text.isNamePart, List.takeWhile_append_dropWhile.symm, rfl, c, _, hcons, ?_⟩
    rw [← hcons] at hword
    unfold readWord at hword ⊢
    rw [htake, hdrop] at hword
    exact hword

/-- A token that is read ends before the text that is left. -/
theorem Scans.endsBefore {c : Char} {cs : List Char} {scan : Scan} (h : Scans c cs scan) :
    scan.token.EndsBefore scan.rest := by
  cases h with
  | punctuation ht =>
    intro hbare
    unfold punctuation? at ht
    repeat' split at ht
    all_goals cases ht <;> cases hbare
  | str hc hq => nofun
  | quotedName hc hq ht => nofun
  | number hc hd hr hclear hle => exact fun _ => hclear
  | word hc =>
    intro _ d hd
    have hstop := List.head?_dropWhile_not Text.isNamePart (c :: cs)
    rw [show ((c :: cs).dropWhile Text.isNamePart).head? = some d from hd] at hstop
    exact hstop

theorem Spells.scans {word rest : List Char} {t : Token} (h : Spells word t) (he : t.EndsBefore rest) :
    ∃ c cs, word = c :: cs ∧ Scans c (cs ++ rest) ⟨t, word.length, rest⟩ := by
  obtain ⟨c, cs, rfl, hs⟩ := h
  exact ⟨c, cs, rfl, hs.append he⟩

/-- Blanks end every token, and where there are none the text behind them has to. -/
theorem endsBefore_blank_append {t : Token} {gap rest : List Char} (hg : Blank gap)
    (h : gap = [] → t.EndsBefore rest) : t.EndsBefore (gap ++ rest) := by
  cases gap with
  | nil => exact h rfl
  | cons c gap => exact fun _ => clear_cons (Text.isNamePart_of_isBlank (hg c (.head _))) _

theorem endsBefore_blank (t : Token) {gap : List Char} (hg : Blank gap) : t.EndsBefore gap := by
  rw [← List.append_nil gap]
  exact endsBefore_blank_append hg fun _ _ => clear_nil

end Token

open Token

/-! ## Layouts -/

/-- A text from the start of its first token on, or nothing: the word of each lexeme stands at its start, ends there
or before blanks, and the next lexeme follows behind them. -/
inductive Laid : Nat → List Char → List Lexeme → Prop where
  | nil {start : Nat} : Laid start [] []
  | cons {start : Nat} {word gap rest : List Char} {t : Token} {ls : List Lexeme} (hw : Spells word t)
      (hg : Blank gap) (he : t.EndsBefore (gap ++ rest))
      (h : Laid (start + (word ++ gap).length) rest ls) : Laid start (word ++ gap ++ rest) (⟨t, start⟩ :: ls)

theorem exists_laid_of_readFrom {fuel offset : Nat} {text : List Char} {ls : List Lexeme}
    (hf : text.length ≤ fuel) (h : Lexeme.readFrom fuel offset text = .ok ls) :
    ∃ front rest, text = front ++ rest ∧ Blank front ∧ Laid (offset + front.length) rest ls := by
  induction fuel generalizing offset text ls with
  | zero =>
    cases List.eq_nil_of_length_eq_zero (Nat.le_zero.1 hf)
    cases h
    exact ⟨[], [], rfl, blank_nil, .nil⟩
  | succ fuel ih =>
    cases text with
    | nil =>
      cases h
      exact ⟨[], [], rfl, blank_nil, .nil⟩
    | cons c cs =>
      have hcs := Nat.le_of_succ_le_succ hf
      unfold Lexeme.readFrom at h
      split at h
      · rename_i hc
        obtain ⟨front, rest, rfl, hfront, hlaid⟩ := ih hcs h
        refine ⟨c :: front, rest, rfl, List.forall_mem_cons.2 ⟨hc, hfront⟩, ?_⟩
        rw [List.length_cons, Nat.add_comm front.length, ← Nat.add_assoc]
        exact hlaid
      · split at h
        · cases h
        · rename_i scan hr
          obtain ⟨others, ho, h⟩ := bind_eq_ok_iff.1 h
          cases h
          have hs := read_eq_ok_iff.1 hr
          obtain ⟨word, htext, hsize, hword⟩ := hs.cut
          obtain ⟨gap, rest, hrest, hgap, hlaid⟩ := ih (Nat.le_trans hs.rest_le hcs) ho
          have hends := hs.endsBefore
          rw [hrest] at hends
          rw [htext, hrest, ← List.append_assoc]
          refine ⟨[], _, rfl, blank_nil, .cons hword hgap hends ?_⟩
          rw [List.length_append, hsize, ← Nat.add_assoc]
          exact hlaid

theorem readFrom_blank {front : List Char} (h : Blank front) (fuel offset : Nat) (text : List Char) :
    Lexeme.readFrom (fuel + front.length) offset (front ++ text) =
      Lexeme.readFrom fuel (offset + front.length) text := by
  induction front generalizing offset with
  | nil => rfl
  | cons c front ih =>
    obtain ⟨hc, hfront⟩ := List.forall_mem_cons.1 h
    rw [List.length_cons, ← Nat.add_assoc, List.cons_append, Lexeme.readFrom, if_pos hc, ih hfront,
      Nat.add_right_comm, Nat.add_assoc]

theorem Laid.readFrom {start : Nat} {text : List Char} {ls : List Lexeme} (h : Laid start text ls) {fuel : Nat}
    (hf : text.length ≤ fuel) : Lexeme.readFrom fuel start text = .ok ls := by
  induction h generalizing fuel with
  | nil => cases fuel <;> rfl
  | @cons start word gap rest t ls hw hg he h ih =>
    obtain ⟨c, cs, rfl, hs⟩ := hw.scans he
    rw [List.append_assoc, List.cons_append] at hf ⊢
    -- the fuel covers the word, the blanks behind it and the rest
    simp only [List.length_cons, List.length_append] at hf
    obtain ⟨fuel, rfl⟩ : ∃ n, fuel = n + gap.length + 1 := ⟨fuel - gap.length - 1, by omega⟩
    have hothers : Lexeme.readFrom (fuel + gap.length) (start + (c :: cs).length) (gap ++ rest) = .ok ls := by
      rw [readFrom_blank hg, Nat.add_assoc, ← List.length_append]
      exact ih (by omega)
    rw [Lexeme.readFrom, if_neg (by simp [hs.not_blank]), hs.read_eq]
    exact bind_eq_ok_iff.2 ⟨ls, hothers, rfl⟩

/-- The lexer reads the texts that are laid out behind blanks, to the lexemes of the layout. -/
theorem readAll_eq_ok_iff {text : List Char} {ls : List Lexeme} :
    Lexeme.readAll text = .ok ls ↔
      ∃ front rest, text = front ++ rest ∧ Blank front ∧ Laid front.length rest ls := by
  constructor
  · intro h
    obtain ⟨front, rest, htext, hfront, hlaid⟩ := exists_laid_of_readFrom (Nat.le_refl _) h
    rw [Nat.zero_add] at hlaid
    exact ⟨front, rest, htext, hfront, hlaid⟩
  · rintro ⟨front, rest, rfl, hfront, hlaid⟩
    unfold Lexeme.readAll
    rw [List.length_append, Nat.add_comm, readFrom_blank hfront, Nat.zero_add]
    exact hlaid.readFrom (Nat.le_refl _)

/-! ## Pieces -/

/-- A text that begins at an offset, cut at further offsets in ascending order. -/
def cutFrom (start : Nat) : List Nat → List Char → List (List Char)
  | [], text => [text]
  | offset :: offsets, text =>
    text.take (offset - start) :: cutFrom offset offsets (text.drop (offset - start))

theorem flatten_cutFrom (start : Nat) (offsets : List Nat) (text : List Char) :
    (cutFrom start offsets text).flatten = text := by
  induction offsets generalizing start text with
  | nil => simp [cutFrom]
  | cons offset offsets ih => rw [cutFrom, List.flatten_cons, ih, List.take_append_drop]

/-- The pieces of a text that begins with the first of its lexemes. -/
def pieces (text : List Char) : List Lexeme → List (List Char)
  | [] => []
  | l :: ls => cutFrom l.start (ls.map Lexeme.start) text

/-- Whatever stands in front of a layout is cut off from it. -/
theorem cutFrom_append {start : Nat} {piece rest : List Char} {ls : List Lexeme}
    (h : Laid (start + piece.length) rest ls) :
    cutFrom start (ls.map Lexeme.start) (piece ++ rest) = piece :: pieces rest ls := by
  cases h with
  | nil => simp [cutFrom, pieces]
  | cons hw hg he h => simp [cutFrom, pieces]

theorem pieces_cons {start : Nat} {word gap rest : List Char} {t : Token} {ls : List Lexeme}
    (h : Laid (start + (word ++ gap).length) rest ls) :
    pieces (word ++ gap ++ rest) (⟨t, start⟩ :: ls) = (word ++ gap) :: pieces rest ls :=
  cutFrom_append h

/-- A word with blanks around it is read as its token. -/
theorem readAll_word {front word gap : List Char} {t : Token} (hf : Blank front) (hw : Spells word t)
    (hg : Blank gap) : Lexeme.readAll (front ++ (word ++ gap)) = .ok [⟨t, front.length⟩] := by
  refine readAll_eq_ok_iff.2 ⟨front, word ++ gap, rfl, hf, ?_⟩
  have hends := endsBefore_blank t hg
  rw [← List.append_nil gap] at hends
  rw [← List.append_nil (word ++ gap)]
  exact .cons hw hg hends .nil

theorem Laid.forall₂_pieces {start : Nat} {text : List Char} {ls : List Lexeme} (h : Laid start text ls) :
    List.Forall₂ (fun piece l => Lexeme.readAll piece = .ok [l]) (pieces text ls)
      (ls.map fun l => ⟨l.token, 0⟩) := by
  induction h with
  | nil => exact .nil
  | cons hw hg he h ih =>
    rw [pieces_cons h, List.map_cons]
    exact .cons (readAll_word blank_nil hw hg) ih

/-- Blanks put in behind the pieces of a layout leave a layout of the same tokens, which begins as before. -/
theorem Laid.spaced {start : Nat} {text : List Char} {ls : List Lexeme} (h : Laid start text ls)
    {gaps : List (List Char)} (hl : gaps.length = ls.length) (hb : ∀ gap ∈ gaps, Blank gap) (start' : Nat) :
    ∃ ms, Laid start' (List.zipWith (· ++ ·) (pieces text ls) gaps).flatten ms ∧
      tokensOf ms = tokensOf ls ∧
      (List.zipWith (· ++ ·) (pieces text ls) gaps).flatten.head? = text.head? := by
  induction h generalizing gaps start' with
  | nil => exact ⟨[], .nil, rfl, rfl⟩
  | @cons start word gap rest t ls hw hg he h ih =>
    obtain ⟨added, gaps, rfl⟩ := List.exists_cons_of_length_eq_add_one hl
    obtain ⟨hadded, hgaps⟩ := List.forall_mem_cons.1 hb
    have hboth : Blank (gap ++ added) := List.forall_mem_append.2 ⟨hg, hadded⟩
    obtain ⟨ms, hms, htokens, hhead⟩ :=
      ih (Nat.succ.inj hl) hgaps (start' + (word ++ (gap ++ added)).length)
    rw [pieces_cons h, List.zipWith_cons_cons, List.flatten_cons]
    generalize (List.zipWith (· ++ ·) (pieces rest ls) gaps).flatten = spaced at hms hhead ⊢
    -- without blanks the next word begins with the character that followed before
    have hends : t.EndsBefore (gap ++ added ++ spaced) := by
      refine endsBefore_blank_append hboth fun hnil => ?_
      rw [(List.append_eq_nil_iff.1 hnil).1] at he
      unfold EndsBefore Clear at he ⊢
      rw [hhead]
      exact he
    rw [List.append_assoc word]
    refine ⟨⟨t, start'⟩ :: ms, .cons hw hboth hends hms, by rw [tokensOf_cons, tokensOf_cons, htokens], ?_⟩
    obtain ⟨c, cs, rfl, -⟩ := hw
    rfl

/-- Cut in front of every token but the first, a text falls into one piece for each token. Read by itself a piece is
that token and no other: the first where it stood, the others at the start of their pieces. Blanks in front of the
text, behind it and at the cuts change none of its tokens. -/
theorem readAll_cut {text : List Char} {l : Lexeme} {ls : List Lexeme} (h : Lexeme.readAll text = .ok (l :: ls)) :
    (cutFrom 0 (ls.map Lexeme.start) text).flatten = text ∧
    List.Forall₂ (fun piece m => Lexeme.readAll piece = .ok [m]) (cutFrom 0 (ls.map Lexeme.start) text)
      (l :: ls.map fun m => ⟨m.token, 0⟩) ∧
    ∀ (front : List Char) (gaps : List (List Char)), Blank front → (∀ gap ∈ gaps, Blank gap) →
      gaps.length = ls.length + 1 →
      ∃ ms, Lexeme.readAll (front ++
          (List.zipWith (· ++ ·) (cutFrom 0 (ls.map Lexeme.start) text) gaps).flatten) = .ok ms ∧
        tokensOf ms = tokensOf (l :: ls) := by
  obtain ⟨own, rest, rfl, hown, hlaid⟩ := readAll_eq_ok_iff.1 h
  refine ⟨flatten_cutFrom _ _ _, ?_⟩
  cases hlaid with
  | @cons _ word gap rest t ls hw hg he hrest =>
    -- the first piece begins with the blanks in front of its word
    have hcut : cutFrom 0 (ls.map Lexeme.start) (own ++ (word ++ gap ++ rest)) =
        (own ++ (word ++ gap)) :: pieces rest ls := by
      rw [← List.append_assoc]
      apply cutFrom_append
      rw [Nat.zero_add, List.length_append]
      exact hrest
    rw [hcut]
    refine ⟨.cons (readAll_word hown hw hg) hrest.forall₂_pieces, fun front gaps hfront hgaps hl => ?_⟩
    obtain ⟨ms, hms, htokens, -⟩ := (Laid.cons hw hg he hrest).spaced hl hgaps (front ++ own).length
    rw [pieces_cons hrest] at hms
    refine ⟨ms, readAll_eq_ok_iff.2 ⟨front ++ own, _, ?_, List.forall_mem_append.2 ⟨hfront, hown⟩, hms⟩, htokens⟩
    cases gaps with
    | nil => cases hl
    | cons gap' gaps => simp

/-- A string and a name with nothing between them, a number that a blank sets off and a quoted name with a blank in
it are cut apart, and blanks put in around some of them, a no-break space and a line feed among these, change none. -/
theorem readAll_cut_adjacent :
    Lexeme.readAll "\t'a'b 12:`c d`".toList = .ok
        [⟨.str "a", 1⟩, ⟨.name "b" false, 4⟩, ⟨.number 12, 6⟩, ⟨.colon, 8⟩, ⟨.name "c d" true, 9⟩] ∧
      List.Forall₂ (fun piece m => Lexeme.readAll piece = .ok [m])
        ["\t'a'".toList, "b ".toList, "12".toList, ":".toList, "`c d`".toList]
        [⟨.str "a", 1⟩, ⟨.name "b" false, 0⟩, ⟨.number 12, 0⟩, ⟨.colon, 0⟩, ⟨.name "c d" true, 0⟩] ∧
      ∃ ms, Lexeme.readAll "\u00a0\t'a'b \n12 :`c d` ".toList = .ok ms ∧
        tokensOf ms = [.str "a", .name "b" false, .number 12, .colon, .name "c d" true] := by
  have h : Lexeme.readAll "\t'a'b 12:`c d`".toList = .ok
      [⟨.str "a", 1⟩, ⟨.name "b" false, 4⟩, ⟨.number 12, 6⟩, ⟨.colon, 8⟩, ⟨.name "c d" true, 9⟩] := rfl
  obtain ⟨-, hpieces, hspaced⟩ := readAll_cut h
  exact ⟨h, hpieces, hspaced ['\u00a0'] [[], ['\n'], [' '], [], [' ']] (by decide) (by decide) rfl⟩

end ColumnSelect
