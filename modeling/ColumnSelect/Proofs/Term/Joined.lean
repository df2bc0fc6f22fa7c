/-
Texts joined with a comma. Behind a text that consists of tokens the comma is a token of its own, so the tokens of
the whole are those of the first text, the comma and those of the second (`lexes_comma_iff`). Where the first
tokens have a derivation, every derivation of the whole goes on from it behind the comma, with one term at least
(`derives_comma_iff`). Main statement: `ofText_comma_iff`.
-/
import ColumnSelect.Proofs.Term.RoundTrip
import ColumnSelect.Proofs.Token.Cut

namespace ColumnSelect

open Grammar Token

/-! ## Tokens -/

/-- A text that consists of tokens is one that these are written as. -/
theorem Lexes.writes {text : List Char} {tokens : List Token} (h : Lexes text tokens) : Writes text tokens := by
  intro rest ts hr hl
  induction h with
  | nil => exact hl
  | blank hc _ ih => exact .blank hc ih
  | token hs _ ih =>
    have hwhole := Lexes.token (hs.append fun _ => hr) ih
    exact hwhole

/-- The comma behind a text is a token, whatever the text ends with. -/
theorem lexes_comma_iff {text rest : List Char} {tokens us : List Token} (h : Lexes text tokens) :
    Lexes (text ++ ',' :: rest) us ↔ ∃ ts, Lexes rest ts ∧ us = tokens ++ .comma :: ts := by
  have hcomma : Scans ',' rest ⟨.comma, 1, rest⟩ := .punctuation rfl
  have hclear : Clear (',' :: rest) := clear_cons (by decide) rest
  constructor
  · intro hu
    obtain ⟨vs, hv, rfl⟩ := h.cut hclear hu
    obtain ⟨ts, ht, rfl⟩ := Lexes.behind hcomma hv
    exact ⟨ts, ht, rfl⟩
  · rintro ⟨ts, ht, rfl⟩
    exact h.writes _ _ hclear (.token hcomma ht)

/-- The text consists of tokens, and of one at least. -/
def HasToken (text : String) : Prop := ∃ l ls, Lexeme.readAll text.toList = .ok (l :: ls)

theorem hasToken_iff {text : String} : HasToken text ↔ ∃ t ts, Lexes text.toList (t :: ts) := by
  simp only [HasToken, lexes_iff]
  constructor
  · rintro ⟨l, ls, h⟩
    exact ⟨l.token, tokensOf ls, l :: ls, h, rfl⟩
  · rintro ⟨t, ts, ls, h, ht⟩
    obtain ⟨start, rest, rfl, -⟩ := tokensOf_eq_cons ht
    exact ⟨_, rest, h⟩

/-! ## Derivations -/

namespace Grammar

theorem sentence_eq_nil_iff {ts : List TermTree} : sentence ts = [] ↔ ts = [] := by
  cases ts with
  | nil => simp [sentence]
  | cons t ts =>
    rw [sentence_cons]
    simp [t.tokens_ne_nil]

theorem sentence_append_cons (t : TermTree) (ts : List TermTree) (v : TermTree) (vs : List TermTree) :
    sentence (t :: ts ++ v :: vs) = sentence (t :: ts) ++ .comma :: sentence (v :: vs) := by
  induction ts generalizing t with
  | nil =>
    rw [List.singleton_append, sentence_cons, sentence_cons t [], tailSentence, tailSentence, List.append_nil]
  | cons t' ts ih =>
    have h := ih t'
    rw [List.cons_append] at h
    rw [List.cons_append, List.cons_append, sentence_cons, tailSentence, h, sentence_cons t (t' :: ts), tailSentence,
      List.append_assoc, List.cons_append]

theorem endsExpr_tailSentence_append (ts : List TermTree) (more : List Token) :
    EndsExpr (tailSentence ts ++ .comma :: more) := by
  cases ts with
  | nil => exact endsExpr_comma _
  | cons t ts => exact endsExpr_comma _

/-- A derivation that goes on behind a comma from the tokens of some terms begins with these terms. -/
theorem sentence_eq_append_comma_iff {t : TermTree} {ts us : List TermTree} {more : List Token} :
    sentence us = sentence (t :: ts) ++ .comma :: more ↔
      ∃ v vs, us = t :: ts ++ v :: vs ∧ sentence (v :: vs) = more := by
  constructor
  · intro h
    induction ts generalizing t us with
    | nil =>
      rw [sentence_cons, List.append_assoc] at h
      obtain ⟨us, rfl, htail⟩ := exists_of_sentence (endsExpr_tailSentence_append [] more) h
      obtain ⟨v, vs, rfl, hmore⟩ := exists_of_tailSentence htail
      exact ⟨v, vs, rfl, hmore⟩
    | cons t' ts ih =>
      rw [sentence_cons, List.append_assoc] at h
      obtain ⟨us, rfl, htail⟩ := exists_of_sentence (endsExpr_tailSentence_append (t' :: ts) more) h
      obtain ⟨u, us, rfl, hsentence⟩ := exists_of_tailSentence htail
      obtain ⟨v, vs, hus, hmore⟩ := ih hsentence
      exact ⟨v, vs, by rw [hus]; rfl, hmore⟩
  · rintro ⟨v, vs, rfl, rfl⟩
    exact sentence_append_cons t ts v vs

/-- What has a derivation may be followed by a comma and whatever else has one, but not by a comma alone. -/
theorem derives_comma_iff {t : TermTree} {ts us : List TermTree} {tokens more : List Token}
    (h : Derives (t :: ts) tokens) :
    Derives us (tokens ++ .comma :: more) ↔ ∃ v vs, us = t :: ts ++ v :: vs ∧ Derives (v :: vs) more := by
  constructor
  · rintro ⟨htokens, hlevels, hplain⟩
    rw [← h.tokens] at htokens
    obtain ⟨v, vs, rfl, hmore⟩ := sentence_eq_append_comma_iff.1 htokens
    rw [List.forall_mem_append] at hlevels hplain
    exact ⟨v, vs, rfl, hmore, hlevels.2, hplain.2⟩
  · rintro ⟨v, vs, rfl, hmore⟩
    refine ⟨?_, List.forall_mem_append.2 ⟨h.levels, hmore.levels⟩, List.forall_mem_append.2 ⟨h.plain, hmore.plain⟩⟩
    rw [sentence_append_cons, h.tokens, hmore.tokens]

end Grammar

/-! ## Terms -/

namespace Term

theorem toList_append_comma (s t : String) : (s ++ "," ++ t).toList = s.toList ++ ',' :: t.toList := by
  rw [String.toList_append, String.toList_append, List.append_assoc]
  rfl

/-- A text with a token that is read has a derivation of one term at least. -/
theorem exists_derives_cons {s : String} {terms : List Term} (hs : ofText s = .ok terms) (htoken : HasToken s) :
    ∃ tokens d ds, Lexes s.toList tokens ∧ Derives (d :: ds) tokens ∧
      ((d :: ds).map TermTree.term).flatMap spread = terms := by
  obtain ⟨tokens, ts, hl, hd, hterms⟩ := ofText_iff_derives.1 hs
  obtain ⟨t, rest, hl'⟩ := hasToken_iff.1 htoken
  obtain rfl := hl.unique hl'
  cases ts with
  | nil => exact absurd hd.tokens (by simp [sentence])
  | cons d ds => exact ⟨_, d, ds, hl, hd, hterms⟩

/-- Behind the text of some terms, a comma and another text are read exactly when the other text can be read by
itself and is not blank, and then to the terms of the one and those of the other. -/
theorem ofText_comma_iff {s : String} {terms : List Term} (hs : ofText s = .ok terms) (htoken : HasToken s)
    (t : String) (result : List Term) :
    ofText (s ++ "," ++ t) = .ok result ↔ HasToken t ∧ ∃ us, ofText t = .ok us ∧ result = terms ++ us := by
  obtain ⟨tokens, d, ds, hl, hd, rfl⟩ := exists_derives_cons hs htoken
  rw [ofText_iff_derives, toList_append_comma]
  constructor
  · rintro ⟨ws, es, hws, hes, rfl⟩
    obtain ⟨more, hmore, rfl⟩ := (lexes_comma_iff hl).1 hws
    obtain ⟨v, vs, rfl, hvs⟩ := (derives_comma_iff hd).1 hes
    refine ⟨?_, _, ofText_iff_derives.2 ⟨more, v :: vs, hmore, hvs, rfl⟩, by rw [List.map_append, List.flatMap_append]⟩
    -- a term behind the comma has a token
    obtain ⟨u, rest, htokens⟩ := List.exists_cons_of_ne_nil fun h : more = [] =>
      absurd (sentence_eq_nil_iff.1 (hvs.tokens.trans h)) (by simp)
    exact hasToken_iff.2 ⟨u, rest, htokens ▸ hmore⟩
  · rintro ⟨htoken', us, hus, rfl⟩
    obtain ⟨more, v, vs, hmore, hvs, rfl⟩ := exists_derives_cons hus htoken'
    refine ⟨tokens ++ .comma :: more, d :: ds ++ v :: vs, (lexes_comma_iff hl).2 ⟨more, hmore, rfl⟩,
      (derives_comma_iff hd).2 ⟨v, vs, rfl, hvs⟩, ?_⟩
    rw [List.map_append, List.flatMap_append]

/-- A list and a range are followed by a list and an exclusion, each list spread by itself, and a text that ends
with a comma is not read. -/
theorem ofText_comma_iff_lists :
    ofText ("c(a, b), n = 1:2" ++ "," ++ " c(d), -'e'") = .ok
        [⟨none, .column "a"⟩, ⟨none, .column "b"⟩, ⟨some "n", .range (.int 1) (.int 2)⟩, ⟨none, .column "d"⟩,
          ⟨none, .negate (.str "e")⟩] ∧
      ∀ result, ofText ("c(a, b), n = 1:2" ++ "," ++ " ") ≠ .ok result := by
  have hs : ofText "c(a, b), n = 1:2" = .ok
      [⟨none, .column "a"⟩, ⟨none, .column "b"⟩, ⟨some "n", .range (.int 1) (.int 2)⟩] := rfl
  have htoken : HasToken "c(a, b), n = 1:2" := ⟨_, _, rfl⟩
  refine ⟨(ofText_comma_iff hs htoken _ _).2 ⟨⟨_, _, rfl⟩, _, rfl, rfl⟩, fun result h => ?_⟩
  obtain ⟨⟨l, ls, hblank⟩, -⟩ := (ofText_comma_iff hs htoken _ _).1 h
  cases hblank

end Term

end ColumnSelect
