/-
Terms written and read again. Terms whose names are not empty are read from their written form as
what its derivation stands for (`Term.ofText_written_iff`). Main statements: they come back as they
were exactly when nothing in them is lost in writing or read differently (`Rereads`), and of terms
that were read from a text only calls of a matcher `c` and whole lists are.
-/
import ColumnSelect.Proofs.Expr.Depth
import ColumnSelect.Proofs.Expr.Printer
import ColumnSelect.Proofs.Term.Derivation
import ColumnSelect.Proofs.Term.Parser

namespace ColumnSelect

open Grammar

namespace Term

/-! ## Texts and their derivations -/

/-- A text is read by the derivation of its tokens. -/
theorem ofText_iff_derives {text : String} {terms : List Term} :
    Term.ofText text = .ok terms ↔ ∃ tokens ts, Lexes text.toList tokens ∧ Derives ts tokens ∧
      (ts.map TermTree.term).flatMap spread = terms := by
  rw [ofText_eq_ok_iff]
  constructor
  · rintro ⟨lexemes, hl, h⟩
    obtain ⟨ts, hd, ht⟩ := ofLexemes_eq_ok_iff.1 h
    exact ⟨_, ts, lexes_iff.2 ⟨lexemes, hl, rfl⟩, hd, ht⟩
  · rintro ⟨tokens, ts, hl, hd, ht⟩
    obtain ⟨lexemes, hread, rfl⟩ := lexes_iff.1 hl
    exact ⟨lexemes, hread, ofLexemes_eq_ok_iff.2 ⟨ts, hd, ht⟩⟩

theorem token_mem_sentence {ts : List TermTree} {d : TermTree} (hd : d ∈ ts) {t : Token}
    (ht : t ∈ d.tokens) : t ∈ sentence ts :=
  mem_intercalate_comma (List.mem_map_of_mem hd) ht

/-- What is read from a text has neither empty names nor negative numbers. -/
theorem proper_of_ofText {text : String} {terms : List Term} (h : Term.ofText text = .ok terms) :
    ∀ t ∈ terms, t.name ≠ some "" ∧ t.expr.Every Expr.Proper := by
  obtain ⟨tokens, ts, hl, hd, rfl⟩ := ofText_iff_derives.1 h
  intro u hu
  obtain ⟨t, ht, hut⟩ := List.mem_flatMap.1 hu
  obtain ⟨d, hdt, rfl⟩ := List.mem_map.1 ht
  have hproper : ∀ t ∈ d.tokens, t.Proper := by
    intro t ht
    apply hl.proper
    rw [← hd.tokens]
    exact token_mem_sentence hdt ht
  constructor
  · have hname := bindingTokens_proper fun t ht => hproper t (List.mem_append_left _ ht)
    rcases name_spread hut with hn | hn
    · rw [hn]
      simp
    · rw [hn]
      exact hname
  · exact every_spread (d.expr.proper_expr fun t ht => hproper t (List.mem_append_right _ ht)) hut

/-- The written form of what is read from a text nests no deeper than the text may. -/
theorem writtenNesting_of_ofText {text : String} {terms : List Term} (h : Term.ofText text = .ok terms) :
    ∀ t ∈ terms, t.expr.writtenNesting ≤ maxNesting := by
  obtain ⟨tokens, ts, hl, hd, rfl⟩ := ofText_iff_derives.1 h
  intro u hu
  obtain ⟨t, ht, hut⟩ := List.mem_flatMap.1 hu
  obtain ⟨d, hdt, rfl⟩ := List.mem_map.1 ht
  exact Nat.le_trans (writtenNesting_spread hut) (Nat.le_trans d.expr.writtenNesting_le (hd.levels d hdt))

/-- What is read from a text is evaluated and written by a recursion at most twice as deep as a text may
nest. -/
theorem bounded_of_ofText [Pattern.Engine] {text : String} {terms : List Term} (h : Term.ofText text = .ok terms) :
    ∀ t ∈ terms, t.expr.Bounded (2 * maxNesting) := by
  intro t ht
  apply Expr.bounded_of_paths
  intro path hp
  have hn := writtenNesting_of_ofText h t ht
  have hl := hp.length_le_writtenNesting.1
  omega

/-! ## The written form of terms -/

theorem joinTexts_eq (texts : List (List Char)) : joinTexts texts = [',', ' '].intercalate texts := by
  induction texts with
  | nil => rfl
  | cons text texts ih =>
    cases texts with
    | nil => rw [joinTexts, List.intercalate_singleton]
    | cons text' texts => simp [joinTexts, ih]

theorem toList_intercalate_text (terms : List Term) :
    (", ".intercalate (terms.map text)).toList = renderAll terms := by
  rw [String.toList_intercalate, renderAll, joinTexts_eq, List.map_map]
  simp [Function.comp_def, text]

theorem writes_render {t : Term} (hn : t.name ≠ some "") (h : t.expr.Every Expr.Writable) :
    Writes t.render t.written.tokens := writes_binding hn (Expr.writes_render t.expr h)

/-- Terms that can be written are written as the tokens of their derivations. -/
theorem writes_renderAll {terms : List Term}
    (h : ∀ t ∈ terms, t.name ≠ some "" ∧ t.expr.Every Expr.Writable) :
    Writes (renderAll terms) (sentence (terms.map written)) := by
  apply writes_joinTexts
  rw [List.map_map]
  induction terms with
  | nil => exact .nil
  | cons t terms ih =>
    obtain ⟨⟨hn, ht⟩, hts⟩ := List.forall_mem_cons.1 h
    exact .cons (writes_render hn ht) (ih hts)

/-- The written form of terms is read as what its derivation stands for. -/
theorem ofText_written_iff {terms result : List Term}
    (h : ∀ t ∈ terms, t.name ≠ some "" ∧ t.expr.Every Expr.Writable) :
    Term.ofText (", ".intercalate (terms.map text)) = .ok result ↔
      (∀ t ∈ terms, t.expr.written.levels ≤ maxNesting ∧ t.expr.written.Plain) ∧
        (terms.map fun t => t.written.term).flatMap spread = result := by
  have hlexes := (writes_renderAll h).lexes
  rw [ofText_iff_derives, toList_intercalate_text]
  constructor
  · rintro ⟨tokens, ts, hl, hd, rfl⟩
    -- a text has one sequence of tokens, and that has one derivation
    have hts : ts = terms.map written := sentence_inj (hd.tokens.trans (hl.unique hlexes))
    rw [hts] at hd
    refine ⟨?_, by rw [hts, List.map_map]; rfl⟩
    intro t ht
    exact ⟨hd.levels _ (List.mem_map_of_mem ht), hd.plain _ (List.mem_map_of_mem ht)⟩
  · rintro ⟨hw, rfl⟩
    refine ⟨_, terms.map written, hlexes, ⟨rfl, ?_, ?_⟩, by rw [List.map_map]; rfl⟩
    · intro d hd
      obtain ⟨t, ht, rfl⟩ := List.mem_map.1 hd
      exact (hw t ht).1
    · intro d hd
      obtain ⟨t, ht, rfl⟩ := List.mem_map.1 hd
      exact (hw t ht).2

/-! ## Terms that come back -/

/-- Nothing in the terms is lost in writing or read differently: no name is empty, no number is
negative, no matcher is called `c`, no list is a whole unnamed term, and the written form nests no
deeper than a text may. -/
structure Rereads (terms : List Term) : Prop where
  names : ∀ t ∈ terms, t.name ≠ some "" ∧ t.expr.Every Expr.Named
  numbers : ∀ t ∈ terms, t.expr.Every Expr.Unsigned
  calls : ∀ t ∈ terms, t.expr.Every Expr.NoListCall
  lists : ∀ t ∈ terms, t.name = none → ∀ items, t.expr ≠ .list items
  nesting : ∀ t ∈ terms, t.expr.writtenNesting ≤ maxNesting

theorem wholeList_eq_false_iff {t : Term} :
    t.wholeList = false ↔ (t.name = none → ∀ items, t.expr ≠ .list items) := by
  rw [Bool.eq_false_iff, Ne, wholeList_iff]
  constructor
  · intro h hn items he
    exact h ⟨hn, items, he⟩
  · rintro h ⟨hn, items, he⟩
    exact h hn items he

theorem term_written {t : Term} (hu : t.expr.Every Expr.Unsigned) (hc : t.expr.Every Expr.NoListCall) :
    t.written.term = t := by
  obtain ⟨name, expr⟩ := t
  rw [TermTree.term, written, Expr.expr_written expr hu hc]
  cases name <;> rfl

theorem map_term_written {terms : List Term} (hu : ∀ t ∈ terms, t.expr.Every Expr.Unsigned)
    (hc : ∀ t ∈ terms, t.expr.Every Expr.NoListCall) : (terms.map fun t => t.written.term) = terms := by
  conv_rhs => rw [← List.map_id terms]
  exact List.map_congr_left fun t ht => term_written (hu t ht) (hc t ht)

/-- Terms that come back have come back as they were. -/
theorem rereads_of_ofText {terms : List Term}
    (h : Term.ofText (", ".intercalate (terms.map text)) = .ok terms) : Rereads terms := by
  have hproper := proper_of_ofText h
  have hnames : ∀ t ∈ terms, t.name ≠ some "" ∧ t.expr.Every Expr.Named := fun t ht =>
    ⟨(hproper t ht).1, (hproper t ht).2.imp fun _ he => he.named⟩
  have hnumbers : ∀ t ∈ terms, t.expr.Every Expr.Unsigned := fun t ht =>
    (hproper t ht).2.imp fun _ he => he.unsigned
  have hwritable : ∀ t ∈ terms, t.name ≠ some "" ∧ t.expr.Every Expr.Writable := fun t ht =>
    ⟨(hproper t ht).1, (hproper t ht).2.imp fun _ he => he.writable⟩
  obtain ⟨hw, hspread⟩ := (ofText_written_iff hwritable).1 h
  -- whatever is read from a written form calls no matcher `c`
  have hcalls : ∀ t ∈ terms, t.expr.Every Expr.NoListCall := by
    intro u hu
    rw [← hspread] at hu
    obtain ⟨t, ht, hut⟩ := List.mem_flatMap.1 hu
    obtain ⟨t', -, rfl⟩ := List.mem_map.1 ht
    exact every_spread t'.expr.noListCall_written hut
  -- now the derivations stand for the terms, and a list among them would be spread
  rw [map_term_written hnumbers hcalls] at hspread
  refine ⟨hnames, hnumbers, hcalls, ?_, ?_⟩
  · intro t ht
    exact wholeList_eq_false_iff.1 (wholeList_of_flatMap_spread hspread t ht)
  · intro t ht
    rw [← Expr.levels_written t.expr (hnumbers t ht)]
    exact (hw t ht).1

theorem Rereads.ofText {terms : List Term} (h : Rereads terms) :
    Term.ofText (", ".intercalate (terms.map text)) = .ok terms := by
  have hwritable : ∀ t ∈ terms, t.name ≠ some "" ∧ t.expr.Every Expr.Writable := by
    intro t ht
    obtain ⟨hn, he⟩ := h.names t ht
    exact ⟨hn, Expr.Every.imp₂ (fun _ hn hu => Expr.Proper.writable ⟨hn, hu⟩) _ he (h.numbers t ht)⟩
  rw [ofText_written_iff hwritable, map_term_written h.numbers h.calls]
  refine ⟨?_, flatMap_spread fun t ht => wholeList_eq_false_iff.2 (h.lists t ht)⟩
  intro t ht
  rw [Expr.levels_written t.expr (h.numbers t ht)]
  exact ⟨h.nesting t ht, t.expr.plain_written ((h.calls t ht).imp fun _ hc => hc.unnamedItems)⟩

/-- Terms come back from their written form as they were exactly when nothing in them is lost in
writing or read differently. -/
theorem ofText_intercalate_text_iff (terms : List Term) :
    Term.ofText (", ".intercalate (terms.map text)) = .ok terms ↔ Rereads terms :=
  ⟨rereads_of_ofText, Rereads.ofText⟩

/-- Terms that were read from a text come back exactly when they call no matcher `c` and none of them
is a list without a name: all else that may keep terms from coming back is not read from any text. -/
theorem ofText_reread_iff {origin : String} {terms : List Term} (h : Term.ofText origin = .ok terms) :
    Term.ofText (", ".intercalate (terms.map text)) = .ok terms ↔
      ∀ t ∈ terms, t.expr.Every Expr.NoListCall ∧ (t.name = none → ∀ items, t.expr ≠ .list items) := by
  have hproper := proper_of_ofText h
  constructor
  · intro hback t ht
    have hr := rereads_of_ofText hback
    exact ⟨hr.calls t ht, hr.lists t ht⟩
  · intro hc
    apply Rereads.ofText
    refine ⟨?_, ?_, fun t ht => (hc t ht).1, fun t ht => (hc t ht).2, writtenNesting_of_ofText h⟩
    · exact fun t ht => ⟨(hproper t ht).1, (hproper t ht).2.imp fun _ he => he.named⟩
    · exact fun t ht => (hproper t ht).2.imp fun _ he => he.unsigned

/-- A list in a list is read as a list without a name, so one pair of parentheses is not written. -/
theorem ofText_reread_iff_nested :
    Term.ofText "c(c(a))" = .ok [⟨none, .list [.column "a"]⟩] ∧
      (Term.ofText (", ".intercalate ([⟨none, .list [.column "a"]⟩].map text)) =
          .ok [⟨none, .list [.column "a"]⟩] ↔
        ∀ t ∈ [(⟨none, .list [.column "a"]⟩ : Term)],
          t.expr.Every Expr.NoListCall ∧ (t.name = none → ∀ items, t.expr ≠ .list items)) := by
  have hread : Term.ofText "c(c(a))" = .ok [⟨none, .list [.column "a"]⟩] := rfl
  exact ⟨hread, ofText_reread_iff hread⟩

/-- Not all that is read from a text comes back. -/
theorem ofText_not_reread :
    ¬ ∀ origin terms, Term.ofText origin = .ok terms →
      Term.ofText (", ".intercalate (terms.map text)) = .ok terms := by
  intro h
  have hlist := h "c(c(a))" [⟨none, .list [.column "a"]⟩] rfl
  have hcolumn : Term.ofText (", ".intercalate ([⟨none, .list [.column "a"]⟩].map text)) =
      .ok [⟨none, .column "a"⟩] := rfl
  rw [hcolumn] at hlist
  cases hlist

end Term

end ColumnSelect
