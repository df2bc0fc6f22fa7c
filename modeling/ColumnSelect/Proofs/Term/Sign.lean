/-
Terms with negative numbers written and read again. A term with a name comes back from its text with the signs
of its numbers apart, and means the same, unless it has the least number. Without its sign that is a number too
large to be read, and then nothing is read at all: every number of an expression has to be read for the text
behind it to be (`ReadsOnlyIf`, `notLeast_of_render`). Main statement: `Term.ofText_signApart`.
-/
import ColumnSelect.Pattern.Standard
import ColumnSelect.Proofs.Expr.Sign
import ColumnSelect.Proofs.Term.RoundTrip
import ColumnSelect.Proofs.Token.Cut

namespace ColumnSelect

open Token

/-! ## Texts that can be read -/

/-- The text can be read, in front of whatever does not go on with it, only if the condition holds. -/
def ReadsOnlyIf (text : List Char) (P : Prop) : Prop := ∀ rest, Clear rest → Lexable (text ++ rest) → P

section

variable {P : Prop} {text others : List Char} {c : Char}

theorem ReadsOnlyIf.punctuation {t : Token} (hc : punctuation? c = some t) (h : ReadsOnlyIf text P) :
    ReadsOnlyIf (c :: text) P :=
  fun rest hr hl => h rest hr (lexable_of_punctuation hc hl)

theorem ReadsOnlyIf.blank (h : ReadsOnlyIf text P) : ReadsOnlyIf (' ' :: text) P :=
  fun rest hr hl => h rest hr (lexable_of_blank hl)

/-- The condition is asked for by the front of a text. -/
theorem ReadsOnlyIf.front (h : ReadsOnlyIf text P) (hc : Text.isNamePart c = false) :
    ReadsOnlyIf (text ++ c :: others) P := by
  intro rest _ hl
  rw [List.append_assoc] at hl
  exact h _ (clear_cons hc _) hl

/-- The condition is asked for behind other tokens. -/
theorem ReadsOnlyIf.behind {tokens : List Token} (hw : Writes text tokens) (hc : Text.isNamePart c = false)
    (h : ReadsOnlyIf (c :: others) P) : ReadsOnlyIf (text ++ c :: others) P := by
  intro rest hr hl
  rw [List.append_assoc] at hl
  exact h rest hr (hw.lexable (clear_cons hc _) hl)

theorem ReadsOnlyIf.parens (h : ReadsOnlyIf text P) : ReadsOnlyIf ('(' :: text ++ [')']) P :=
  (h.front (by decide)).punctuation rfl

end

/-- Texts one behind the other can be read only if the condition of each holds. -/
theorem readsOnlyIf_joinTexts {α : Type} {text : α → List Char} {P : α → Prop} {as : List α}
    (hread : ∀ a ∈ as, ReadsOnlyIf (text a) (P a)) (hwrite : ∀ a ∈ as, P a → ∃ tokens, Writes (text a) tokens) :
    ReadsOnlyIf (joinTexts (as.map text)) (∀ a ∈ as, P a) := by
  induction as with
  | nil => exact fun _ _ _ => List.forall_mem_nil P
  | cons a as ih =>
    obtain ⟨ha, has⟩ := List.forall_mem_cons.1 hread
    obtain ⟨hwa, hwas⟩ := List.forall_mem_cons.1 hwrite
    intro rest hr hl
    cases as with
    | nil =>
      rw [List.map_singleton, joinTexts] at hl
      exact List.forall_mem_cons.2 ⟨ha rest hr hl, List.forall_mem_nil P⟩
    | cons b as =>
      have hl : Lexable (text a ++ ',' :: ' ' :: joinTexts ((b :: as).map text) ++ rest) := hl
      have hfirst : P a := ha.front (by decide) rest hr hl
      obtain ⟨tokens, hw⟩ := hwa hfirst
      have hothers : ∀ x ∈ b :: as, P x :=
        ReadsOnlyIf.behind hw (by decide) ((ih has hwas).blank.punctuation rfl) rest hr hl
      exact List.forall_mem_cons.2 ⟨hfirst, hothers⟩

/-! ## Expressions without the least number -/

namespace Expr

theorem writable_of_notLeast {e : Expr} (hn : e.Every Named) (hl : e.Every NotLeast) : e.Every Writable := by
  refine Every.imp₂ (fun e hn hl => ⟨hn, fun value hv => ?_⟩) e hn hl
  rw [natAbs_le_maxNumber_iff]
  rintro rfl
  exact hl hv

theorem notLeast_of_renderInt (value : Int64) : ReadsOnlyIf (renderInt value) (value ≠ Int64.minValue) := by
  have hdigits : ReadsOnlyIf (Nat.toDigits 10 value.toInt.natAbs) (value ≠ Int64.minValue) :=
    fun _ hr hl => natAbs_le_maxNumber_iff.1 (le_maxNumber_of_lexable hr hl)
  rw [renderInt]
  split
  · exact hdigits.punctuation rfl
  · exact hdigits

theorem readsOnlyIf_end {P : Prop} {e : Expr} (h : ReadsOnlyIf e.render P) :
    ReadsOnlyIf (if e.isPrimary then e.render else '(' :: e.render ++ [')']) P := by
  split
  · exact h
  · exact h.parens

theorem readsOnlyIf_binding {P : Prop} {name : Option String} (hn : name ≠ some "") {text : List Char}
    (h : ReadsOnlyIf text P) : ReadsOnlyIf (renderBinding name ++ text) P := by
  cases name with
  | none => exact h
  | some name =>
    have hname : Writes (renderName name) [.name name (!Text.isBareName name.toList)] :=
      writes_renderName fun he => hn (congrArg some he)
    have hbound := ReadsOnlyIf.behind hname (by decide) ((h.blank.punctuation (c := '=') rfl).blank)
    simpa [renderBinding] using hbound

/-- The written form of an expression is read only where it has no least number. -/
theorem notLeast_of_render {e : Expr} (hn : e.Every Named) : ReadsOnlyIf e.render (e.Every NotLeast) := by
  induction e using ind with
  | int value => exact fun rest hr hl he => notLeast_of_renderInt value rest hr hl (Expr.int.inj he)
  | range first last hfirst hlast =>
    intro rest hr hl
    -- once the first end can be written, the text is cut behind it
    have hf : first.Every NotLeast := (readsOnlyIf_end (hfirst hn.2.1)).front (by decide) rest hr hl
    have hw := writes_end (writes_render first (writable_of_notLeast hn.2.1 hf))
    have hcolon : ReadsOnlyIf (':' :: _) _ := (readsOnlyIf_end (hlast hn.2.2)).punctuation rfl
    exact ⟨notLeast_of_ne_int (by simp), hf, hcolon.behind hw (by decide) rest hr hl⟩
  | negate inner hinner =>
    have hminus : ReadsOnlyIf ('-' :: inner.render) _ := (hinner hn.2).punctuation rfl
    exact fun rest hr hl => ⟨notLeast_of_ne_int (by simp), hminus rest hr hl⟩
  | call function args hargs =>
    obtain ⟨hf, ha⟩ := named_call.1 hn.1
    have hnames := everyAll_args_iff.1 hn.2
    have hread : ∀ a ∈ args, ReadsOnlyIf (renderBinding a.name ++ a.value.render) (a.value.Every NotLeast) :=
      fun a hmem => readsOnlyIf_binding (ha a hmem) (hargs a hmem (hnames a hmem))
    have hwrite : ∀ a ∈ args, a.value.Every NotLeast →
        ∃ tokens, Writes (renderBinding a.name ++ a.value.render) tokens := by
      intro a hmem hl
      exact ⟨_, writes_binding (ha a hmem) (writes_render a.value (writable_of_notLeast (hnames a hmem) hl))⟩
    have hjoin := readsOnlyIf_joinTexts hread hwrite
    rw [← Arg.renderAll_eq] at hjoin
    have hcall := hjoin.parens.behind (writes_renderName hf) (by decide)
    rw [render, List.append_assoc]
    exact fun rest hr hl => ⟨notLeast_of_ne_int (by simp), everyAll_args_iff.2 (hcall rest hr hl)⟩
  | list items hitems =>
    have hnames := everyAll_iff.1 hn.2
    have hwrite : ∀ e ∈ items, e.Every NotLeast → ∃ tokens, Writes e.render tokens :=
      fun e hmem hl => ⟨_, writes_render e (writable_of_notLeast (hnames e hmem) hl)⟩
    have hjoin := readsOnlyIf_joinTexts (fun e hmem => hitems e hmem (hnames e hmem)) hwrite
    rw [← renderAll_eq] at hjoin
    have hc : Writes ['c'] [wordToken ['c']] := writes_word (by decide) (by simp)
    have hlist := hjoin.parens.behind hc (by decide)
    exact fun rest hr hl => ⟨notLeast_of_ne_int (by simp), everyAll_iff.2 (hlist rest hr hl)⟩
  | _ => exact fun _ _ _ => notLeast_of_ne_int (by simp)

end Expr

/-! ## Terms -/

namespace Term

theorem evaluate_signApart [Pattern.Engine] {name : Option String} {e : Expr} (hl : e.Every Expr.NotLeast)
    (hn : e.signApart.nesting ≤ maxNesting) (catalog : Catalog) :
    (⟨name, e.signApart⟩ : Term).evaluate catalog = (⟨name, e⟩ : Term).evaluate catalog := by
  have hcheck : e.signApart.checkDepth = e.checkDepth := by
    rw [Expr.checkDepth_eq_ok_iff.2 hn, Expr.checkDepth_eq_ok_iff.2 (Nat.le_trans e.nesting_le_signApart hn)]
  unfold Term.evaluate
  simp only [hcheck, Expr.eval_signApart hl, Expr.text_signApart hl]

theorem ofText_text_of_notLeast {name : String} (hname : name ≠ "") {e : Expr} (hnamed : e.Every Expr.Named)
    (hcalls : e.Every Expr.NoListCall) (hnesting : e.signApart.writtenNesting ≤ maxNesting)
    (hl : e.Every Expr.NotLeast) : Term.ofText (text ⟨some name, e⟩) = .ok [⟨some name, e.signApart⟩] := by
  have htext : ", ".intercalate ([⟨some name, e.signApart⟩].map text) = text ⟨some name, e⟩ := by
    show text _ = _
    rw [text, text, render, render, Expr.render_signApart hl]
  rw [← htext]
  apply Rereads.ofText
  constructor <;> refine List.forall_mem_singleton.2 ?_
  · exact ⟨fun he => hname (Option.some.inj he), Expr.named_signApart hnamed⟩
  · exact Expr.unsigned_signApart hl
  · exact Expr.noListCall_signApart hcalls
  · exact fun hn => absurd hn (Option.some_ne_none name)
  · exact hnesting

theorem notLeast_of_ofText {name : String} (hname : name ≠ "") {e : Expr} (hnamed : e.Every Expr.Named)
    {terms : List Term} (h : Term.ofText (text ⟨some name, e⟩) = .ok terms) : e.Every Expr.NotLeast := by
  obtain ⟨tokens, -, hl, -⟩ := ofText_iff_derives.1 h
  have hterm : ReadsOnlyIf (render ⟨some name, e⟩) (e.Every Expr.NotLeast) :=
    Expr.readsOnlyIf_binding (fun he => hname (Option.some.inj he)) (Expr.notLeast_of_render hnamed)
  refine hterm [] clear_nil ⟨tokens, ?_⟩
  rw [text, String.toList_ofList] at hl
  rwa [List.append_nil]

/-- A term with a name and no call of `c` whose written form does not nest too deep can be read from its text
exactly when it does not have the least number. Then it is read with the sign of each negative number apart, and
its expression evaluates to the same value over every catalog, or fails with the same error. -/
theorem ofText_signApart [Pattern.Engine] {name : String} (hname : name ≠ "") {e : Expr} (hnamed : e.Every Expr.Named)
    (hcalls : e.Every Expr.NoListCall) (hnesting : e.signApart.writtenNesting ≤ maxNesting) :
    ((∃ terms, Term.ofText (text ⟨some name, e⟩) = .ok terms) ↔ e.Every Expr.NotLeast) ∧
      (e.Every Expr.NotLeast →
        Term.ofText (text ⟨some name, e⟩) = .ok [⟨some name, e.signApart⟩] ∧
          ∀ catalog, e.signApart.eval catalog = e.eval catalog ∧
            (⟨some name, e.signApart⟩ : Term).evaluate catalog = (⟨some name, e⟩ : Term).evaluate catalog) := by
  have hread := ofText_text_of_notLeast hname hnamed hcalls hnesting
  have hdeep : e.signApart.nesting ≤ maxNesting := Nat.le_trans e.signApart.nesting_le_writtenNesting hnesting
  refine ⟨⟨fun ⟨terms, h⟩ => notLeast_of_ofText hname hnamed h, fun hl => ⟨_, hread hl⟩⟩, fun hl => ⟨hread hl, ?_⟩⟩
  exact fun catalog => ⟨Expr.eval_signApart hl, evaluate_signApart hl hdeep catalog⟩

/-- Negative numbers that end a range in an argument are read as negations, and make the same names. -/
theorem ofText_signApart_ends :
    Term.ofText "x = num_range(\"q\", (-6):(-5))" =
        .ok [⟨some "x", .call "num_range" [.mk none (.str "q"), .mk none (.range (.negate (.int 6)) (.negate (.int 5)))]⟩] ∧
      ∀ catalog,
        (⟨some "x", .call "num_range" [.mk none (.str "q"), .mk none (.range (.negate (.int 6)) (.negate (.int 5)))]⟩ :
          Term).evaluate catalog =
        (⟨some "x", .call "num_range" [.mk none (.str "q"), .mk none (.range (.int (-6)) (.int (-5)))]⟩ :
          Term).evaluate catalog := by
  have hnamed : (Expr.call "num_range" [.mk none (.str "q"), .mk none (.range (.int (-6)) (.int (-5)))]).Every
      Expr.Named := by
    simp [Expr.Every, Arg.EveryAll, Arg.Every, Expr.Named, Expr.names]
  have hcalls : (Expr.call "num_range" [.mk none (.str "q"), .mk none (.range (.int (-6)) (.int (-5)))]).Every
      Expr.NoListCall := by
    simp [Expr.Every, Arg.EveryAll, Arg.Every, Expr.NoListCall]
  have hleast : (Expr.call "num_range" [.mk none (.str "q"), .mk none (.range (.int (-6)) (.int (-5)))]).Every
      Expr.NotLeast := by
    simp [Expr.Every, Arg.EveryAll, Arg.Every, Expr.NotLeast]
  have hname : "x" ≠ "" := by decide
  obtain ⟨hread, hvalue⟩ := (ofText_signApart hname hnamed hcalls (by decide)).2 hleast
  exact ⟨hread, fun catalog => (hvalue catalog).2⟩

/-- The least number is not read back. -/
theorem not_ofText_signApart :
    ¬ ∀ (name : String) (e : Expr), name ≠ "" → e.Every Expr.Named → e.Every Expr.NoListCall →
      e.signApart.writtenNesting ≤ maxNesting → ∃ terms, Term.ofText (text ⟨some name, e⟩) = .ok terms := by
  intro h
  obtain ⟨terms, hread⟩ := h "x" (.int Int64.minValue) (by decide) nofun (fun _ => nofun) (by decide)
  -- without its sign the number is one too large
  have hfault : ∃ e, Term.ofText (text ⟨some "x", .int Int64.minValue⟩) = .error e := ⟨_, rfl⟩
  obtain ⟨e, hfault⟩ := hfault
  rw [hfault] at hread
  cases hread

end Term

end ColumnSelect
