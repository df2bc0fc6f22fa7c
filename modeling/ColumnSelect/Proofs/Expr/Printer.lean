/-
The written form of an expression as a derivation. Every expression has one derivation of its written
form (`Expr.written`): the written form consists of the tokens of this derivation (`writes_render`),
its levels are the nesting of the written form (`levels_written`), and it stands for the expression
unless that has a negative number or calls a matcher `c` (`expr_written`).
-/
import ColumnSelect.Proofs.Expr.Every
import ColumnSelect.Proofs.Term.Grammar
import ColumnSelect.Proofs.Token.Printer

namespace ColumnSelect

namespace Grammar

/-- A name, in quotes where it cannot be written bare. -/
def Name.of (text : String) : Name := ⟨text, !Text.isBareName text.toList⟩

/-- A derivation of `primary` for a derivation of `expr`, in parentheses where these are needed. -/
def ExprTree.asPrimary : ExprTree → PrimaryTree
  | .single p => p
  | d => .group d

theorem Name.of_eq_list {text : String} : Name.of text = .list ↔ text = "c" := by
  constructor
  · intro h
    exact congrArg Name.text h
  · rintro rfl
    decide +kernel

theorem ExprTree.expr_asPrimary (d : ExprTree) : d.asPrimary.expr = d.expr := by
  cases d <;> simp [asPrimary, ExprTree.expr, PrimaryTree.expr]

theorem ExprTree.plain_asPrimary (d : ExprTree) : d.asPrimary.Plain ↔ d.Plain := by
  cases d <;> simp [asPrimary, ExprTree.Plain, PrimaryTree.Plain]

end Grammar

open Grammar

/-! ## The derivation of a written form -/

mutual

/-- The derivation of the written form of an expression. -/
def Expr.written : Expr → ExprTree
  | .column name => .single (.name (.of name))
  | .int value =>
    let number := .single (.number (Int64.ofNat value.toInt.natAbs))
    if value.toInt < 0 then .negated number else number
  | .str text => .single (.str text)
  | .bool value => .single (.bool value)
  | .range first last => .range first.written.asPrimary last.written.asPrimary
  | .negate inner => .negated inner.written
  | .call function args => .single (.application (.of function) (Arg.writtenAll args))
  | .list items => .single (.application .list (Expr.writtenAll items))

/-- The derivations of the written forms of the items of a list. -/
def Expr.writtenAll : List Expr → List ArgTree
  | [] => []
  | e :: es => .mk none e.written :: Expr.writtenAll es

/-- The derivation of the written form of an argument. -/
def Arg.written : Arg → ArgTree
  | .mk name value => .mk (name.map Name.of) value.written

/-- The derivations of the written forms of some arguments. -/
def Arg.writtenAll : List Arg → List ArgTree
  | [] => []
  | a :: as => a.written :: Arg.writtenAll as

end

theorem Expr.writtenAll_eq (es : List Expr) : Expr.writtenAll es = es.map fun e => .mk none e.written := by
  induction es with
  | nil => rfl
  | cons e es ih => rw [Expr.writtenAll, ih, List.map_cons]

theorem Arg.writtenAll_eq (as : List Arg) :
    Arg.writtenAll as = as.map fun a => .mk (a.name.map Name.of) a.value.written := by
  induction as with
  | nil => rfl
  | cons a as ih =>
    obtain ⟨name, value⟩ := a
    rw [Arg.writtenAll, ih, List.map_cons]
    rfl

/-- The derivation of the written form of a term. -/
def Term.written (t : Term) : TermTree := ⟨t.name.map Name.of, t.expr.written⟩

/-- A primary expression is written without parentheses as the end of a range. -/
theorem Expr.written_of_isPrimary {e : Expr} (h : e.isPrimary = true) :
    e.written.asPrimary.tokens = e.written.tokens := by
  cases e with
  | int value =>
    simp only [isPrimary, decide_eq_true_eq] at h
    rw [written, if_neg (by omega)]
    rfl
  | range first last => cases h
  | negate inner => cases h
  | _ => rfl

theorem Expr.written_of_not_isPrimary {e : Expr} (h : e.isPrimary = false) :
    e.written.asPrimary = .group e.written := by
  cases e with
  | int value =>
    simp only [isPrimary, decide_eq_false_iff_not] at h
    rw [written, if_pos (by omega)]
    rfl
  | range first last => rfl
  | negate inner => rfl
  | _ => cases h

/-! ## Tokens -/

theorem writes_int {value : Int64} (h : value.toInt.natAbs ≤ Token.maxNumber) :
    Writes (renderInt value) (Expr.written (.int value)).tokens := by
  have hd := writes_toDigits h
  unfold renderInt Expr.written
  split
  · exact hd.punctuation rfl
  · exact hd

theorem Writes.parens {text : List Char} {tokens : List Token} (h : Writes text tokens) :
    Writes ('(' :: text ++ [')']) (.openParen :: (tokens ++ [.closeParen])) := by
  have hclose : Writes [')'] [.closeParen] := writes_nil.punctuation rfl
  exact (h.append hclose (by decide)).punctuation rfl

theorem writes_end {e : Expr} (h : Writes e.render e.written.tokens) :
    Writes (if e.isPrimary then e.render else '(' :: e.render ++ [')']) e.written.asPrimary.tokens := by
  split
  · rename_i hp
    rw [Expr.written_of_isPrimary hp]
    exact h
  · rename_i hp
    rw [Expr.written_of_not_isPrimary (Bool.eq_false_iff.2 hp)]
    exact h.parens

theorem writes_binding {name : Option String} (hn : name ≠ some "") {text : List Char}
    {tokens : List Token} (h : Writes text tokens) :
    Writes (renderBinding name ++ text) (bindingTokens (name.map Name.of) ++ tokens) := by
  cases name with
  | none => exact h
  | some name =>
    have hname : Writes (renderName name) [(Name.of name).token] :=
      writes_renderName fun he => hn (congrArg some he)
    have he : Writes (' ' :: '=' :: ' ' :: text) (.equals :: tokens) := (h.blank.punctuation rfl).blank
    simpa [renderBinding, bindingTokens] using hname.append he (by decide)

/-- Texts are written one behind the other, with commas between them. -/
theorem writes_joinTexts {texts : List (List Char)} {tokens : List (List Token)}
    (h : List.Forall₂ Writes texts tokens) : Writes (joinTexts texts) ([.comma].intercalate tokens) := by
  induction h with
  | nil => exact writes_nil
  | @cons text ts texts tokens ht h ih =>
    cases h with
    | nil => simpa [joinTexts] using ht
    | @cons text' ts' texts tokens hu h =>
      have hc : Writes (',' :: ' ' :: joinTexts (text' :: texts))
          (.comma :: [.comma].intercalate (ts' :: tokens)) := ih.blank.punctuation rfl
      simpa [joinTexts] using ht.append hc (by decide)

/-- A name in front of arguments in parentheses. -/
theorem writes_application {name : List Char} {f : Name} (hf : Writes name [f.token])
    {texts : List (List Char)} {args : List ArgTree}
    (h : List.Forall₂ Writes texts (ArgTree.tokensAll args)) :
    Writes (name ++ '(' :: joinTexts texts ++ [')']) (PrimaryTree.application f args).tokens := by
  have hargs := hf.append (writes_joinTexts h).parens (by decide)
  simpa [PrimaryTree.tokens] using hargs

mutual

/-- The written form of an expression consists of the tokens of its derivation. -/
theorem Expr.writes_render : ∀ (e : Expr), e.Every Expr.Writable → Writes e.render e.written.tokens
  | .column _, h => writes_renderName (Expr.named_column.1 h.named)
  | .int value, h => writes_int (h.fits value rfl)
  | .str text, _ => writes_renderString text
  | .bool value, _ => writes_bool value
  | .range first last, h => by
    have hfirst := writes_end (Expr.writes_render first h.2.1)
    have hlast := writes_end (Expr.writes_render last h.2.2)
    have hcolon : Writes (':' :: _) (.colon :: _) := hlast.punctuation rfl
    exact hfirst.append hcolon (by decide)
  | .negate inner, h => (Expr.writes_render inner h.2).punctuation rfl
  | .call function args, h => by
    obtain ⟨hf, ha⟩ := Expr.named_call.1 h.1.named
    have hname : Writes (renderName function) [(Name.of function).token] := writes_renderName hf
    exact writes_application hname (Arg.writes_renderAll args h.2 ha)
  | .list items, h => by
    have hc : Writes ['c'] [Name.list.token] := writes_word (by decide) (by simp)
    exact writes_application hc (Expr.writes_renderAll items h.2)

theorem Expr.writes_renderAll : ∀ (es : List Expr), Expr.EveryAll Expr.Writable es →
    List.Forall₂ Writes (Expr.renderAll es) (ArgTree.tokensAll (Expr.writtenAll es))
  | [], _ => .nil
  | e :: es, h => .cons (Expr.writes_render e h.1) (Expr.writes_renderAll es h.2)

theorem Arg.writes_render : ∀ (a : Arg), a.Every Expr.Writable → a.name ≠ some "" →
    Writes a.render a.written.tokens
  | .mk _ value, h, hn => writes_binding hn (Expr.writes_render value h)

theorem Arg.writes_renderAll : ∀ (as : List Arg), Arg.EveryAll Expr.Writable as →
    (∀ a ∈ as, a.name ≠ some "") →
    List.Forall₂ Writes (Arg.renderAll as) (ArgTree.tokensAll (Arg.writtenAll as))
  | [], _, _ => .nil
  | a :: as, h, hn =>
    .cons (Arg.writes_render a h.1 (hn a (by simp)))
      (Arg.writes_renderAll as h.2 fun b hb => hn b (.tail _ hb))

end

/-! ## Levels -/

theorem written_int_of_unsigned {value : Int64} (h : (Expr.int value).Unsigned) :
    (Expr.int value).written = .single (.number value) := by
  have hv := h value rfl
  have hn : Int64.ofNat value.toInt.natAbs = value := by
    have hlt := value.toInt_lt
    rw [← Int64.toInt_inj, Int64.toInt_ofNat_of_lt (by omega)]
    omega
  rw [Expr.written, if_neg (by omega), hn]

/-- Parentheses open one level more. -/
theorem levels_asPrimary {e : Expr} (hu : e.Every Expr.Unsigned) (h : e.written.levels = e.writtenNesting) :
    e.written.asPrimary.levels + 1 = e.writtenNesting + if e.grouped then 1 else 0 := by
  rw [← h]
  cases e with
  | int value => rw [written_int_of_unsigned hu]; rfl
  | _ => rfl

mutual

/-- Without negative numbers, the derivation of the written form has as many levels as that nests. -/
theorem Expr.levels_written : ∀ (e : Expr), e.Every Expr.Unsigned → e.written.levels = e.writtenNesting
  | .column _, _ => rfl
  | .int _, h => by rw [written_int_of_unsigned h]; rfl
  | .str _, _ => rfl
  | .bool _, _ => rfl
  | .range first last, h => by
    have hfirst := levels_asPrimary h.2.1 (Expr.levels_written first h.2.1)
    have hlast := levels_asPrimary h.2.2 (Expr.levels_written last h.2.2)
    rw [Expr.written, ExprTree.levels, Expr.writtenNesting]
    omega
  | .negate inner, h => by
    rw [Expr.written, ExprTree.levels, Expr.writtenNesting, Expr.levels_written inner h.2]
  | .call _ args, h => by
    rw [Expr.written, ExprTree.levels, PrimaryTree.levels, Expr.writtenNesting, Arg.levels_writtenAll args h.2]
  | .list items, h => by
    rw [Expr.written, ExprTree.levels, PrimaryTree.levels, Expr.writtenNesting,
      Expr.levels_writtenAll items h.2]

theorem Expr.levels_writtenAll : ∀ (es : List Expr), Expr.EveryAll Expr.Unsigned es →
    ArgTree.levelsAll (Expr.writtenAll es) = Expr.writtenNestingAll es
  | [], _ => rfl
  | e :: es, h => by
    rw [Expr.writtenAll, ArgTree.levelsAll, ArgTree.levels, Expr.writtenNestingAll,
      Expr.levels_written e h.1, Expr.levels_writtenAll es h.2]

theorem Arg.levels_written : ∀ (a : Arg), a.Every Expr.Unsigned → a.written.levels = a.writtenNesting
  | .mk _ value, h => Expr.levels_written value h

theorem Arg.levels_writtenAll : ∀ (as : List Arg), Arg.EveryAll Expr.Unsigned as →
    ArgTree.levelsAll (Arg.writtenAll as) = Arg.writtenNestingAll as
  | [], _ => rfl
  | a :: as, h => by
    rw [Arg.writtenAll, ArgTree.levelsAll, Arg.writtenNestingAll, Arg.levels_written a h.1,
      Arg.levels_writtenAll as h.2]

end

/-! ## What the written form stands for -/

mutual

/-- Without negative numbers and calls of a matcher `c`, the written form stands for the expression. -/
theorem Expr.expr_written : ∀ (e : Expr), e.Every Expr.Unsigned → e.Every Expr.NoListCall →
    e.written.expr = e
  | .column _, _, _ => rfl
  | .int _, hu, _ => by rw [written_int_of_unsigned hu]; rfl
  | .str _, _, _ => rfl
  | .bool _, _, _ => rfl
  | .range first last, hu, hc => by
    rw [Expr.written, ExprTree.expr, ExprTree.expr_asPrimary, ExprTree.expr_asPrimary,
      Expr.expr_written first hu.2.1 hc.2.1, Expr.expr_written last hu.2.2 hc.2.2]
  | .negate inner, hu, hc => by rw [Expr.written, ExprTree.expr, Expr.expr_written inner hu.2 hc.2]
  | .call function args, hu, hc => by
    -- only the bare `c` is read as a list, and a name is bare where it can be
    have hf : Name.of function ≠ .list := fun h => hc.1 args (by rw [Name.of_eq_list.1 h])
    rw [Expr.written, ExprTree.expr, PrimaryTree.expr, if_neg hf, Arg.args_writtenAll args hu.2 hc.2]
    rfl
  | .list items, hu, hc => by
    rw [Expr.written, ExprTree.expr, PrimaryTree.expr, if_pos rfl, Expr.args_writtenAll items hu.2 hc.2]
    simp [Function.comp_def]

theorem Expr.args_writtenAll : ∀ (es : List Expr), Expr.EveryAll Expr.Unsigned es →
    Expr.EveryAll Expr.NoListCall es → ArgTree.args (Expr.writtenAll es) = es.map (.mk none ·)
  | [], _, _ => rfl
  | e :: es, hu, hc => by
    rw [Expr.writtenAll, ArgTree.args, ArgTree.arg, Expr.expr_written e hu.1 hc.1,
      Expr.args_writtenAll es hu.2 hc.2]
    rfl

theorem Arg.arg_written : ∀ (a : Arg), a.Every Expr.Unsigned → a.Every Expr.NoListCall → a.written.arg = a
  | .mk name value, hu, hc => by
    rw [Arg.written, ArgTree.arg, Expr.expr_written value hu hc]
    cases name <;> rfl

theorem Arg.args_writtenAll : ∀ (as : List Arg), Arg.EveryAll Expr.Unsigned as →
    Arg.EveryAll Expr.NoListCall as → ArgTree.args (Arg.writtenAll as) = as
  | [], _, _ => rfl
  | a :: as, hu, hc => by
    rw [Arg.writtenAll, ArgTree.args, Arg.arg_written a hu.1 hc.1, Arg.args_writtenAll as hu.2 hc.2]

end

theorem Arg.binding_writtenAll {args : List Arg} (h : ∀ a ∈ args, a.name = none) :
    ∀ a ∈ Arg.writtenAll args, a.binding = none := by
  simpa [Arg.writtenAll_eq, ArgTree.binding] using h

mutual

/-- Without a named argument in a call of a matcher `c`, no list of the written form has a named item. -/
theorem Expr.plain_written : ∀ (e : Expr), e.Every Expr.UnnamedItems → e.written.Plain
  | .column _, _ => trivial
  | .int value, _ => by
    rw [Expr.written]
    split <;> trivial
  | .str _, _ => trivial
  | .bool _, _ => trivial
  | .range first last, h =>
    ⟨(ExprTree.plain_asPrimary _).2 (Expr.plain_written first h.2.1),
      (ExprTree.plain_asPrimary _).2 (Expr.plain_written last h.2.2)⟩
  | .negate inner, h => Expr.plain_written inner h.2
  | .call function args, h =>
    ⟨fun hf => Arg.binding_writtenAll (h.1 args (by rw [Name.of_eq_list.1 hf])),
      Arg.plain_writtenAll args h.2⟩
  | .list items, h =>
    ⟨fun _ => by simp [Expr.writtenAll_eq, ArgTree.binding], Expr.plain_writtenAll items h.2⟩

theorem Expr.plain_writtenAll : ∀ (es : List Expr), Expr.EveryAll Expr.UnnamedItems es →
    ArgTree.PlainAll (Expr.writtenAll es)
  | [], _ => trivial
  | e :: es, h => ⟨Expr.plain_written e h.1, Expr.plain_writtenAll es h.2⟩

theorem Arg.plain_written : ∀ (a : Arg), a.Every Expr.UnnamedItems → a.written.Plain
  | .mk _ value, h => Expr.plain_written value h

theorem Arg.plain_writtenAll : ∀ (as : List Arg), Arg.EveryAll Expr.UnnamedItems as →
    ArgTree.PlainAll (Arg.writtenAll as)
  | [], _ => trivial
  | a :: as, h => ⟨Arg.plain_written a h.1, Arg.plain_writtenAll as h.2⟩

end

mutual

/-- The written form stands for no call of a matcher `c`. -/
theorem Expr.noListCall_written : ∀ (e : Expr), e.written.expr.Every Expr.NoListCall
  | .column _ => fun _ => nofun
  | .int value => by
    rw [Expr.written]
    split
    · exact ⟨fun _ => nofun, fun _ => nofun⟩
    · exact fun _ => nofun
  | .str _ => fun _ => nofun
  | .bool _ => fun _ => nofun
  | .range first last => by
    rw [Expr.written, ExprTree.expr, ExprTree.expr_asPrimary, ExprTree.expr_asPrimary]
    exact ⟨fun _ => nofun, Expr.noListCall_written first, Expr.noListCall_written last⟩
  | .negate inner => ⟨fun _ => nofun, Expr.noListCall_written inner⟩
  | .call function args => by
    rw [Expr.written, ExprTree.expr, PrimaryTree.expr]
    have hargs := Arg.noListCall_writtenAll args
    split
    · exact ⟨fun _ => nofun, Expr.everyAll_map_value hargs⟩
    · rename_i hf
      refine ⟨?_, hargs⟩
      intro as h
      exact hf (Name.of_eq_list.2 (Expr.call.inj h).1)
  | .list items => by
    rw [Expr.written, ExprTree.expr, PrimaryTree.expr, if_pos rfl]
    exact ⟨fun _ => nofun, Expr.everyAll_map_value (Expr.noListCall_writtenAll items)⟩

theorem Expr.noListCall_writtenAll : ∀ (es : List Expr),
    Arg.EveryAll Expr.NoListCall (ArgTree.args (Expr.writtenAll es))
  | [] => trivial
  | e :: es => ⟨Expr.noListCall_written e, Expr.noListCall_writtenAll es⟩

theorem Arg.noListCall_written : ∀ (a : Arg), a.written.arg.Every Expr.NoListCall
  | .mk _ value => Expr.noListCall_written value

theorem Arg.noListCall_writtenAll : ∀ (as : List Arg),
    Arg.EveryAll Expr.NoListCall (ArgTree.args (Arg.writtenAll as))
  | [] => trivial
  | a :: as => ⟨Arg.noListCall_written a, Arg.noListCall_writtenAll as⟩

end

end ColumnSelect
