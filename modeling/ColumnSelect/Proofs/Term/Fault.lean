/-
Where a text that is no selection is told to be none. A reader of the grammar leaves some of its lexemes behind what
it reads, or fails at the first of those it has not read, if only because there is none (`Confined`); the flaw names
the token found there (`TellsOf`). So a fault of the grammar is told at the start of a token or at the end of the
text, and any other at a character that begins no token or behind it (`FoundAt`). Main statement: no two boundaries
of a text have one line and column, and every error of a text has those of such a boundary (`ofText_error_position`).
-/
import ColumnSelect.Proofs.Term.Parser
import ColumnSelect.Proofs.Text.Position
import ColumnSelect.Proofs.Token.Fault

namespace ColumnSelect

open Text

/-- The flaw is one of the grammar, told where the token was found; `none` stands for the end of the text. -/
inductive Flaw.TellsOf (found : Option Token) : Flaw → Prop where
  | noExpression : TellsOf found (.noExpression found)
  | unclosedGroup : TellsOf found (.unclosedGroup found)
  | noTermEnd : TellsOf found (.noTermEnd found)
  | noArgumentEnd : TellsOf found (.noArgumentEnd found)
  | tooDeep : TellsOf found .tooDeep
  | namedElement (h : found = some (.name "c" false)) : TellsOf found .namedElement

namespace Parser

/-! ## Readers -/

/-- The fault is told at the first of some last ones of the lexemes, or at the end of the text. -/
def ToldIn (ls : List Lexeme) (m : Misreading) : Prop :=
  ∃ rest, rest <:+ ls ∧ m.place = place rest ∧ m.flaw.TellsOf (next rest)

/-- What a reader ends with that goes forward through these lexemes: it leaves the last ones, or fails at one. -/
def Within {α : Type} (ls : List Lexeme) : Except Misreading (α × List Lexeme) → Prop
  | .ok (_, rest) => rest <:+ ls
  | .error m => ToldIn ls m

/-- A reader goes forward through its lexemes, and fails at one of them or at their end. -/
def Confined {α : Type} (read : Reading α) : Prop := ∀ ls, Within ls (read ls)

section Outcomes

variable {α β : Type} {ls ls' : List Lexeme}

theorem ToldIn.mono {m : Misreading} (hs : ls <:+ ls') (h : ToldIn ls m) : ToldIn ls' m := by
  obtain ⟨rest, hrest, h⟩ := h
  exact ⟨rest, hrest.trans hs, h⟩

theorem toldIn_self {flaw : Flaw} (h : flaw.TellsOf (next ls)) : ToldIn ls ⟨place ls, flaw⟩ :=
  ⟨ls, List.suffix_rfl, rfl, h⟩

theorem Within.mono (hs : ls <:+ ls') {x : Except Misreading (α × List Lexeme)} (h : Within ls x) : Within ls' x := by
  cases x with
  | error m => exact ToldIn.mono hs h
  | ok r => exact List.IsSuffix.trans h hs

/-- A step that goes on from what another leaves. -/
theorem Within.bind {x : Except Misreading (α × List Lexeme)} (h : Within ls x)
    {f : α × List Lexeme → Except Misreading (β × List Lexeme)}
    (hf : ∀ a rest, rest <:+ ls → Within ls (f (a, rest))) : Within ls (x >>= f) := by
  cases x with
  | error m => exact h
  | ok r => exact hf r.1 r.2 h

/-- The lexeme in front is taken. -/
theorem Confined.behind {read : Reading α} (h : Confined read) {l : Lexeme} {rest : List Lexeme}
    (hs : l :: rest <:+ ls) : Within ls (read rest) :=
  (h rest).mono ((List.suffix_cons l rest).trans hs)

end Outcomes

theorem binding_suffix (ls : List Lexeme) : (binding ls).2 <:+ ls := by
  unfold binding
  split
  · rename_i rest
    exact ⟨[_, _], rfl⟩
  · exact List.suffix_rfl

theorem argList_confined {read : Reading Expr} (hr : Confined read) (fuel : Nat) : Confined (argList read fuel) := by
  induction fuel with
  | zero => exact fun ls => toldIn_self .noArgumentEnd
  | succ fuel ih =>
    intro ls
    unfold argList
    refine Within.bind ((hr _).mono (binding_suffix ls)) fun value rest hrest => ?_
    simp only
    split
    · exact Within.bind (ih.behind hrest) fun args rest' hrest' => hrest'
    · exact (List.suffix_cons _ _).trans hrest
    · exact (toldIn_self .noArgumentEnd).mono hrest

theorem args_confined {read : Reading Expr} (hr : Confined read) : Confined (Parser.args read) := by
  intro ls
  unfold Parser.args
  split
  · exact List.suffix_cons _ _
  · exact argList_confined hr _ _

/-- Only a bare `c` is refused with the arguments that were read, and at its own place. -/
theorem application_eq_error {start : Nat} {function : String} {quoted : Bool} {args : List Arg} {m : Misreading}
    (h : application start function quoted args = .error m) :
    m = ⟨some start, .namedElement⟩ ∧ Token.name function quoted = .name "c" false := by
  unfold application at h
  split at h
  · rename_i hc
    split at h
    · cases h
      simp only [Bool.and_eq_true, decide_eq_true_eq, Bool.not_eq_true'] at hc
      rw [hc.1, hc.2]
      exact ⟨rfl, rfl⟩
    · cases h
  · cases h

theorem primary_confined {read : Reading Expr} (hr : Confined read) : Confined (primary read) := by
  intro ls
  unfold primary
  split
  · rename_i function quoted start s more
    have hmore : more <:+ ⟨.name function quoted, start⟩ :: ⟨.openParen, s⟩ :: more := ⟨[_, _], rfl⟩
    have hargs := (args_confined hr more).mono hmore
    refine Within.bind hargs fun args rest hrest => ?_
    simp only
    cases happ : application start function quoted args with
    | ok e => exact hrest
    | error m =>
      -- the name that the arguments belong to is the first of the lexemes
      obtain ⟨rfl, hc⟩ := application_eq_error happ
      exact ⟨_, List.suffix_rfl, rfl, .namedElement (congrArg some hc)⟩
  iterate 4
    · exact List.suffix_cons _ _
  · refine Within.bind (hr.behind List.suffix_rfl) fun inner rest hrest => ?_
    simp only
    split
    · exact (List.suffix_cons _ _).trans hrest
    · exact (toldIn_self .unclosedGroup).mono hrest
  · exact toldIn_self .noExpression

theorem rangeOrPrimary_confined {read : Reading Expr} (hr : Confined read) : Confined (rangeOrPrimary read) := by
  intro ls
  refine Within.bind (primary_confined hr ls) fun first rest hrest => ?_
  simp only
  split
  · exact Within.bind ((primary_confined hr).behind hrest) fun last rest' hrest' => hrest'
  · exact hrest

theorem expr_confined (levels : Nat) : Confined (Parser.expr levels) := by
  induction levels with
  | zero => exact fun ls => toldIn_self .tooDeep
  | succ levels ih =>
    intro ls
    unfold Parser.expr
    simp only
    split
    · exact Within.bind (ih.behind List.suffix_rfl) fun inner rest hrest => hrest
    · exact rangeOrPrimary_confined ih _

theorem term_confined : Confined Parser.term := by
  intro ls
  exact Within.bind ((expr_confined maxNesting _).mono (binding_suffix ls)) fun e rest hrest => hrest

/-! ## Terms -/

theorem toldIn_of_termList {fuel : Nat} {ls : List Lexeme} {m : Misreading} (h : termList fuel ls = .error m) :
    ToldIn ls m := by
  induction fuel generalizing ls with
  | zero =>
    cases h
    exact toldIn_self .noTermEnd
  | succ fuel ih =>
    unfold termList at h
    have hterm := term_confined ls
    obtain h | ⟨⟨first, rest⟩, hf, h⟩ := bind_eq_error_iff.1 h
    · rw [h] at hterm
      exact hterm
    · rw [hf] at hterm
      have hrest : rest <:+ ls := hterm
      simp only at h
      split at h
      · cases h
      · obtain h | ⟨_, -, h⟩ := bind_eq_error_iff.1 h
        · exact (ih h).mono ((List.suffix_cons _ _).trans hrest)
        · cases h
      · cases h
        exact (toldIn_self .noTermEnd).mono hrest

theorem toldIn_of_terms {ls : List Lexeme} {m : Misreading} (h : Parser.terms ls = .error m) : ToldIn ls m := by
  unfold Parser.terms at h
  split at h
  · cases h
  · exact toldIn_of_termList h

end Parser

/-! ## Texts -/

/-- Lexemes stand in their text. -/
theorem Laid.start_lt {start : Nat} {text : List Char} {ls : List Lexeme} (h : Laid start text ls) :
    ∀ l ∈ ls, l.start < start + text.length := by
  induction h with
  | nil => exact List.forall_mem_nil _
  | @cons start word gap rest t ls hw hg he h ih =>
    obtain ⟨c, cs, rfl, -⟩ := hw
    refine List.forall_mem_cons.2 ⟨?_, fun l hl => ?_⟩
    · simp
    · rw [List.length_append, ← Nat.add_assoc]
      exact ih l hl

theorem start_lt_of_readAll {text : List Char} {ls : List Lexeme} (h : Lexeme.readAll text = .ok ls) :
    ∀ l ∈ ls, l.start < text.length := by
  obtain ⟨front, rest, rfl, -, hlaid⟩ := readAll_eq_ok_iff.1 h
  rw [List.length_append]
  exact hlaid.start_lt

/-- The flaw of a text is found at the boundary in front of so many characters. -/
inductive FoundAt (text : List Char) : Nat → Flaw → Prop where
  /-- At the start of a token that the grammar does not allow there. -/
  | token {ls : List Lexeme} {l : Lexeme} {flaw : Flaw} (h : Lexeme.readAll text = .ok ls) (hl : l ∈ ls)
      (hf : flaw.TellsOf (some l.token)) : FoundAt text l.start flaw
  /-- At the end, where the grammar needs another token. -/
  | textEnd {ls : List Lexeme} {flaw : Flaw} (h : Lexeme.readAll text = .ok ls) (hf : flaw.TellsOf none) :
      FoundAt text text.length flaw
  /-- At a character that begins no token, or at the one behind it that is why. -/
  | character {place : Nat} {flaw : Flaw} (h : StuckAt text place flaw) : FoundAt text place flaw

theorem FoundAt.le {text : List Char} {place : Nat} {flaw : Flaw} (h : FoundAt text place flaw) :
    place ≤ text.length := by
  cases h with
  | token h hl hf => exact Nat.le_of_lt (start_lt_of_readAll h _ hl)
  | textEnd h hf => exact Nat.le_refl _
  | character h => exact Nat.le_of_lt h.lt

theorem foundAt_of_readAll {text : List Char} {m : Misreading} (h : Term.readAll text = .error m) :
    FoundAt text (m.place.getD text.length) m.flaw := by
  obtain h | ⟨ls, hl, h⟩ := bind_eq_error_iff.1 h
  · obtain ⟨place, hplace, hstuck⟩ := stuckAt_of_readAll h
    rw [hplace]
    exact .character hstuck
  · obtain h | ⟨_, -, h⟩ := bind_eq_error_iff.1 h
    · obtain ⟨rest, hrest, hplace, hf⟩ := Parser.toldIn_of_terms h
      rw [hplace]
      cases rest with
      | nil => exact .textEnd hl hf
      | cons l rest => exact .token hl (hrest.subset (.head _)) hf
    · cases h

/-- Places increase strictly from boundary to boundary of a text, so a place is that of one boundary only; and a text
that is refused is refused at the place of a boundary, the start of a token or of the character at fault, or the end
of the text. -/
theorem Term.ofText_error_position (text : String) :
    (∀ i j, i < j → j ≤ text.toList.length → Position.ofOffset text.toList i < Position.ofOffset text.toList j) ∧
    (∀ i j, i ≤ text.toList.length → j ≤ text.toList.length →
      Position.ofOffset text.toList i = Position.ofOffset text.toList j → i = j) ∧
    ∀ e, Term.ofText text = .error e → ∃ place flaw,
      e = .ofCause (.parse (Position.ofOffset text.toList place) flaw) ∧ place ≤ text.toList.length ∧
        FoundAt text.toList place flaw := by
  refine ⟨fun i j => Position.ofOffset_lt, fun i j => Position.ofOffset_inj, fun e h => ?_⟩
  obtain ⟨m, hm, rfl⟩ := mapError_eq_error_iff.1 h
  have hfound := foundAt_of_readAll hm
  exact ⟨_, _, rfl, hfound.le, hfound⟩

/-- A line feed takes the column back and the place on, and an unknown escape in the line behind it is told at the
place of the backslash. -/
theorem Term.ofText_error_position_escape :
    Term.ofText "a\n, 'b\\q'" = .error (.ofCause (.parse ⟨2, 5⟩ (.unknownEscape 'q'))) ∧
      Position.ofOffset "a\n, 'b\\q'".toList 1 < Position.ofOffset "a\n, 'b\\q'".toList 2 ∧
      FoundAt "a\n, 'b\\q'".toList 6 (.unknownEscape 'q') := by
  have h : Term.ofText "a\n, 'b\\q'" = .error (.ofCause (.parse ⟨2, 5⟩ (.unknownEscape 'q'))) := rfl
  obtain ⟨hlt, hinj, herror⟩ := Term.ofText_error_position "a\n, 'b\\q'"
  refine ⟨h, hlt 1 2 (by decide) (by decide), ?_⟩
  obtain ⟨place, flaw, he, hle, hfound⟩ := herror _ h
  simp only [Error.ofCause, Error.mk.injEq, Cause.parse.injEq, and_true] at he
  obtain ⟨hplace, rfl⟩ := he
  -- the place of the error is that of the backslash, which no other boundary has
  have hplace : place = 6 := hinj place 6 hle (by decide) (hplace.symm.trans rfl)
  rw [hplace] at hfound
  exact hfound

end ColumnSelect
