/-
The expressions that stand directly in an expression, its parts, and induction on expressions: by the
form of the expression (`ind`), or from the parts to the whole (`parts_ind`). What holds of every
expression inside another holds of that one and of those inside its parts (`every_iff`).
-/
import ColumnSelect.Proofs.Expr.Every

namespace ColumnSelect

namespace Expr

/-! ## Induction -/

@[elab_as_elim]
theorem ind {P : Expr → Prop} (column : ∀ name, P (.column name)) (int : ∀ value, P (.int value))
    (str : ∀ text, P (.str text)) (bool : ∀ value, P (.bool value))
    (range : ∀ first last, P first → P last → P (.range first last))
    (negate : ∀ inner, P inner → P (.negate inner))
    (call : ∀ function args, (∀ a ∈ args, P a.value) → P (.call function args))
    (list : ∀ items, (∀ e ∈ items, P e) → P (.list items)) (e : Expr) : P e :=
  -- an argument is as its value, and a list as each of its members
  @Expr.rec P (fun a => P a.value) (fun as => ∀ a ∈ as, P a.value) (fun es => ∀ e ∈ es, P e)
    column int str bool range negate call list (fun _ _ h => h) nofun
    (fun _ _ ha has => List.forall_mem_cons.2 ⟨ha, has⟩) nofun
    (fun _ _ he hes => List.forall_mem_cons.2 ⟨he, hes⟩) e

/-! ## Parts -/

/-- The expressions that stand directly in an expression. -/
def parts (e : Expr) : List Expr := (e.children 1).map Prod.fst

@[simp] theorem parts_column (name : String) : (column name).parts = [] := rfl

@[simp] theorem parts_int (value : Int64) : (int value).parts = [] := rfl

@[simp] theorem parts_str (text : String) : (str text).parts = [] := rfl

@[simp] theorem parts_bool (value : Bool) : (bool value).parts = [] := rfl

@[simp] theorem parts_range (first last : Expr) : (range first last).parts = [last, first] := rfl

@[simp] theorem parts_negate (inner : Expr) : (negate inner).parts = [inner] := rfl

@[simp] theorem parts_call (function : String) (args : List Arg) :
    (call function args).parts = args.map Arg.value := by
  simp [parts, children, Function.comp_def]

@[simp] theorem parts_list (items : List Expr) : (list items).parts = items := by
  simp [parts, children, Function.comp_def]

@[elab_as_elim]
theorem parts_ind {P : Expr → Prop} (h : ∀ e, (∀ part ∈ e.parts, P part) → P e) (e : Expr) : P e := by
  induction e using ind with
  | range first last hfirst hlast => exact h _ (by simpa using ⟨hlast, hfirst⟩)
  | negate inner hinner => exact h _ (by simpa using hinner)
  | call function args hargs => exact h _ (by simpa using hargs)
  | list items hitems => exact h _ (by simpa using hitems)
  | _ => exact h _ (by simp)

/-! ## What holds of every expression inside -/

theorem everyAll_args_iff {P : Expr → Prop} {as : List Arg} :
    Arg.EveryAll P as ↔ ∀ a ∈ as, a.value.Every P := by
  induction as with
  | nil => simp [Arg.EveryAll]
  | cons a as ih =>
    obtain ⟨name, value⟩ := a
    simp [Arg.EveryAll, Arg.Every, ih]

theorem every_iff {P : Expr → Prop} {e : Expr} : e.Every P ↔ P e ∧ ∀ part ∈ e.parts, part.Every P := by
  cases e with
  | range first last => simp [Every, and_comm]
  | negate inner => simp [Every]
  | call function args => simp [Every, everyAll_args_iff]
  | list items => simp [Every, everyAll_iff]
  | _ => simp [Every]

/-- What holds of every expression inside holds so of each of them. -/
theorem Every.every {P : Expr → Prop} {e : Expr} (h : e.Every P) : e.Every fun s => s.Every P := by
  induction e using parts_ind with
  | h e ih => exact every_iff.2 ⟨h, fun part hp => ih part hp ((every_iff.1 h).2 part hp)⟩

end Expr

end ColumnSelect
