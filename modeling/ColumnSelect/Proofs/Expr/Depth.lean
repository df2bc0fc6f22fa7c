/-
How deep an expression is. The walk over a stack measures the nesting (`depth_eq_nesting`). A path
from an expression down to a leaf counts ranges too, which nesting does not: where at most `k` ranges
stand directly inside one another, a path has at most `k + 1` expressions for each level of nesting
(`Path.length_add_le`). Evaluation and writing recurse from an expression to its parts only, so the
longest path bounds how often either has to be unfolded (`bounded_of_paths`). Main statement: where few
ranges stand directly inside one another, the limit on nesting bounds all three
(`bounded_of_checkDepth`); by itself it does not (`not_bounded_of_checkDepth`). The written form nests
for every range that ends another, so its nesting bounds the paths by itself
(`Path.length_le_writtenNesting`).
-/
import ColumnSelect.Expr.Eval
import ColumnSelect.Pattern.Standard
import ColumnSelect.Proofs.Expr.Parts
import Mathlib.Logic.Function.Iterate

namespace ColumnSelect

namespace Expr

/-! ## Nesting measured with a stack -/

theorem nestingAll_le_iff {es : List Expr} {n : Nat} :
    nestingAll es ≤ n ↔ ∀ e ∈ es, e.nesting ≤ n := by
  induction es with
  | nil => simp [nestingAll]
  | cons e es ih => rw [nestingAll, Nat.max_le, ih, List.forall_mem_cons]

theorem nestingAll_args_le_iff {as : List Arg} {n : Nat} :
    Arg.nestingAll as ≤ n ↔ ∀ a ∈ as, a.value.nesting ≤ n := by
  induction as with
  | nil => simp [Arg.nestingAll]
  | cons a as ih =>
    obtain ⟨name, value⟩ := a
    rw [Arg.nestingAll, Arg.nesting, Nat.max_le, ih, List.forall_mem_cons, Arg.value_mk]

theorem one_le_nesting (e : Expr) : 1 ≤ e.nesting := by
  induction e using ind with
  | range first last hfirst _ => exact Nat.le_trans hfirst (Nat.le_max_left _ _)
  | negate inner => exact Nat.succ_le_succ (Nat.zero_le _)
  | call function args => exact Nat.succ_le_succ (Nat.zero_le _)
  | list items => exact Nat.succ_le_succ (Nat.zero_le _)
  | _ => exact Nat.le_refl 1

/-- An expression at a level reaches as deep as it stands itself and as its parts reach. -/
theorem level_add_nesting_le_iff (e : Expr) (level n : Nat) :
    level + e.nesting ≤ n + 1 ↔
      level ≤ n ∧ ∀ c ∈ e.children level, c.2 + c.1.nesting ≤ n + 1 := by
  cases e with
  | range first last =>
    have := one_le_nesting first
    simp only [nesting, children, List.forall_mem_cons, List.not_mem_nil, false_implies, implies_true,
      and_true]
    omega
  | negate inner =>
    have := one_le_nesting inner
    simp only [nesting, children, List.forall_mem_cons, List.not_mem_nil, false_implies, implies_true,
      and_true]
    omega
  | call function args =>
    have hargs := @nestingAll_args_le_iff args (n - level)
    simp only [nesting, children, List.forall_mem_map]
    constructor
    · intro h
      exact ⟨by omega, fun a ha => by have := hargs.1 (by omega) a ha; omega⟩
    · rintro ⟨hl, h⟩
      have := hargs.2 fun a ha => by have := h a ha; omega
      omega
  | list items =>
    have hitems := @nestingAll_le_iff items (n - level)
    simp only [nesting, children, List.forall_mem_map]
    constructor
    · intro h
      exact ⟨by omega, fun e he => by have := hitems.1 (by omega) e he; omega⟩
    · rintro ⟨hl, h⟩
      have := hitems.2 fun e he => by have := h e he; omega
      omega
  | _ => simp [nesting, children]

/-- The walk goes on with the parts of an expression in its place, which reach as deep. -/
theorem deepest_le_iff (stack : List (Expr × Nat)) (seen n : Nat) :
    deepest stack seen ≤ n ↔ seen ≤ n ∧ ∀ p ∈ stack, p.2 + p.1.nesting ≤ n + 1 := by
  fun_induction deepest stack seen with
  | case1 seen => simp
  | case2 seen e level rest ih =>
    rw [ih, List.forall_mem_append, List.forall_mem_cons, level_add_nesting_le_iff e level n, Nat.max_le,
      and_assoc, and_assoc]

theorem depth_eq_nesting (e : Expr) : e.depth = e.nesting := by
  have h (n : Nat) : e.depth ≤ n ↔ e.nesting ≤ n := by
    have := one_le_nesting e
    rw [depth, deepest_le_iff, List.forall_mem_singleton]
    show 0 ≤ n ∧ 1 + e.nesting ≤ n + 1 ↔ _
    omega
  exact Nat.le_antisymm ((h _).2 (Nat.le_refl _)) ((h _).1 (Nat.le_refl _))

theorem checkDepth_eq_ok_iff {e : Expr} : e.checkDepth = .ok () ↔ e.nesting ≤ maxNesting := by
  unfold checkDepth
  rw [depth_eq_nesting]
  split
  · rename_i h
    simp [h]
  · rename_i h
    simp [Nat.not_lt.1 h]

/-! ## Paths -/

/-- The expressions on a way from an expression down to one without parts. -/
inductive Path : Expr → List Expr → Prop
  | leaf {e : Expr} : e.parts = [] → e.Path [e]
  | step {e part : Expr} {path : List Expr} : part ∈ e.parts → part.Path path → e.Path (e :: path)

/-- How many ranges stand one in the other, beginning with the expression. -/
def rangeRun : Expr → Nat
  | .range first last => max first.rangeRun last.rangeRun + 1
  | _ => 0

/-- A part is nested once more, or it is the end of a range and begins a shorter run of ranges. -/
theorem nesting_of_mem_parts {e part : Expr} (h : part ∈ e.parts) :
    part.nesting + 1 ≤ e.nesting ∨ part.nesting ≤ e.nesting ∧ part.rangeRun + 1 ≤ e.rangeRun := by
  cases e with
  | range first last =>
    simp only [parts_range, List.mem_cons, List.not_mem_nil, or_false] at h
    rw [nesting, rangeRun]
    rcases h with rfl | rfl <;> omega
  | negate inner =>
    rw [parts_negate, List.mem_singleton] at h
    exact .inl (h ▸ Nat.le_refl _)
  | call function args =>
    rw [parts_call] at h
    obtain ⟨a, ha, rfl⟩ := List.mem_map.1 h
    exact .inl (Nat.succ_le_succ (nestingAll_args_le_iff.1 (Nat.le_refl _) a ha))
  | list items =>
    rw [parts_list] at h
    exact .inl (Nat.succ_le_succ (nestingAll_le_iff.1 (Nat.le_refl _) part h))
  | _ => cases h

/-- Of `runs + 1` expressions that follow one another on a path, one at least nests. -/
theorem Path.length_add_le {runs : Nat} {e : Expr} {path : List Expr} (h : e.Path path)
    (hr : e.Every fun s => s.rangeRun ≤ runs) :
    path.length + runs ≤ e.nesting * (runs + 1) + e.rangeRun := by
  induction h with
  | @leaf e _ =>
    have := Nat.mul_le_mul_right (runs + 1) (one_le_nesting e)
    simp only [List.length_singleton]
    omega
  | @step e part path hp _ ih =>
    have hpart := (every_iff.1 hr).2 part hp
    have hrun := (every_iff.1 hpart).1
    have ih := ih hpart
    rw [List.length_cons]
    rcases nesting_of_mem_parts hp with hn | ⟨hn, hruns⟩
    · have := Nat.mul_le_mul_right (runs + 1) hn
      rw [Nat.succ_mul] at this
      omega
    · have := Nat.mul_le_mul_right (runs + 1) hn
      omega

theorem one_le_writtenNesting (e : Expr) : 1 ≤ e.writtenNesting := by
  induction e using ind with
  | range first last hfirst _ =>
    rw [writtenNesting]
    omega
  | negate inner => exact Nat.succ_le_succ (Nat.zero_le _)
  | call function args => exact Nat.succ_le_succ (Nat.zero_le _)
  | list items => exact Nat.succ_le_succ (Nat.zero_le _)
  | _ => exact Nat.le_refl 1

/-- The parentheses of the written form add levels and take none away. -/
theorem nesting_le_writtenNesting (e : Expr) : e.nesting ≤ e.writtenNesting := by
  induction e using ind with
  | range first last hfirst hlast =>
    rw [nesting, writtenNesting]
    omega
  | negate inner hinner => exact Nat.succ_le_succ hinner
  | call function args hargs =>
    refine Nat.succ_le_succ (nestingAll_args_le_iff.2 fun a ha => Nat.le_trans (hargs a ha) ?_)
    rw [← writtenNestingAll_map_value]
    exact writtenNesting_le_all (List.mem_map_of_mem ha)
  | list items hitems =>
    exact Nat.succ_le_succ (nestingAll_le_iff.2 fun e he => Nat.le_trans (hitems e he) (writtenNesting_le_all he))
  | _ => exact Nat.le_refl 1

/-- In the written form a part is nested once more, or it is no range and the end of one. -/
theorem writtenNesting_of_mem_parts {e part : Expr} (h : part ∈ e.parts) :
    part.writtenNesting + 1 ≤ e.writtenNesting ∨
      part.writtenNesting ≤ e.writtenNesting ∧ part.rangeRun = 0 ∧ 0 < e.rangeRun := by
  have hgrouped (s : Expr) : s.grouped = true ∨ s.grouped = false ∧ s.rangeRun = 0 := by
    cases s <;> simp [grouped, rangeRun]
  cases e with
  | range first last =>
    simp only [parts_range, List.mem_cons, List.not_mem_nil, or_false] at h
    have hg := hgrouped part
    rw [writtenNesting, rangeRun]
    rcases h with rfl | rfl <;> rcases hg with hg | ⟨hg, hr⟩ <;> simp only [hg, if_true] <;> omega
  | negate inner =>
    rw [parts_negate, List.mem_singleton] at h
    exact .inl (h ▸ Nat.le_refl _)
  | call function args =>
    rw [parts_call] at h
    have := writtenNesting_le_all h
    rw [writtenNestingAll_map_value] at this
    exact .inl (Nat.succ_le_succ this)
  | list items =>
    rw [parts_list] at h
    exact .inl (Nat.succ_le_succ (writtenNesting_le_all h))
  | _ => cases h

/-- The parentheses around a range that ends another nest too, so in the written form every level has
at most two expressions of a path. -/
theorem Path.length_le_writtenNesting {e : Expr} {path : List Expr} (h : e.Path path) :
    path.length ≤ 2 * e.writtenNesting ∧ (e.rangeRun = 0 → path.length < 2 * e.writtenNesting) := by
  induction h with
  | @leaf e _ =>
    have := one_le_writtenNesting e
    simp only [List.length_singleton]
    omega
  | @step e part path hp _ ih =>
    rw [List.length_cons]
    rcases writtenNesting_of_mem_parts hp with hn | ⟨hn, hr, he⟩
    · omega
    · have := ih.2 hr
      omega

theorem exists_path (e : Expr) : ∃ path, e.Path path := by
  induction e using parts_ind with
  | h e ih =>
    rcases hp : e.parts with _ | ⟨part, parts⟩
    · exact ⟨[e], .leaf hp⟩
    · have hmem : part ∈ e.parts := by simp [hp]
      obtain ⟨path, h⟩ := ih part hmem
      exact ⟨e :: path, .step hmem h⟩

/-! ## Recursion -/

section

variable (catalog : Catalog)

/-- One unfolding of evaluation: the value of an expression, where `below` evaluates its parts. -/
def evalStep [Pattern.Engine] (below : Expr → Except Error Value) : Expr → Except Error Value
  | .column name => columnValue catalog name
  | .int value => .ok (.ints [value.toInt])
  | .str text => .ok (.str text)
  | .bool value => .ok (.bool value)
  | .range first last => do
    let a ← rangeEnd .rangeStart first (below first)
    let b ← rangeEnd .rangeEnd last (below last)
    Value.range a b
  | .negate inner => do
    match ← below inner with
    | .ints numbers => return .ints (numbers.map Value.opposite)
    | other => throw (.misuse inner.text (.notNegatable other.kind))
  | .call function args => callValue catalog function (args.map fun a => ⟨a, below a.value⟩)
  | .list items => do return .ints (← joinItems (items.map fun e => (e, below e)))

/-- One unfolding of writing: the text of an expression, where `below` writes its parts. -/
def renderStep (below : Expr → List Char) : Expr → List Char
  | .column name => renderName name
  | .int value => renderInt value
  | .str text => renderString text
  | .bool true => ['T', 'R', 'U', 'E']
  | .bool false => ['F', 'A', 'L', 'S', 'E']
  | .range first last =>
    (if first.isPrimary then below first else '(' :: below first ++ [')'])
      ++ ':' :: (if last.isPrimary then below last else '(' :: below last ++ [')'])
  | .negate inner => '-' :: below inner
  | .call function args =>
    renderName function ++ '(' :: joinTexts (args.map fun a => renderBinding a.name ++ below a.value) ++ [')']
  | .list items => 'c' :: '(' :: joinTexts (items.map below) ++ [')']

/-- Evaluation recurses to the parts of an expression only. -/
theorem evalStep_eq_eval [Pattern.Engine] {below : Expr → Except Error Value} {e : Expr}
    (h : ∀ part ∈ e.parts, below part = eval catalog part) : evalStep catalog below e = eval catalog e := by
  cases e with
  | range first last =>
    rw [evalStep, eval, h first (by simp [parts_range]), h last (by simp [parts_range])]
  | negate inner =>
    rw [evalStep, h inner (by simp [parts_negate])]
    rfl
  | call function args =>
    rw [parts_call, List.forall_mem_map] at h
    rw [evalStep, eval, evalArgs_eq, List.map_congr_left fun a ha => by rw [h a ha]]
  | list items =>
    rw [parts_list] at h
    rw [evalStep, eval, evalItems_eq, List.map_congr_left fun e he => by rw [h e he]]
  | _ => rfl

/-- Writing recurses to the parts of an expression only. -/
theorem renderStep_eq_render {below : Expr → List Char} {e : Expr}
    (h : ∀ part ∈ e.parts, below part = part.render) : renderStep below e = e.render := by
  cases e with
  | range first last =>
    rw [renderStep, render, h first (by simp [parts_range]), h last (by simp [parts_range])]
  | negate inner => rw [renderStep, render, h inner (by simp [parts_negate])]
  | call function args =>
    rw [parts_call, List.forall_mem_map] at h
    rw [renderStep, render, Arg.renderAll_eq, List.map_congr_left fun a ha => by rw [h a ha]]
  | list items =>
    rw [parts_list] at h
    rw [renderStep, render, renderAll_eq, List.map_congr_left h]
  | bool value => cases value <;> rfl
  | _ => rfl

/-- A function that recurses to the parts only needs no more unfoldings than a path has expressions. -/
theorem iterate_eq {α : Type} {unfolded : (Expr → α) → Expr → α} {f : Expr → α}
    (hstep : ∀ below e, (∀ part ∈ e.parts, below part = f part) → unfolded below e = f e) (n : Nat) (e : Expr)
    (h : ∀ path, e.Path path → path.length ≤ n) (below : Expr → α) : unfolded^[n] below e = f e := by
  induction n generalizing e with
  | zero =>
    obtain ⟨path, hp⟩ := e.exists_path
    have := h path hp
    cases hp <;> simp at this
  | succ n ih =>
    rw [Function.iterate_succ_apply']
    refine hstep _ e fun part hpart => ih part fun path hp => ?_
    have := h _ (.step hpart hp)
    simpa using this

end

/-! ## The limit on nesting -/

/-- No path of the expression is longer than `n`, and neither evaluation nor writing recurses deeper:
unfolded `n` times, they no longer ask how deeper expressions are evaluated or written. -/
structure Bounded [Pattern.Engine] (n : Nat) (e : Expr) : Prop where
  paths : ∀ path, e.Path path → path.length ≤ n
  eval : ∀ catalog below, (evalStep catalog)^[n] below e = e.eval catalog
  render : ∀ below, renderStep^[n] below e = e.render

theorem bounded_of_paths [Pattern.Engine] {n : Nat} {e : Expr} (h : ∀ path, e.Path path → path.length ≤ n) :
    e.Bounded n :=
  ⟨h, fun catalog => iterate_eq (fun _ _ => evalStep_eq_eval catalog) n e h,
    iterate_eq (fun _ _ => renderStep_eq_render) n e h⟩

/-- Where at most `runs` ranges stand one in the other, the limit on nesting bounds the recursion. With
`runs = 1`, which is that no range is the end of a range, the bound is twice the limit. -/
theorem bounded_of_checkDepth [Pattern.Engine] {e : Expr} {runs : Nat} (hd : e.checkDepth = .ok ())
    (hr : e.Every fun s => s.rangeRun ≤ runs) : e.Bounded ((runs + 1) * maxNesting) := by
  have hn := Nat.mul_le_mul_right (runs + 1) (checkDepth_eq_ok_iff.1 hd)
  have hrun := (every_iff.1 hr).1
  apply bounded_of_paths
  intro path hp
  have := hp.length_add_le hr
  rw [Nat.mul_comm]
  omega

/-- Ranges in negations and calls, none of them the end of another. -/
theorem bounded_of_checkDepth_ranges :
    (range (column "a") (negate (range (column "b") (list [range (int 1) (int 2)])))).checkDepth = .ok () ∧
      (range (column "a") (negate (range (column "b") (list [range (int 1) (int 2)])))).Bounded
        (2 * maxNesting) := by
  have hd : (range (column "a") (negate (range (column "b") (list [range (int 1) (int 2)])))).checkDepth =
      .ok () := checkDepth_eq_ok_iff.2 (by decide)
  refine ⟨hd, bounded_of_checkDepth hd ?_⟩
  simp [Every, EveryAll, rangeRun]

/-- Ranges one in the other, each the start of the next. -/
def nestedRanges : Nat → Expr
  | 0 => int 1
  | n + 1 => range (nestedRanges n) (int 1)

theorem nesting_nestedRanges (n : Nat) : (nestedRanges n).nesting = 1 := by
  induction n with
  | zero => rfl
  | succ n ih => rw [nestedRanges, nesting, ih]; rfl

theorem path_nestedRanges (n : Nat) : ∃ path, (nestedRanges n).Path path ∧ path.length = n + 1 := by
  induction n with
  | zero => exact ⟨[int 1], .leaf rfl, rfl⟩
  | succ n ih =>
    obtain ⟨path, hp, hl⟩ := ih
    refine ⟨nestedRanges (n + 1) :: path, .step ?_ hp, by rw [List.length_cons, hl]⟩
    simp [nestedRanges, parts_range]

theorem eval_nestedRanges [Pattern.Engine] (catalog : Catalog) (n : Nat) :
    (nestedRanges n).eval catalog = .ok (.ints [1]) := by
  induction n with
  | zero => rfl
  | succ n ih =>
    rw [nestedRanges, eval, ih]
    rfl

/-- As many unfoldings as there are ranges do not do for their evaluation. -/
theorem iterate_evalStep_nestedRanges [Pattern.Engine] (catalog : Catalog) (error : Error) (n : Nat) :
    (evalStep catalog)^[n] (fun _ => .error error) (nestedRanges n) = .error error := by
  induction n with
  | zero => rfl
  | succ n ih =>
    rw [Function.iterate_succ_apply', nestedRanges, evalStep, ih]
    rfl

/-- As many unfoldings as there are ranges do not do for writing them. -/
theorem iterate_renderStep_nestedRanges (n : Nat) :
    (renderStep^[n] (fun _ => []) (nestedRanges n)).length < (nestedRanges n).render.length := by
  induction n with
  | zero => decide
  | succ n ih =>
    have hone : (renderStep^[n] (fun _ => []) (int 1)).length ≤ (int 1).render.length := by
      cases n with
      | zero => exact Nat.zero_le _
      | succ n => rw [Function.iterate_succ_apply']; exact Nat.le_refl _
    rw [Function.iterate_succ_apply', nestedRanges, renderStep, render]
    -- the start is in parentheses in both texts or in none, and the ends are written alike
    split <;> simp [isPrimary] <;> omega

/-- The limit on nesting lets pass ranges one in the other, however many they are. -/
theorem not_bounded_of_checkDepth :
    (nestedRanges (2 * maxNesting)).checkDepth = .ok () ∧
      (∃ path, (nestedRanges (2 * maxNesting)).Path path ∧ 2 * maxNesting < path.length) ∧
      (∃ below, (evalStep [])^[2 * maxNesting] below (nestedRanges (2 * maxNesting)) ≠
        (nestedRanges (2 * maxNesting)).eval []) ∧
      ∃ below, renderStep^[2 * maxNesting] below (nestedRanges (2 * maxNesting)) ≠
        (nestedRanges (2 * maxNesting)).render := by
  refine ⟨checkDepth_eq_ok_iff.2 ?_, ?_, ?_, ?_⟩
  · rw [nesting_nestedRanges]
    decide
  · obtain ⟨path, hp, hl⟩ := path_nestedRanges (2 * maxNesting)
    exact ⟨path, hp, by omega⟩
  · refine ⟨fun _ => .error (.ofCause (.unknownVariable "")), ?_⟩
    rw [iterate_evalStep_nestedRanges, eval_nestedRanges]
    exact nofun
  · refine ⟨fun _ => [], fun h => ?_⟩
    have := iterate_renderStep_nestedRanges (2 * maxNesting)
    rw [h] at this
    exact Nat.lt_irrefl _ this

end Expr

end ColumnSelect
