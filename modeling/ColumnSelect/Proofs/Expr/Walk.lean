/-
The walk that measures the nesting, round by round. A round takes an expression from the stack, sees its level
and puts its direct subexpressions on the stack. Whichever expression it takes, the stack is one node smaller
behind it (`Round.nodes`) and the deepest level that the walk is going to see is the same (`Round.deepest`).
So a walk through an expression ends after as many rounds as the expression has nodes, and has then seen the
nesting of the expression, whatever the order in which it went. Main statement: `walk_ends`.
-/
import ColumnSelect.Proofs.Expr.Depth

namespace ColumnSelect

namespace Expr

/-! ## Rounds -/

/-- What a walk still has on its stack, and the deepest level it has seen. -/
abbrev Walk := List (Expr × Nat) × Nat

/-- One round of a walk. Any expression may be the next to be taken from the stack, and its direct subexpressions
may stand anywhere in the stack behind the round. -/
inductive Round : Walk → Walk → Prop
  | take {stack rest next : List (Expr × Nat)} {e : Expr} {level seen : Nat} :
      stack.Perm ((e, level) :: rest) → next.Perm (e.children level ++ rest) →
        Round (stack, seen) (next, max seen level)

/-- So many rounds, one behind the other. -/
inductive Rounds : Nat → Walk → Walk → Prop
  | done {w : Walk} : Rounds 0 w w
  | more {n : Nat} {w w' w'' : Walk} : Round w w' → Rounds n w' w'' → Rounds (n + 1) w w''

theorem stackNodes_perm {stack stack' : List (Expr × Nat)} (h : stack.Perm stack') :
    stackNodes stack = stackNodes stack' := by
  induction h with
  | nil => rfl
  | cons p _ ih => rw [stackNodes, stackNodes, ih]
  | swap p q rest =>
    simp only [stackNodes]
    omega
  | trans _ _ ih ih' => rw [ih, ih']

/-- The order of the stack does not matter for what the walk is going to see. -/
theorem deepest_perm {stack stack' : List (Expr × Nat)} (h : stack.Perm stack') (seen : Nat) :
    deepest stack seen = deepest stack' seen := by
  have hle (n : Nat) : deepest stack seen ≤ n ↔ deepest stack' seen ≤ n := by
    rw [deepest_le_iff, deepest_le_iff]
    simp only [h.mem_iff]
  exact Nat.le_antisymm ((hle _).2 (Nat.le_refl _)) ((hle _).1 (Nat.le_refl _))

/-- A round takes one node from the stack. -/
theorem Round.nodes {w w' : Walk} (h : Round w w') : stackNodes w'.1 + 1 = stackNodes w.1 := by
  cases h with
  | @take stack rest next e level seen hstack hnext =>
    have := stackNodes_children level e
    rw [stackNodes_perm hnext, stackNodes_perm hstack, stackNodes_append, stackNodes]
    omega

/-- A walk goes on as long as there is something on the stack. -/
theorem exists_round_iff {w : Walk} : (∃ w', Round w w') ↔ w.1 ≠ [] := by
  constructor
  · rintro ⟨w', h⟩ hnil
    have := h.nodes
    rw [hnil, stackNodes] at this
    omega
  · intro h
    obtain ⟨stack, seen⟩ := w
    obtain ⟨⟨e, level⟩, rest, rfl⟩ := List.exists_cons_of_ne_nil h
    exact ⟨_, .take (.refl _) (.refl _)⟩

/-- A round does not change what the walk is going to see. -/
theorem Round.deepest {w w' : Walk} (h : Round w w') : Expr.deepest w'.1 w'.2 = Expr.deepest w.1 w.2 := by
  cases h with
  | take hstack hnext => rw [deepest_perm hnext, deepest_perm hstack, Expr.deepest]

/-! ## Walks -/

theorem Rounds.nodes {n : Nat} {w w' : Walk} (h : Rounds n w w') : stackNodes w'.1 + n = stackNodes w.1 := by
  induction h with
  | done => rfl
  | more hr _ ih =>
    rw [← hr.nodes, ← ih]
    rfl

theorem Rounds.deepest {n : Nat} {w w' : Walk} (h : Rounds n w w') :
    Expr.deepest w'.1 w'.2 = Expr.deepest w.1 w.2 := by
  induction h with
  | done => rfl
  | more hr _ ih => rw [ih, hr.deepest]

/-- The walk that takes the expressions in the order of the stack is one of them. -/
theorem rounds_deepest (stack : List (Expr × Nat)) (seen : Nat) :
    Rounds (stackNodes stack) (stack, seen) ([], deepest stack seen) := by
  fun_induction deepest stack seen with
  | case1 seen => exact .done
  | case2 seen e level rest ih =>
    have hround : Round ((e, level) :: rest, seen) (e.children level ++ rest, max seen level) :=
      .take (.refl _) (.refl _)
    rw [← hround.nodes]
    exact .more hround ih

/-- The walk through an expression ends, and measures the nesting, which is defined by recursion on the
expression. It takes as many rounds as the expression has nodes; and in whatever order the expressions are taken
from the stack, there are no more rounds than that, and where no round is left the nesting has been seen. -/
theorem walk_ends (e : Expr) :
    e.depth = e.nesting ∧ Rounds e.nodes ([(e, 1)], 0) ([], e.depth) ∧
      ∀ n w, Rounds n ([(e, 1)], 0) w →
        n ≤ e.nodes ∧ ((∀ w', ¬ Round w w') → n = e.nodes ∧ w = ([], e.nesting)) := by
  have hnodes : stackNodes [(e, 1)] = e.nodes := Nat.add_zero _
  refine ⟨depth_eq_nesting e, ?_, ?_⟩
  · rw [← hnodes]
    exact rounds_deepest _ _
  · rintro n ⟨stack, seen⟩ h
    have hcount : stackNodes stack + n = e.nodes := h.nodes.trans hnodes
    refine ⟨by omega, fun hend => ?_⟩
    have hstack : stack = [] := by
      by_contra hne
      obtain ⟨w', hr⟩ := exists_round_iff (w := (stack, seen)).2 hne
      exact hend w' hr
    subst hstack
    have hseen : seen = e.depth := by
      have := h.deepest
      rwa [deepest] at this
    rw [stackNodes] at hcount
    exact ⟨by omega, by rw [hseen, depth_eq_nesting]⟩

/-- A list whose last item is taken first. -/
theorem walk_ends_lastFirst :
    Rounds 4 ([(list [column "a", negate (column "b")], 1)], 0) ([], 3) ∧
      4 = (list [column "a", negate (column "b")]).nodes ∧
      (([], 3) : Walk) = ([], (list [column "a", negate (column "b")]).nesting) := by
  have hlist : Round ([(list [column "a", negate (column "b")], 1)], 0)
      ([(negate (column "b"), 2), (column "a", 2)], 1) := .take (.refl _) (.swap _ _ _)
  have hnegate : Round ([(negate (column "b"), 2), (column "a", 2)], 1) ([(column "b", 3), (column "a", 2)], 2) :=
    .take (.refl _) (.refl _)
  have hlast : Round ([(column "b", 3), (column "a", 2)], 2) ([(column "a", 2)], 3) := .take (.refl _) (.refl _)
  have hfirst : Round ([(column "a", 2)], 3) ([], 3) := .take (.refl _) (.refl _)
  have hrounds := Rounds.more hlist (.more hnegate (.more hlast (.more hfirst .done)))
  have hend : ∀ w', ¬ Round ([], 3) w' := fun w' hr => exists_round_iff.1 ⟨w', hr⟩ rfl
  exact ⟨hrounds, ((walk_ends _).2.2 4 _ hrounds).2 hend⟩

end Expr

end ColumnSelect
