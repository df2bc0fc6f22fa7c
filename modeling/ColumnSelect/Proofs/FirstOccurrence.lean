/-
Lists without their repetitions. Of each member the first occurrence is kept, so the members stand in the
order in which they first occur (`pairwise_eraseDups`), and a list without repetitions stays as it is.
-/
import Mathlib.Data.List.Basic
import Mathlib.Data.List.Nodup

namespace ColumnSelect

variable {α β : Type} [BEq α] [LawfulBEq α]

theorem eraseDups_filter (p : α → Bool) (as : List α) :
    (as.filter p).eraseDups = as.eraseDups.filter p := by
  match as with
  | [] => rfl
  | a :: as =>
    have ih := eraseDups_filter p (as.filter fun b => !b == a)
    rw [List.eraseDups_cons]
    by_cases h : p a
    · rw [List.filter_cons_of_pos h, List.filter_cons_of_pos h, List.eraseDups_cons, ← ih, List.filter_filter,
        List.filter_filter]
      simp only [Bool.and_comm]
    · rw [List.filter_cons_of_neg h, List.filter_cons_of_neg h, ← ih, List.filter_filter]
      -- what passes is not the first member, which does not
      congr 1
      refine List.filter_congr fun b _ => ?_
      cases hb : p b with
      | false => rfl
      | true =>
        have hne : b ≠ a := fun he => h (he ▸ hb)
        simp [hne]
termination_by as.length
decreasing_by exact Nat.lt_succ_of_le (List.length_filter_le _ _)

/-- Members without their repetitions stand in the order in which they first occur. -/
theorem pairwise_eraseDups (as : List α) :
    as.eraseDups.Pairwise fun a b => as.idxOf a < as.idxOf b := by
  induction as with
  | nil => exact .nil
  | cons a as ih =>
    have hne : ∀ b ∈ as.eraseDups.filter fun b => !b == a, b ≠ a := by
      intro b hb
      simpa using (List.mem_filter.1 hb).2
    rw [List.eraseDups_cons, eraseDups_filter]
    -- no later member is the first one, so all that stand behind it have moved by one place
    refine List.pairwise_cons.2 ⟨fun b hb => ?_, (ih.filter _).imp_of_mem fun hb hc h => ?_⟩
    · rw [List.idxOf_cons_self, List.idxOf_cons_ne _ (hne b hb).symm]
      exact Nat.succ_pos _
    · rw [List.idxOf_cons_ne _ (hne _ hb).symm, List.idxOf_cons_ne _ (hne _ hc).symm]
      exact Nat.succ_lt_succ h

theorem nodup_eraseDups (as : List α) : as.eraseDups.Nodup :=
  (pairwise_eraseDups as).imp fun h he => by
    rw [he] at h
    exact Nat.lt_irrefl _ h

theorem eraseDups_eq_self_iff {as : List α} : as.eraseDups = as ↔ as.Nodup := by
  constructor
  · intro h
    rw [← h]
    exact nodup_eraseDups as
  · intro h
    induction as with
    | nil => rfl
    | cons a as ih =>
      obtain ⟨ha, has⟩ := List.nodup_cons.1 h
      have hfilter : (as.filter fun b => !b == a) = as := by
        refine List.filter_eq_self.2 fun b hb => ?_
        have hne : b ≠ a := fun he => ha (he ▸ hb)
        simp [hne]
      rw [List.eraseDups_cons, hfilter, ih has]

/-- A member is first found where it was, if nothing else becomes the same. -/
theorem idxOf_map_of_inj [BEq β] [LawfulBEq β] {f : α → β} {as : List α} {a : α}
    (h : ∀ b ∈ as, f b = f a → b = a) : (as.map f).idxOf (f a) = as.idxOf a := by
  induction as with
  | nil => rfl
  | cons b as ih =>
    obtain ⟨hb, has⟩ := List.forall_mem_cons.1 h
    rw [List.map_cons]
    by_cases he : b = a
    · rw [he, List.idxOf_cons_self, List.idxOf_cons_self]
    · rw [List.idxOf_cons_ne _ he, List.idxOf_cons_ne _ fun hf => he (hb hf), ih has]

end ColumnSelect
