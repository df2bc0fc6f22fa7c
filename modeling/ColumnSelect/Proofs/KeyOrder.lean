/-
Entries in the order of their keys. The keys ascend by their code points, and entries of one key stand in the
order in which they are given. That leaves one list (`StablySorted.unique`), which does not depend on the order
of the entries where no two of them have one key (`StablySorted.of_perm`). Main statement: sorting by merging
gives this list (`stablySorted_mergeSort`).
-/
import Mathlib.Data.List.Nodup
import Mathlib.Data.List.Perm.Basic

namespace ColumnSelect

variable {α : Type}

/-- The entries in the order of their keys, and entries of one key in the order in which they are given. -/
structure StablySorted (entries sorted : List (String × α)) : Prop where
  perm : sorted.Perm entries
  ascending : sorted.Pairwise fun a b => a.1 ≤ b.1
  stable : ∀ key, sorted.filter (·.1 = key) = entries.filter (·.1 = key)

theorem filter_key_cons (a : String × α) (entries : List (String × α)) (key : String) :
    (a :: entries).filter (·.1 = key) =
      if a.1 = key then a :: entries.filter (·.1 = key) else entries.filter (·.1 = key) := by
  rw [List.filter_cons]
  simp only [decide_eq_true_eq]

/-- Lists in which the keys ascend are the same if they have the same entries of every key. -/
theorem eq_of_filter_key {entries entries' : List (String × α)} (h : entries.Pairwise fun a b => a.1 ≤ b.1)
    (h' : entries'.Pairwise fun a b => a.1 ≤ b.1)
    (hkey : ∀ key, entries.filter (·.1 = key) = entries'.filter (·.1 = key)) : entries = entries' := by
  have hmem {l l' : List (String × α)} (hl : ∀ key, l.filter (·.1 = key) = l'.filter (·.1 = key))
      {a : String × α} (ha : a ∈ l) : a ∈ l' := by
    have hfilter : a ∈ l.filter (·.1 = a.1) := List.mem_filter.2 ⟨ha, decide_eq_true rfl⟩
    rw [hl] at hfilter
    exact (List.mem_filter.1 hfilter).1
  induction h generalizing entries' with
  | nil =>
    cases entries' with
    | nil => rfl
    | cons b entries' => exact absurd (hmem (fun key => (hkey key).symm) List.mem_cons_self) List.not_mem_nil
  | @cons a entries hfirst _ ih =>
    cases h' with
    | nil => exact absurd (hmem hkey List.mem_cons_self) List.not_mem_nil
    | @cons b entries' hfirst' hrest' =>
      -- each of the first entries is in the other list, so neither key is behind the other
      have hle : a.1 ≤ b.1 := by
        rcases List.mem_cons.1 (hmem (fun key => (hkey key).symm) List.mem_cons_self) with rfl | hb
        · exact String.le_refl _
        · exact hfirst b hb
      have hge : b.1 ≤ a.1 := by
        rcases List.mem_cons.1 (hmem hkey List.mem_cons_self) with rfl | ha
        · exact String.le_refl _
        · exact hfirst' a ha
      have hab : a.1 = b.1 := String.le_antisymm hle hge
      have hboth : a = b ∧ ∀ key, entries.filter (·.1 = key) = entries'.filter (·.1 = key) := by
        have hheads := hkey a.1
        rw [filter_key_cons, filter_key_cons, if_pos rfl, if_pos hab.symm] at hheads
        refine ⟨(List.cons.inj hheads).1, fun key => ?_⟩
        have hrests := hkey key
        rw [filter_key_cons, filter_key_cons, ← hab] at hrests
        split at hrests
        · exact (List.cons.inj hrests).2
        · exact hrests
      rw [hboth.1, ih hrest' hboth.2]

/-- The entries and the order of their keys leave no choice. -/
theorem StablySorted.unique {entries sorted sorted' : List (String × α)} (h : StablySorted entries sorted)
    (h' : StablySorted entries sorted') : sorted = sorted' :=
  eq_of_filter_key h.ascending h'.ascending fun key => (h.stable key).trans (h'.stable key).symm

/-- Sorting by merging keeps entries of one key in order. -/
theorem stablySorted_mergeSort (entries : List (String × α)) :
    StablySorted entries (entries.mergeSort fun a b => !(b.1 < a.1)) := by
  have hle : ∀ a b : String × α, (!decide (b.1 < a.1)) = true ↔ a.1 ≤ b.1 := by
    intro a b
    rw [Bool.not_eq_true', decide_eq_false_iff_not, String.not_lt]
  have htrans : ∀ a b c : String × α, (!decide (b.1 < a.1)) = true → (!decide (c.1 < b.1)) = true →
      (!decide (c.1 < a.1)) = true :=
    fun a b c hab hbc => (hle a c).2 (String.le_trans ((hle a b).1 hab) ((hle b c).1 hbc))
  have htotal : ∀ a b : String × α, (!decide (b.1 < a.1) || !decide (a.1 < b.1)) = true := by
    intro a b
    rw [Bool.or_eq_true, hle, hle]
    exact String.le_total a.1 b.1
  have hperm := List.mergeSort_perm entries fun a b => !(b.1 < a.1)
  refine ⟨hperm, (List.pairwise_mergeSort htrans htotal entries).imp fun h => (hle _ _).1 h, fun key => ?_⟩
  -- the entries of one key are sorted as they are given, and so stay together in order
  have hkey : (entries.filter (·.1 = key)).Pairwise fun a b => (!decide (b.1 < a.1)) = true := by
    refine List.pairwise_of_forall_mem_list fun a ha b hb => (hle a b).2 ?_
    have ha : a.1 = key := of_decide_eq_true (List.mem_filter.1 ha).2
    have hb : b.1 = key := of_decide_eq_true (List.mem_filter.1 hb).2
    exact ha ▸ hb ▸ String.le_refl b.1
  have hsublist := (List.sublist_mergeSort htrans htotal hkey List.filter_sublist).filter (·.1 = key)
  rw [List.filter_filter] at hsublist
  simp only [Bool.and_self] at hsublist
  exact (hsublist.eq_of_length (hperm.filter _).length_eq.symm).symm

/-- Where no two entries have one key, the order in which they are given does not count. -/
theorem StablySorted.of_perm {entries entries' sorted : List (String × α)} (h : StablySorted entries sorted)
    (hkeys : (entries.map Prod.fst).Nodup) (hperm : entries'.Perm entries) : StablySorted entries' sorted := by
  refine ⟨h.perm.trans hperm.symm, h.ascending, fun key => (h.stable key).trans ?_⟩
  have hdistinct {l : List (String × α)} (hl : (l.map Prod.fst).Nodup) :
      (l.filter (·.1 = key)).Pairwise fun a b => a.1 ≠ b.1 := (List.pairwise_map.1 hl).filter _
  have hkeys' : (entries'.map Prod.fst).Nodup := (hperm.map Prod.fst).nodup_iff.2 hkeys
  -- entries of the key would have to differ in it
  refine List.Perm.eq_of_pairwise (fun a b ha hb hab _ => absurd ?_ hab) (hdistinct hkeys) (hdistinct hkeys')
    (hperm.symm.filter _)
  rw [of_decide_eq_true (List.mem_filter.1 ha).2, of_decide_eq_true (List.mem_filter.1 hb).2]

end ColumnSelect
