/-
What is selected when letter case is ignored, against what is selected otherwise. The three matchers that
look for a text compare the lower case of whole names, so a name that has the text is still selected exactly
if its lower case has the lower case of the text (`select_subset_iff`). That may fail where the text has a
capital sigma at an end, case-ignorable characters not counted. Main statement: `keepsMatches_iff`.
-/
import ColumnSelect.Matcher.Call
import ColumnSelect.Pattern.Standard
import ColumnSelect.Proofs.Catalog
import ColumnSelect.Proofs.Unicode.Casing

namespace ColumnSelect.Matcher

open Unicode

theorem occursIn_iff {part text : List Char} : occursIn part text = true ↔ part <:+: text := by
  induction text with
  | nil => rw [occursIn, List.isEmpty_iff, List.infix_nil]
  | cons c text ih => rw [occursIn, Bool.or_eq_true, List.isPrefixOf_iff_prefix, ih, List.infix_cons_iff]

/-- What a call selects with letter case, it selects without. -/
def KeepsMatches [Pattern.Engine] (call : Bool → Call) : Prop :=
  ∀ catalog positions, (call false).apply catalog = .ok positions →
    ∃ positions', (call true).apply catalog = .ok positions' ∧ positions ⊆ positions'

variable {text : String}

/-- A matcher that looks for a text in a way in which the empty text is always found keeps its matches
exactly if what is found in a text is found, in lower case, in its lower case. A catalog of one name shows
it for that name. -/
theorem select_subset_iff {m : Matcher} {found : List Char → List Char → Bool}
    (hnil : ∀ name, found [] name = true) :
    (∀ catalog positions,
      select m text catalog (fun name => found (folded false text) (folded false name)) = .ok positions →
        ∃ positions', select m text catalog (fun name => found (folded true text) (folded true name)) =
          .ok positions' ∧ positions ⊆ positions') ↔
      ∀ name, found text.toList name = true → found (lowerAfter [] text.toList) (lowerAfter [] name) = true := by
  by_cases ht : text = ""
  · simp [select, ht, lowerAfter, hnil]
  · have hselect (catalog : Catalog) (p : String → Bool) :
        select m text catalog p = .ok (catalog.positionsWhere p) := by
      rw [select, if_neg (by simpa using ht)]
    simp only [hselect, Except.ok.injEq, forall_eq', exists_eq_left', folded, if_true, Bool.false_eq_true,
      if_false]
    constructor
    · intro h name hname
      have hp := h [.ofList name] (mem_positionsWhere_iff.2 ⟨_, rfl, by simpa using hname⟩ : 1 ∈ _)
      obtain ⟨_, hn, hfound⟩ := mem_positionsWhere_iff.1 hp
      cases hn
      simpa using hfound
    · intro h catalog p hp
      obtain ⟨name, hn, hfound⟩ := mem_positionsWhere_iff.1 hp
      exact mem_positionsWhere_iff.2 ⟨name, hn, h name.toList hfound⟩

theorem keepsMatches_startsWith_iff [Pattern.Engine] : KeepsMatches
    (.startsWith text) ↔ finalAtEnd text.toList = false := by
  refine (select_subset_iff fun name => rfl).trans (Iff.trans ?_ lowerAfter_prefix_iff)
  simp only [List.isPrefixOf_iff_prefix]
  constructor
  · intro h after
    exact h _ (List.prefix_append _ _)
  · rintro h name ⟨after, rfl⟩
    exact h after

theorem keepsMatches_endsWith_iff [Pattern.Engine] : KeepsMatches
    (.endsWith text) ↔ innerAtStart text.toList = false := by
  refine (select_subset_iff fun name => by simp).trans (Iff.trans ?_ lowerAfter_suffix_iff)
  simp only [List.isSuffixOf_iff_suffix]
  constructor
  · intro h before
    exact h _ (List.suffix_append _ _)
  · rintro h name ⟨before, rfl⟩
    exact h before

theorem keepsMatches_contains_iff [Pattern.Engine] :
    KeepsMatches (.contains text) ↔ finalAtEnd text.toList = false ∧ innerAtStart text.toList = false := by
  refine (select_subset_iff fun name => by simp [occursIn_iff]).trans (Iff.trans ?_ lowerAfter_infix_iff)
  simp only [occursIn_iff]
  constructor
  · intro h before after
    exact h _ (List.infix_append _ _ _)
  · rintro h name ⟨before, after, rfl⟩
    exact h before after

/-- A search that ignores letter case finds what the search with letter case finds, unless the text looked
for ends in a final sigma, where what is found may go on behind it, or begins with a sigma that is not final
only because nothing cased stands before it, where what is found may have begun before it. -/
theorem keepsMatches_iff [Pattern.Engine] (text : String) :
    (KeepsMatches (.startsWith text) ↔ finalAtEnd text.toList = false) ∧
      (KeepsMatches (.endsWith text) ↔ innerAtStart text.toList = false) ∧
      (KeepsMatches (.contains text) ↔ finalAtEnd text.toList = false ∧ innerAtStart text.toList = false) :=
  ⟨keepsMatches_startsWith_iff, keepsMatches_endsWith_iff, keepsMatches_contains_iff⟩

/-- The sigma that ends a name is final, and the sigma looked for is not. -/
theorem not_keepsMatches_sigma : ¬ KeepsMatches (.endsWith "Σ") := by
  intro h
  have hcase : (Call.endsWith "Σ" false).apply ["ΑΣ"] = .ok [1] := by decide +kernel
  have hnone : (Call.endsWith "Σ" true).apply ["ΑΣ"] = .ok [] := by decide +kernel
  obtain ⟨positions, hp, hsub⟩ := h ["ΑΣ"] [1] hcase
  cases hnone.symm.trans hp
  exact absurd (hsub (List.mem_singleton.2 rfl)) List.not_mem_nil

end ColumnSelect.Matcher
