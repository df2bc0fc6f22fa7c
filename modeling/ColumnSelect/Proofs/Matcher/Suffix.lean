/-
Names that are selected by their end, and how long they are. With letter case, such a name is no shorter than the
text it ends with. Without, the lower case of the name ends with the lower case of the text, and a dotted capital
may stand in the name for an i and a dot of the text: the name may then be shorter by as many characters as the
text has such pairs, and not by more. Main statement: `endsWith_lacksAtMost_iff`.
-/
import ColumnSelect.Matcher.Call
import ColumnSelect.Pattern.Standard
import ColumnSelect.Proofs.Catalog
import ColumnSelect.Proofs.Unicode.Length

namespace ColumnSelect.Matcher

open Unicode

/-- No name that the call selects is more than `k` characters shorter than the text. -/
def LacksAtMost [Pattern.Engine] (k : Nat) (text : String) (call : Call) : Prop :=
  ∀ catalog positions, call.apply catalog = .ok positions →
    ∀ p ∈ positions, ∀ name, catalog.nameAt? p = some name → text.length ≤ name.length + k

variable {k : Nat} {text : String} {ignoreCase : Bool}

/-- A catalog of one name shows it for that name. -/
theorem lacksAtMost_endsWith_iff [Pattern.Engine] : LacksAtMost k text (.endsWith text ignoreCase) ↔
    ∀ name : String, folded ignoreCase text <:+ folded ignoreCase name → text.length ≤ name.length + k := by
  by_cases ht : text = ""
  · subst ht
    simp [LacksAtMost]
  · have happly (catalog : Catalog) : (Call.endsWith text ignoreCase).apply catalog =
        .ok (catalog.positionsWhere fun name => (folded ignoreCase text).isSuffixOf (folded ignoreCase name)) := by
      rw [Call.apply, select, if_neg (by simpa using ht)]
    simp only [LacksAtMost, happly, Except.ok.injEq, forall_eq', mem_positionsWhere_iff,
      List.isSuffixOf_iff_suffix]
    constructor
    · intro h name hsuffix
      exact h [name] 1 ⟨name, rfl, hsuffix⟩ name rfl
    · rintro h catalog p ⟨name, hname, hsuffix⟩ name' hname'
      cases hname.symm.trans hname'
      exact h name hsuffix

/-- A search for names that end with a text selects none that is shorter than the text as long as letter case
counts. Where it does not, the names may be shorter by the number of i that stand directly before a combining dot
above in the text, and some name is. -/
theorem endsWith_lacksAtMost_iff [Pattern.Engine] (text : String) :
    LacksAtMost 0 text (.endsWith text false) ∧
      ∀ k, LacksAtMost k text (.endsWith text true) ↔ dottedPairs text.toList ≤ k := by
  constructor
  · refine lacksAtMost_endsWith_iff.2 fun name hsuffix => ?_
    have hlength : text.toList.length ≤ name.toList.length := hsuffix.length_le
    rwa [String.length_toList, String.length_toList] at hlength
  · intro k
    simp only [lacksAtMost_endsWith_iff, folded, if_true, ← String.length_toList]
    constructor
    · intro h
      have hsame : lowerAfter [] (composed text.toList) = lowerAfter [] text.toList := lowerAfter_composed rfl
      have hname := h (.ofList (composed text.toList))
      rw [String.toList_ofList, hsame] at hname
      have hlength := hname (List.suffix_refl _)
      rw [← length_composed text.toList] at hlength
      omega
    · intro hk name hsuffix
      have := length_le_of_lower_suffix hsuffix
      omega

/-- A name of one character ends, in lower case, with a text of two. -/
theorem not_endsWith_lacksAtMost_dotted :
    ¬ ∀ (text : String) (ignoreCase : Bool), text ≠ "" → LacksAtMost 0 text (.endsWith text ignoreCase) := by
  intro h
  have happly : (Call.endsWith "i\u0307" true).apply ["İ"] = .ok [1] := by decide +kernel
  have hlength := h "i\u0307" true (by decide) ["İ"] [1] happly 1 (List.mem_singleton_self 1) "İ" rfl
  exact absurd hlength (by decide)

end ColumnSelect.Matcher
