/-
How long the lower case of a text is. Every character has a lower case of one character, but for the capital
dotted I, whose lower case is an i and a combining dot above. An i comes from no other character than an i, and a
dot from no other than a dot, so the pairs of them in a lower case tell how many dotted capitals there may have been
(`dottedPairs_lowerAfter`). Hence a text whose lower case ends with the lower case of another may be shorter than
the other, but by no more characters than the other has pairs of an i and a dot (`length_le_of_lower_suffix`); and
with a dotted capital in place of each pair (`composed`) the other is that much shorter itself and has the same
lower case (`lowerAfter_composed`).
-/
import ColumnSelect.Proofs.Unicode.Casing

namespace ColumnSelect.Unicode

variable {before before' text name u v : List Char} {c d : Char}

/-! ## Single characters -/

theorem eq_toNat_of_ofNat {n : Nat} (h : Char.ofNat n = d) (hd : d.toNat ≠ 0) : n = d.toNat := by
  by_cases hn : n.isValidChar
  · rw [Char.ofNat, dif_pos hn] at h
    rw [← h]
    rfl
  · rw [Char.ofNat, dif_neg hn] at h
    rw [← h] at hd
    exact absurd rfl hd

/-- No run beyond ASCII takes a character to this one. -/
def missedByRuns (d : Char) : Bool :=
  lowerRuns.all fun r => r.hi < 128 || d.toNat < r.lo + r.shift || r.hi + r.shift < d.toNat

theorem eq_of_map_lowerRuns (hm : missedByRuns d = true) (hd : d.toNat ≠ 0) (hc : 128 ≤ c.toNat)
    (h : CaseRun.map lowerRuns c = d) : c = d := by
  unfold CaseRun.map at h
  split at h
  · rename_i n hn
    obtain ⟨r, hr, hi⟩ := List.exists_of_findSome?_eq_some hn
    have hrun := List.all_eq_true.1 hm r hr
    have himage := eq_toNat_of_ofNat h hd
    unfold CaseRun.image? at hi
    split at hi
    · rename_i hin
      cases hi
      simp only [Bool.and_eq_true, Bool.or_eq_true, decide_eq_true_eq] at hin hrun
      omega
    · cases hi
  · exact h

/-- The character is an i, small or capital, and no dotted capital. -/
def isI (c : Char) : Bool := c == 'i' || c == 'I'

theorem isI_iff : isI c = true ↔ c = 'i' ∨ c = 'I' := by simp [isI]

/-- Where the lower case of a character is one character, it is an i exactly if the character is one, and a dot
exactly if it is one. -/
theorem lowerChar_of_ne (h : c ≠ 'İ') :
    ∃ d, lowerChar c = [d] ∧ isI d = isI c ∧ (d = '\u0307' ↔ c = '\u0307') := by
  unfold lowerChar
  split
  · rename_i hc
    have hascii : ∀ n < 128, isI (Char.ofNat n).toLower = isI (Char.ofNat n) ∧
        (Char.ofNat n).toLower ≠ '\u0307' ∧ Char.ofNat n ≠ '\u0307' := by decide +kernel
    have hchar := hascii c.toNat hc
    rw [Char.ofNat_toNat] at hchar
    exact ⟨_, rfl, hchar.1, iff_of_false hchar.2.1 hchar.2.2⟩
  · rename_i hc
    have hc : 128 ≤ c.toNat := Nat.not_lt.1 hc
    have hne (d : Char) (hd : d.toNat < 128) : c ≠ d := by
      rintro rfl
      omega
    have hi := mt (eq_of_map_lowerRuns (d := 'i') (by decide +kernel) (by decide) hc) (hne 'i' (by decide))
    have hI := mt (eq_of_map_lowerRuns (d := 'I') (by decide +kernel) (by decide) hc) (hne 'I' (by decide))
    refine ⟨_, rfl, ?_, eq_of_map_lowerRuns (by decide +kernel) (by decide) hc, ?_⟩
    · rw [Bool.eq_iff_iff, isI_iff, isI_iff]
      exact iff_of_false (not_or_intro hi hI) (not_or_intro (hne 'i' (by decide)) (hne 'I' (by decide)))
    · rintro rfl
      decide +kernel

/-- The same with the sigma, whose lower case is one of two. -/
theorem lowerAfter_cons_of_ne (before text : List Char) (h : c ≠ 'İ') :
    ∃ d, lowerAfter before (c :: text) = d :: lowerAfter (c :: before) text ∧ isI d = isI c ∧
      (d = '\u0307' ↔ c = '\u0307') := by
  rw [lowerAfter]
  split
  · rename_i hc
    subst hc
    refine ⟨_, rfl, ?_, ?_⟩
    · split <;> decide
    · split <;> decide
  · obtain ⟨d, hd, hi, hdot⟩ := lowerChar_of_ne h
    exact ⟨d, by rw [hd]; rfl, hi, hdot⟩

theorem lowerAfter_cons_dotted (before text : List Char) :
    lowerAfter before ('İ' :: text) = 'i' :: '\u0307' :: lowerAfter ('İ' :: before) text := rfl

/-! ## Length -/

theorem length_lowerAfter (before text : List Char) :
    (lowerAfter before text).length = text.length + text.count 'İ' := by
  induction text generalizing before with
  | nil => rfl
  | cons c text ih =>
    by_cases hc : c = 'İ'
    · subst hc
      rw [lowerAfter_cons_dotted, List.length_cons, List.length_cons, ih, List.length_cons, List.count_cons_self]
      omega
    · obtain ⟨d, hd, -, -⟩ := lowerAfter_cons_of_ne before text hc
      rw [hd, List.length_cons, ih, List.length_cons, List.count_cons_of_ne hc]
      omega

/-- How often an i stands directly before a combining dot above. -/
def dottedPairs : List Char → Nat
  | [] => 0
  | c :: text => (if isI c = true ∧ text.head? = some '\u0307' then 1 else 0) + dottedPairs text

theorem head?_lowerAfter (before text : List Char) :
    (lowerAfter before text).head? = some '\u0307' ↔ text.head? = some '\u0307' := by
  cases text with
  | nil => rfl
  | cons c text =>
    by_cases hc : c = 'İ'
    · subst hc
      rw [lowerAfter_cons_dotted, List.head?_cons, List.head?_cons]
      decide
    · obtain ⟨d, hd, -, hdot⟩ := lowerAfter_cons_of_ne before text hc
      rw [hd, List.head?_cons, List.head?_cons, Option.some_inj, Option.some_inj, hdot]

/-- In lower case there are the pairs that were there and those that dotted capitals became. -/
theorem dottedPairs_lowerAfter (before text : List Char) :
    dottedPairs (lowerAfter before text) = dottedPairs text + text.count 'İ' := by
  induction text generalizing before with
  | nil => rfl
  | cons c text ih =>
    by_cases hc : c = 'İ'
    · subst hc
      rw [lowerAfter_cons_dotted, dottedPairs, dottedPairs, dottedPairs, ih, List.count_cons_self]
      simp [isI]
      omega
    · obtain ⟨d, hd, hi, -⟩ := lowerAfter_cons_of_ne before text hc
      rw [hd, dottedPairs, dottedPairs, ih, List.count_cons_of_ne hc]
      simp only [hi, head?_lowerAfter]
      omega

theorem dottedPairs_append_le (u v : List Char) : dottedPairs (u ++ v) ≤ u.length + dottedPairs v := by
  induction u with
  | nil => simp
  | cons c u ih =>
    rw [List.cons_append, dottedPairs, List.length_cons]
    split <;> omega

/-- A text whose lower case ends with the lower case of another is shorter by the pairs of the other at most. -/
theorem length_le_of_lower_suffix (h : lowerAfter [] text <:+ lowerAfter [] name) :
    text.length ≤ name.length + dottedPairs text := by
  obtain ⟨front, hfront⟩ := h
  have hlength := congrArg List.length hfront
  rw [List.length_append, length_lowerAfter, length_lowerAfter] at hlength
  have hpairs : dottedPairs (lowerAfter [] name) ≤ front.length + dottedPairs (lowerAfter [] text) := by
    rw [← hfront]
    exact dottedPairs_append_le _ _
  rw [dottedPairs_lowerAfter, dottedPairs_lowerAfter] at hpairs
  omega

/-! ## Pairs put together -/

/-- The text with a dotted capital in place of every i that stands directly before a dot, and of the dot. -/
def composed : List Char → List Char
  | c :: d :: text => if isI c = true ∧ d = '\u0307' then 'İ' :: composed text else c :: composed (d :: text)
  | text => text

theorem length_composed (text : List Char) : (composed text).length + dottedPairs text = text.length := by
  fun_induction composed text with
  | case1 c d text h ih =>
    obtain ⟨hi, rfl⟩ := h
    have hdot : isI '\u0307' = false := by decide
    rw [dottedPairs, dottedPairs, if_pos ⟨hi, rfl⟩, if_neg (by simp [hdot]), List.length_cons, List.length_cons,
      List.length_cons, ← ih]
    omega
  | case2 c d text h ih =>
    rw [dottedPairs, if_neg (by simpa using h), List.length_cons, List.length_cons, ← ih]
    omega
  | case3 text h =>
    rcases text with _ | ⟨c, _ | ⟨d, text⟩⟩
    · rfl
    · simp [dottedPairs]
    · exact absurd rfl (h c d text)

theorem meetsCased_cons (c : Char) (text : List Char) :
    meetsCased (c :: text) = if caseIgnorable.has c then meetsCased text else cased.has c := by
  cases h : caseIgnorable.has c with
  | true => rw [meetsCased, List.dropWhile_cons_of_pos h, if_pos rfl, meetsCased]
  | false => rw [meetsCased, List.dropWhile_cons_of_neg (by simp [h]), if_neg Bool.false_ne_true]

/-- An i is a cased character, like the dotted capital that stands for it and its dot. -/
theorem meetsCased_isI (h : isI c = true) (text : List Char) : meetsCased (c :: text) = true := by
  have hc : caseIgnorable.has c = false ∧ cased.has c = true := by
    rcases isI_iff.1 h with rfl | rfl <;> decide +kernel
  rw [meetsCased_cons, hc.1, hc.2]
  rfl

theorem meetsCased_dotted (text : List Char) : meetsCased ('İ' :: text) = true := by
  have hc : caseIgnorable.has 'İ' = false ∧ cased.has 'İ' = true := by decide +kernel
  rw [meetsCased_cons, hc.1, hc.2]
  rfl

theorem meetsCased_dot (text : List Char) : meetsCased ('\u0307' :: text) = meetsCased text := by
  have hc : caseIgnorable.has '\u0307' = true := by decide +kernel
  rw [meetsCased_cons, if_pos hc]

/-- A sigma that looks at the text sees the same. -/
theorem meetsCased_composed (text : List Char) : meetsCased (composed text) = meetsCased text := by
  fun_induction composed text with
  | case1 c d text h ih => rw [meetsCased_dotted, meetsCased_isI h.1]
  | case2 c d text h ih => rw [meetsCased_cons, ih, ← meetsCased_cons]
  | case3 text h => rfl

/-- With the pairs put together, a text has the same lower case, also behind another text in which they are put
together or are not. -/
theorem lowerAfter_composed (h : meetsCased before = meetsCased before') :
    lowerAfter before (composed text) = lowerAfter before' text := by
  fun_induction composed text generalizing before before' with
  | case1 c d text hpair ih =>
    obtain ⟨hi, rfl⟩ := hpair
    have hrest : meetsCased ('İ' :: before) = meetsCased ('\u0307' :: c :: before') := by
      rw [meetsCased_dotted, meetsCased_dot, meetsCased_isI hi]
    rcases isI_iff.1 hi with rfl | rfl
    · rw [lowerAfter_cons_dotted, ih hrest]
      rfl
    · rw [lowerAfter_cons_dotted, ih hrest]
      rfl
  | case2 c d text hpair ih =>
    have hrest : meetsCased (c :: before) = meetsCased (c :: before') := by rw [meetsCased_cons, meetsCased_cons, h]
    have hafter : meetsCased (composed (d :: text)) = meetsCased (d :: text) := meetsCased_composed _
    rw [lowerAfter, lowerAfter, ih hrest, finalSigma, finalSigma, h, hafter]
  | case3 text hshort =>
    rcases text with _ | ⟨c, _ | ⟨d, text⟩⟩
    · rfl
    · show _ ++ [] = _ ++ []
      rw [finalSigma, finalSigma, h]
    · exact absurd rfl (hshort c d text)

end ColumnSelect.Unicode
