/-
The lower case of a part of a text. Only a capital sigma looks at what stands around it, and it looks no
further than the nearest character on either side that is not case-ignorable. So a part has the same lower
case in a longer text as by itself (`lowerBetween_eq_lowerAfter`) unless one of its sigmas has nothing but
case-ignorable characters between itself and an end of the part. Where that is so, a letter that joins on at
this end changes the sigma, and the longer text then has one sigma less of the kind it was
(`count_append_letter_lt`, `count_cons_letter_lt`). Main statements: `lowerAfter_prefix_iff`,
`lowerAfter_suffix_iff` and `lowerAfter_infix_iff`.
-/
import ColumnSelect.Unicode.Casing
import Mathlib.Data.List.Infix
import Mathlib.Data.List.TakeWhile

namespace ColumnSelect.Unicode

variable {before before' after after' text u v w : List Char}

/-! ## The nearest character that is not case-ignorable -/

/-- All of the characters are passed over in the search for a cased one. -/
def Ignorable (text : List Char) : Prop := ∀ c ∈ text, caseIgnorable.has c = true

theorem ignorable_reverse_iff : Ignorable text.reverse ↔ Ignorable text := by
  simp [Ignorable]

theorem not_caseIgnorable_sigma : caseIgnorable.has 'Σ' = false := by decide +kernel

theorem not_ignorable_of_sigma_mem (h : 'Σ' ∈ u) : ¬ Ignorable u :=
  fun hu => nomatch not_caseIgnorable_sigma.symm.trans (hu _ h)

theorem meetsCased_of_ignorable (h : Ignorable u) : meetsCased u = false := by
  rw [meetsCased, List.dropWhile_eq_nil_iff.2 h]

theorem meetsCased_append_of_ignorable (h : Ignorable u) : meetsCased (u ++ v) = meetsCased v := by
  rw [meetsCased, List.dropWhile_append_of_pos h, meetsCased]

theorem meetsCased_append_of_not_ignorable (h : ¬ Ignorable u) : meetsCased (u ++ v) = meetsCased u := by
  obtain ⟨c, rest, hc⟩ := List.exists_cons_of_ne_nil (mt List.dropWhile_eq_nil_iff.1 h)
  rw [meetsCased, List.dropWhile_append, hc, meetsCased, hc]
  rfl

/-- Nothing is seen behind a capital sigma. -/
theorem meetsCased_append_sigma : meetsCased (u ++ 'Σ' :: v) = meetsCased (u ++ ['Σ']) := by
  rw [List.append_cons]
  exact meetsCased_append_of_not_ignorable (not_ignorable_of_sigma_mem (by simp))

theorem dropWhile_eq_sigma_iff : text.dropWhile caseIgnorable.has = 'Σ' :: v ↔
    ∃ w, text = w ++ 'Σ' :: v ∧ Ignorable w := by
  constructor
  · intro h
    refine ⟨text.takeWhile caseIgnorable.has, ?_, fun c => List.mem_takeWhile_imp⟩
    rw [← h, List.takeWhile_append_dropWhile]
  · rintro ⟨w, rfl, hw⟩
    rw [List.dropWhile_append_of_pos hw, List.dropWhile_cons_of_neg (by simp [not_caseIgnorable_sigma])]

/-! ## The lower case of a part -/

/-- The lower case of a text between `before`, which runs backwards, and `after`. -/
def lowerBetween (before : List Char) : List Char → List Char → List Char
  | [], _ => []
  | c :: text, after =>
    (if c = 'Σ' then [if finalSigma before (text ++ after) then 'ς' else 'σ'] else lowerChar c)
      ++ lowerBetween (c :: before) text after

theorem lowerAfter_append : lowerAfter before (text ++ after) =
    lowerBetween before text after ++ lowerAfter (text.reverse ++ before) after := by
  induction text generalizing before with
  | nil => rfl
  | cons c text ih => simp [lowerAfter, lowerBetween, ih]

theorem lowerBetween_nil_right : lowerBetween before text [] = lowerAfter before text := by
  have h : lowerAfter before (text ++ []) = lowerBetween before text [] ++ [] := lowerAfter_append
  rwa [List.append_nil, List.append_nil, eq_comm] at h

/-- The lower case of a part depends on what stands around it only through its capital sigmas. -/
theorem lowerBetween_congr
    (h : ∀ u w, text = u ++ 'Σ' :: w →
      finalSigma (u.reverse ++ before) (w ++ after) = finalSigma (u.reverse ++ before') (w ++ after')) :
    lowerBetween before text after = lowerBetween before' text after' := by
  induction text generalizing before before' with
  | nil => rfl
  | cons c text ih =>
    have hrest : lowerBetween (c :: before) text after = lowerBetween (c :: before') text after' := by
      refine ih fun u w hu => ?_
      simpa using h (c :: u) w (by rw [hu, List.cons_append])
    rw [lowerBetween, lowerBetween, hrest]
    split
    · rename_i hc
      have hsigma : finalSigma before (text ++ after) = finalSigma before' (text ++ after') :=
        h [] text (by rw [hc, List.nil_append])
      rw [hsigma]
    · rfl

/-- Without a capital sigma nothing that stands around matters. -/
theorem lowerBetween_of_ignorable (h : Ignorable text) :
    lowerBetween before text after = lowerBetween before' text after' := by
  refine lowerBetween_congr fun u w hu => absurd h (not_ignorable_of_sigma_mem ?_)
  simp [hu]

/-- A text is cut at a capital sigma into parts that do not see one another. -/
theorem lowerAfter_append_sigma : lowerAfter before (u ++ 'Σ' :: v) =
    lowerBetween before u ['Σ'] ++
      (if finalSigma (u.reverse ++ before) v then 'ς' else 'σ') :: lowerAfter ['Σ'] v := by
  have hleft : lowerBetween before u ('Σ' :: v) = lowerBetween before u ['Σ'] :=
    lowerBetween_congr fun _ _ _ => by rw [finalSigma, finalSigma, meetsCased_append_sigma]
  have hright : lowerAfter ('Σ' :: (u.reverse ++ before)) v = lowerAfter ['Σ'] v := by
    rw [← lowerBetween_nil_right, ← lowerBetween_nil_right]
    exact lowerBetween_congr fun _ _ _ => by rw [finalSigma, finalSigma, meetsCased_append_sigma]
  rw [lowerAfter_append, hleft, lowerAfter, hright]
  rfl

/-! ## A letter -/

theorem lowerAfter_letter : lowerAfter before ('a' :: text) = 'a' :: lowerAfter ('a' :: before) text := rfl

theorem meetsCased_letter : meetsCased ('a' :: text) = true := by
  have hi : caseIgnorable.has 'a' = false := by decide +kernel
  have hc : cased.has 'a' = true := by decide +kernel
  rw [meetsCased, List.dropWhile_cons_of_neg (by simp [hi])]
  exact hc

/-! ## Sigmas that what joins on can change -/

/-- The text ends in a final sigma and case-ignorable characters. A letter behind them makes it an inner
sigma. -/
def finalAtEnd (text : List Char) : Bool :=
  match text.reverse.dropWhile caseIgnorable.has with
  | c :: before => c = 'Σ' && meetsCased before
  | [] => false

/-- The text begins with case-ignorable characters and a sigma behind which no cased character is met. A letter
in front of them makes it a final sigma. -/
def innerAtStart (text : List Char) : Bool :=
  match text.dropWhile caseIgnorable.has with
  | c :: after => c = 'Σ' && !meetsCased after
  | [] => false

theorem finalAtEnd_iff : finalAtEnd text = true ↔
    ∃ u w, text = u ++ 'Σ' :: w ∧ meetsCased u.reverse = true ∧ Ignorable w := by
  unfold finalAtEnd
  constructor
  · split
    · rename_i c before hc
      intro h
      obtain ⟨rfl, hm⟩ : c = 'Σ' ∧ meetsCased before = true := by simpa using h
      obtain ⟨w, hw, hi⟩ := dropWhile_eq_sigma_iff.1 hc
      refine ⟨before.reverse, w.reverse, ?_, by rwa [List.reverse_reverse], ?_⟩
      · rw [← List.reverse_reverse text, hw]
        simp
      · exact ignorable_reverse_iff.2 hi
    · nofun
  · rintro ⟨u, w, rfl, hm, hi⟩
    have hdrop : (u ++ 'Σ' :: w).reverse.dropWhile caseIgnorable.has = 'Σ' :: u.reverse :=
      dropWhile_eq_sigma_iff.2 ⟨w.reverse, by simp, ignorable_reverse_iff.2 hi⟩
    rw [hdrop]
    simp [hm]

theorem innerAtStart_iff : innerAtStart text = true ↔
    ∃ w v, text = w ++ 'Σ' :: v ∧ Ignorable w ∧ meetsCased v = false := by
  unfold innerAtStart
  constructor
  · split
    · rename_i c after hc
      intro h
      obtain ⟨rfl, hm⟩ : c = 'Σ' ∧ meetsCased after = false := by simpa using h
      obtain ⟨w, hw, hi⟩ := dropWhile_eq_sigma_iff.1 hc
      exact ⟨w, after, hw, hi, hm⟩
    · nofun
  · rintro ⟨w, v, hw, hi, hm⟩
    rw [dropWhile_eq_sigma_iff.2 ⟨w, hw, hi⟩]
    simp [hm]

/-- At an end where no sigma can change, anything may join on. -/
theorem lowerBetween_eq_lowerAfter (hb : before = [] ∨ innerAtStart text = false)
    (ha : after = [] ∨ finalAtEnd text = false) : lowerBetween before text after = lowerAfter [] text := by
  rw [← lowerBetween_nil_right]
  refine lowerBetween_congr fun u w hu => ?_
  have hleft : meetsCased (u.reverse ++ before) = meetsCased u.reverse ∨ Ignorable u ∧ meetsCased w = true := by
    rcases hb with rfl | hb
    · exact .inl (by rw [List.append_nil])
    by_cases hi : Ignorable u
    · refine .inr ⟨hi, by_contra fun hm => ?_⟩
      exact nomatch hb.symm.trans (innerAtStart_iff.2 ⟨u, w, hu, hi, by simpa using hm⟩)
    · exact .inl (meetsCased_append_of_not_ignorable (mt ignorable_reverse_iff.1 hi))
  have hright : meetsCased (w ++ after) = meetsCased w ∨ Ignorable w ∧ meetsCased u.reverse = false := by
    rcases ha with rfl | ha
    · exact .inl (by rw [List.append_nil])
    by_cases hi : Ignorable w
    · refine .inr ⟨hi, by_contra fun hm => ?_⟩
      exact nomatch ha.symm.trans (finalAtEnd_iff.2 ⟨u, w, hu, by simpa using hm, hi⟩)
    · exact .inl (meetsCased_append_of_not_ignorable hi)
  rcases hleft with hl | ⟨-, hm⟩
  · rcases hright with hr | ⟨-, hm⟩
    · rw [finalSigma, hl, hr]
      simp [finalSigma]
    · simp [finalSigma, hl, hm]
  · have hi : ¬ Ignorable w := fun hi => nomatch hm.symm.trans (meetsCased_of_ignorable hi)
    simp [finalSigma, meetsCased_append_of_not_ignorable hi, hm]

/-- A letter behind the text takes a final sigma from it. -/
theorem count_append_letter_lt (h : finalAtEnd text = true) :
    (lowerAfter [] (text ++ ['a'])).count 'ς' < (lowerAfter [] text).count 'ς' := by
  obtain ⟨u, w, rfl, hm, hi⟩ := finalAtEnd_iff.1 h
  have hsame : lowerBetween ['Σ'] w ['a'] = lowerBetween ['Σ'] w [] := lowerBetween_of_ignorable hi
  have hrest : lowerAfter ['Σ'] (w ++ ['a']) = lowerAfter ['Σ'] w ++ ['a'] := by
    rw [lowerAfter_append, hsame, lowerBetween_nil_right]
    rfl
  have hfinal : finalSigma (u.reverse ++ []) w = true := by
    simp [finalSigma, hm, meetsCased_of_ignorable hi]
  have hinner : finalSigma (u.reverse ++ []) (w ++ ['a']) = false := by
    simp [finalSigma, meetsCased_append_of_ignorable hi, meetsCased_letter]
  rw [List.append_assoc, List.cons_append, lowerAfter_append_sigma, lowerAfter_append_sigma, hfinal, hinner, hrest]
  simp

/-- A letter in front of the text takes an inner sigma from it. -/
theorem count_cons_letter_lt (h : innerAtStart text = true) :
    (lowerAfter [] ('a' :: text)).count 'σ' < (lowerAfter [] text).count 'σ' := by
  obtain ⟨w, v, rfl, hi, hm⟩ := innerAtStart_iff.1 h
  have hi' := ignorable_reverse_iff.2 hi
  have hinner : finalSigma (w.reverse ++ []) v = false := by
    simp [finalSigma, meetsCased_of_ignorable hi']
  have hfinal : finalSigma (w.reverse ++ ['a']) v = true := by
    simp [finalSigma, meetsCased_append_of_ignorable hi', meetsCased_letter, hm]
  have hsame : lowerBetween ['a'] w ['Σ'] = lowerBetween [] w ['Σ'] := lowerBetween_of_ignorable hi
  rw [lowerAfter_letter, lowerAfter_append_sigma, lowerAfter_append_sigma, hfinal, hinner, hsame]
  simp

/-! ## Parts -/

/-- What begins with the text has a lower case that begins with the lower case of the text. -/
theorem lowerAfter_prefix_iff :
    (∀ after, lowerAfter [] text <+: lowerAfter [] (text ++ after)) ↔ finalAtEnd text = false := by
  constructor
  · intro h
    by_contra hf
    have hlt := count_append_letter_lt (by simpa using hf)
    exact absurd ((h ['a']).sublist.count_le 'ς') (Nat.not_le.2 hlt)
  · intro hf after
    rw [lowerAfter_append, lowerBetween_eq_lowerAfter (.inl rfl) (.inr hf)]
    exact List.prefix_append _ _

/-- What ends with the text has a lower case that ends with the lower case of the text. -/
theorem lowerAfter_suffix_iff :
    (∀ before, lowerAfter [] text <:+ lowerAfter [] (before ++ text)) ↔ innerAtStart text = false := by
  constructor
  · intro h
    by_contra hs
    have hlt := count_cons_letter_lt (by simpa using hs)
    exact absurd ((h ['a']).sublist.count_le 'σ') (Nat.not_le.2 hlt)
  · intro hs before
    have hsame : lowerAfter (before.reverse ++ []) text = lowerAfter [] text := by
      rw [← lowerBetween_nil_right, lowerBetween_eq_lowerAfter (.inr hs) (.inl rfl)]
    rw [lowerAfter_append, hsame]
    exact List.suffix_append _ _

/-- What contains the text has a lower case that contains the lower case of the text. -/
theorem lowerAfter_infix_iff :
    (∀ before after, lowerAfter [] text <:+: lowerAfter [] (before ++ text ++ after)) ↔
      finalAtEnd text = false ∧ innerAtStart text = false := by
  constructor
  · intro h
    constructor
    · by_contra hf
      have hlt := count_append_letter_lt (by simpa using hf)
      exact absurd ((h [] ['a']).sublist.count_le 'ς') (Nat.not_le.2 hlt)
    · by_contra hs
      have hlt := count_cons_letter_lt (by simpa using hs)
      have hle := (h ['a'] []).sublist.count_le 'σ'
      rw [List.append_nil] at hle
      exact absurd hle (Nat.not_le.2 hlt)
  · rintro ⟨hf, hs⟩ before after
    rw [List.append_assoc, lowerAfter_append, lowerAfter_append,
      lowerBetween_eq_lowerAfter (.inr hs) (.inr hf), ← List.append_assoc]
    exact List.infix_append _ _ _

end ColumnSelect.Unicode
