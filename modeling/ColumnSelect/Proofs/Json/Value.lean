/-
Values of any shape read from JSON texts, and read back from the text that they are written as. What is written
of an item is read back in front of whatever does not go on with a number (`ReadBack`), and so are items between
brackets and members between braces with commas between them; a value is read back by its parts. Main statements:
`ofText_text`, and `newline_notMem_write`, by which the text of a value is one line.
-/
import ColumnSelect.Json.Reader
import ColumnSelect.Json.Value
import ColumnSelect.Proofs.Json.Text
import ColumnSelect.Proofs.KeyOrder
import ColumnSelect.Proofs.Text.Decimal

namespace ColumnSelect.Json

open Text

/-! ## The reader -/

/-- The whole number in front of a text. Any number is taken exactly, and none with a fraction or an exponent. -/
def readInt : Reader Int := fun cs => do
  let (n, rest) ← Numeral.read cs
  if n.fraction.isEmpty && n.exponent.isNone then
    return (if n.negative then -digitsValue n.whole else digitsValue n.whole, rest)
  else throw .malformed

/-- The members of an object of values of one kind, up to its closing brace. Every member takes a character, so
`fuel` need not exceed the length of the text by more than one. -/
def readMembers {α : Type} (value : Reader α) (fuel : Nat) (first : Bool) : Reader (List (String × α)) := fun cs =>
  match fuel with
  | 0 => .error .malformed
  | fuel + 1 => do
    match ← nextKey first cs with
    | (none, rest) => return ([], rest.drop 1)
    | (some key, rest) => do
      let (v, rest) ← value (← skipColon rest)
      let (members, rest) ← readMembers value fuel false rest
      return ((key, v) :: members, rest)

/-- A value of any shape, nested in less than `fuel` others. -/
def readValue (fuel : Nat) : Reader Json := fun cs =>
  match fuel with
  | 0 => .error .malformed
  | fuel + 1 =>
    match skipSpace cs with
    | 'n' :: rest => do return (.null, ← skipWord ['u', 'l', 'l'] rest)
    | 't' :: rest => do return (.bool true, ← skipWord ['r', 'u', 'e'] rest)
    | 'f' :: rest => do return (.bool false, ← skipWord ['a', 'l', 's', 'e'] rest)
    | '"' :: rest => do
      let (text, rest) ← readChars rest
      return (.str (String.ofList text), rest)
    | '[' :: rest => do
      let (items, rest) ← readItems (readValue fuel) (rest.length + 1) true rest
      return (.arr items, rest)
    | '\x7b' :: rest => do
      let (members, rest) ← readMembers (readValue fuel) (rest.length + 1) true rest
      return (.obj members, rest)
    | cs => do
      let (value, rest) ← readInt cs
      return (.int value, rest)

/-- The value of a whole text. -/
def ofText (text : String) : Except Fault Json := readText (readValue (text.toList.length + 1)) text

/-! ## Numbers -/

/-- A text with which no number goes on. -/
def EndsValue (rest : List Char) : Prop :=
  ∀ c ∈ rest.head?, c.isDigit = false ∧ c ≠ '.' ∧ c ≠ 'e' ∧ c ≠ 'E'

theorem endsValue_nil : EndsValue [] := nofun

theorem endsValue_comma (cs : List Char) : EndsValue (',' :: cs) := by
  rintro _ ⟨⟩
  decide

theorem endsValue_bracket (cs : List Char) : EndsValue (']' :: cs) := by
  rintro _ ⟨⟩
  decide

theorem endsValue_brace (cs : List Char) : EndsValue ('\x7d' :: cs) := by
  rintro _ ⟨⟩
  decide

theorem digitsValue_toDigits (n : Nat) : digitsValue (Nat.toDigits 10 n) = n := by
  rw [digitsValue, ← Nat.ofDigitChars_eq_foldl, Nat.ofDigitChars_ten_toDigits]

/-- The digits of a number other than zero do not begin with zero. -/
theorem head_toDigits_ne_zero (n : Nat) (h : n ≠ 0) : (Nat.toDigits 10 n).head? ≠ some '0' := by
  induction n using Nat.strongRecOn with
  | ind n ih =>
    by_cases hlt : n < 10
    · rw [Nat.toDigits_of_lt_base hlt]
      have hdigit : ∀ k < 10, k ≠ 0 → [Nat.digitChar k].head? ≠ some '0' := by decide
      exact hdigit n hlt h
    · rw [Nat.toDigits_of_base_le (by decide) (Nat.not_lt.1 hlt), List.head?_append_of_ne_nil _ Nat.toDigits_ne_nil]
      exact ih (n / 10) (by omega) (by omega)

theorem readDigits_written {digits rest : List Char} (hne : digits ≠ []) (h : ∀ c ∈ digits, c.isDigit = true)
    (hrest : EndsValue rest) : readDigits (digits ++ rest) = .ok (digits, rest) := by
  have hstop : rest.takeWhile Char.isDigit = [] ∧ rest.dropWhile Char.isDigit = rest := by
    cases rest with
    | nil => exact ⟨rfl, rfl⟩
    | cons c cs =>
      have hc := (hrest c rfl).1
      simp [hc]
  rw [readDigits, List.takeWhile_append_of_pos h, List.dropWhile_append_of_pos h, hstop.1, hstop.2, List.append_nil,
    if_neg (by simpa using hne)]

theorem readWhole_toDigits (n : Nat) {rest : List Char} (hrest : EndsValue rest) :
    readWhole (Nat.toDigits 10 n ++ rest) = .ok (Nat.toDigits 10 n, rest) := by
  -- zero is a digit on its own, behind which no digit may stand
  by_cases hn : n = 0
  · rw [hn, Nat.toDigits_zero, List.singleton_append, readWhole]
    cases rest with
    | nil => rfl
    | cons c cs =>
      have hc := (hrest c rfl).1
      simp [hc]
  · obtain ⟨c, cs, hd, -⟩ := toDigits_eq_cons n
    have hzero := head_toDigits_ne_zero n hn
    have hdigits : ∀ d ∈ c :: cs, d.isDigit = true := hd ▸ isDigit_of_mem_toDigits
    rw [hd] at hzero ⊢
    rw [List.cons_append, readWhole.eq_2 _ fun _ h => hzero (by rw [List.head?_cons, (List.cons.inj h).1]),
      ← List.cons_append]
    exact readDigits_written (by simp) hdigits hrest

theorem readFraction_of_ends {rest : List Char} (h : EndsValue rest) : readFraction rest = .ok ([], rest) := by
  cases rest with
  | nil => rfl
  | cons c cs =>
    refine readFraction.eq_2 _ fun _ hc => ?_
    cases hc
    exact (h '.' rfl).2.1 rfl

theorem readExponent_of_ends {rest : List Char} (h : EndsValue rest) : readExponent rest = .ok (none, rest) := by
  cases rest with
  | nil => rfl
  | cons c cs =>
    obtain ⟨-, -, he, hE⟩ := h c rfl
    have hmark : ¬ (decide (c = 'e') || decide (c = 'E')) = true := by simp [he, hE]
    exact if_neg hmark

/-- Digits are read as a numeral without a fraction and without an exponent. -/
theorem numeral_behind_sign (negative : Bool) (n : Nat) {rest : List Char} (hrest : EndsValue rest) :
    (do
      let (whole, rest) ← readWhole (Nat.toDigits 10 n ++ rest)
      let (fraction, rest) ← readFraction rest
      let (exponent, rest) ← readExponent rest
      return (⟨negative, whole, fraction, exponent⟩, rest) : Except Fault (Numeral × List Char)) =
    .ok (⟨negative, Nat.toDigits 10 n, [], none⟩, rest) := by
  rw [readWhole_toDigits n hrest]
  show readFraction rest >>= _ = _
  rw [readFraction_of_ends hrest]
  show readExponent rest >>= _ = _
  rw [readExponent_of_ends hrest]
  rfl

theorem numeral_read_minus (n : Nat) {rest : List Char} (hrest : EndsValue rest) :
    Numeral.read ('-' :: (Nat.toDigits 10 n ++ rest)) = .ok (⟨true, Nat.toDigits 10 n, [], none⟩, rest) :=
  numeral_behind_sign true n hrest

theorem numeral_read_digits (n : Nat) {rest : List Char} (hrest : EndsValue rest) :
    Numeral.read (Nat.toDigits 10 n ++ rest) = .ok (⟨false, Nat.toDigits 10 n, [], none⟩, rest) := by
  have hsign : ∀ cs, Nat.toDigits 10 n ++ rest ≠ '-' :: cs := by
    intro cs h
    obtain ⟨c, digits, hd, hdigit⟩ := toDigits_eq_cons n
    rw [hd, List.cons_append] at h
    cases h
    exact absurd hdigit (by decide)
  rw [Numeral.read.eq_2 _ hsign]
  exact numeral_behind_sign false n hrest

theorem readInt_written (value : Int) {rest : List Char} (hrest : EndsValue rest) :
    readInt ((toString value).toList ++ rest) = .ok (value, rest) := by
  rw [toList_toString_int, signOf, readInt]
  split
  case isTrue h =>
    rw [List.singleton_append, List.cons_append, numeral_read_minus _ hrest]
    show Except.ok (-((digitsValue (Nat.toDigits 10 value.natAbs) : Nat) : Int), rest) = _
    rw [digitsValue_toDigits, Int.ofNat_natAbs_of_nonpos (by omega), Int.neg_neg]
  case isFalse h =>
    rw [List.nil_append, numeral_read_digits _ hrest]
    show Except.ok (((digitsValue (Nat.toDigits 10 value.natAbs) : Nat) : Int), rest) = _
    rw [digitsValue_toDigits, Int.natAbs_of_nonneg (by omega)]

/-! ## Items and members -/

theorem skipSpace_cons {c : Char} (h : isSpace c = false) (cs : List Char) : skipSpace (c :: cs) = c :: cs := by
  rw [skipSpace, List.dropWhile_cons_of_neg (by simp [h])]

theorem commaSeparated_cons (text : List Char) (texts : List (List Char)) :
    commaSeparated (text :: texts) = text ++ texts.flatMap (',' :: ·) := by
  induction texts generalizing text with
  | nil => simp [commaSeparated]
  | cons other texts ih =>
    have h := ih other
    rw [commaSeparated] at h ⊢
    rw [List.intercalate_cons_cons, h, List.flatMap_cons]
    simp

/-- There are no more texts than characters, with the comma in front of each. -/
theorem length_le_commaSeparated (texts : List (List Char)) : texts.length ≤ (commaSeparated texts).length + 1 := by
  have hbehind : ∀ texts : List (List Char), texts.length ≤ (texts.flatMap (',' :: ·)).length := by
    intro texts
    induction texts with
    | nil => exact Nat.le_refl 0
    | cons text texts ih =>
      rw [List.flatMap_cons, List.length_append, List.length_cons, List.length_cons]
      omega
  cases texts with
  | nil => exact Nat.zero_le _
  | cons text texts =>
    have h := hbehind texts
    rw [commaSeparated_cons, List.length_append, List.length_cons]
    omega

/-- So the steps that the text behind an opening bracket allows are enough. -/
theorem length_lt_enclosed (texts : List (List Char)) (close : Char) (rest : List Char) :
    texts.length < (commaSeparated texts ++ close :: rest).length + 1 := by
  have hlength := length_le_commaSeparated texts
  rw [List.length_append, List.length_cons]
  omega

theorem length_le_of_mem {text : List Char} {texts : List (List Char)} (h : text ∈ texts) :
    text.length ≤ (commaSeparated texts).length := by
  have hbehind : ∀ {texts : List (List Char)}, text ∈ texts → text.length ≤ (texts.flatMap (',' :: ·)).length := by
    intro texts h
    obtain ⟨front, behind, rfl⟩ := List.append_of_mem h
    rw [List.flatMap_append, List.flatMap_cons, List.length_append, List.length_append, List.length_cons]
    omega
  cases h with
  | head texts =>
    rw [commaSeparated_cons, List.length_append]
    omega
  | tail first h =>
    have h := hbehind h
    rw [commaSeparated_cons, List.length_append]
    omega

/-- A text that a value is read back from, in front of whatever no number goes on with. Neither a blank nor the
end of an array is at its front. -/
structure ReadBack {α : Type} (item : Reader α) (text : List Char) (value : α) : Prop where
  front : ∃ c cs, text = c :: cs ∧ isSpace c = false ∧ c ≠ ']'
  read : ∀ {rest}, EndsValue rest → item (text ++ rest) = .ok (value, rest)

section

variable {α : Type} {item : Reader α}

theorem endsValue_behind (texts : List (List Char)) {rest : List Char} (h : EndsValue rest) :
    EndsValue (texts.flatMap (',' :: ·) ++ rest) := by
  cases texts with
  | nil => exact h
  | cons text texts => exact endsValue_comma _

theorem moreItems_first {c : Char} (h : isSpace c = false) (hc : c ≠ ']') (cs : List Char) :
    moreItems true (c :: cs) = .ok (true, c :: cs) := by
  rw [moreItems, skipSpace_cons h]
  simp

theorem moreItems_behind {c : Char} (h : isSpace c = false) (hc : c ≠ ']') (cs : List Char) :
    moreItems false (',' :: c :: cs) = .ok (true, c :: cs) := by
  rw [moreItems, skipSpace_cons (by decide)]
  simp [skipSpace_cons h, hc]

theorem moreItems_close (first : Bool) (cs : List Char) : moreItems first (']' :: cs) = .ok (false, ']' :: cs) := by
  rw [moreItems, skipSpace_cons (by decide)]
  rfl

theorem readItems_close (fuel : Nat) (first : Bool) (rest : List Char) :
    readItems item (fuel + 1) first (']' :: rest) = .ok ([], rest) := by
  rw [readItems, moreItems_close]
  rfl

theorem readItems_step {fuel : Nat} {first : Bool} {cs front behind rest : List Char} {value : α} {values : List α}
    (hmore : moreItems first cs = .ok (true, front)) (hitem : item front = .ok (value, behind))
    (hitems : readItems item fuel false behind = .ok (values, rest)) :
    readItems item (fuel + 1) first cs = .ok (value :: values, rest) := by
  rw [readItems, hmore]
  show item front >>= _ = _
  rw [hitem]
  show readItems item fuel false behind >>= _ = _
  rw [hitems]
  rfl

/-- Items with a comma in front of each are read back. -/
theorem readItems_behind {texts : List (List Char)} {values : List α}
    (h : List.Forall₂ (ReadBack item) texts values) {fuel : Nat} (hfuel : texts.length < fuel) (rest : List Char) :
    readItems item fuel false (texts.flatMap (',' :: ·) ++ ']' :: rest) = .ok (values, rest) := by
  induction h generalizing fuel with
  | nil =>
    obtain ⟨fuel, rfl⟩ := Nat.exists_eq_succ_of_ne_zero (Nat.ne_of_gt hfuel)
    exact readItems_close fuel false rest
  | @cons text value texts values hfirst _ ih =>
    obtain ⟨fuel, rfl⟩ := Nat.exists_eq_succ_of_ne_zero (Nat.ne_zero_of_lt hfuel)
    obtain ⟨c, cs, rfl, hspace, hc⟩ := hfirst.front
    rw [List.flatMap_cons, List.append_assoc]
    exact readItems_step (moreItems_behind hspace hc _) (hfirst.read (endsValue_behind texts (endsValue_bracket rest)))
      (ih (Nat.lt_of_succ_lt_succ hfuel))

/-- Items with a comma between each two are read back. -/
theorem readItems_written {texts : List (List Char)} {values : List α}
    (h : List.Forall₂ (ReadBack item) texts values) {fuel : Nat} (hfuel : texts.length < fuel) (rest : List Char) :
    readItems item fuel true (commaSeparated texts ++ ']' :: rest) = .ok (values, rest) := by
  obtain ⟨fuel, rfl⟩ := Nat.exists_eq_succ_of_ne_zero (Nat.ne_zero_of_lt hfuel)
  cases h with
  | nil => exact readItems_close fuel true rest
  | @cons text value texts values hfirst hothers =>
    obtain ⟨c, cs, rfl, hspace, hc⟩ := hfirst.front
    rw [commaSeparated_cons, List.append_assoc]
    exact readItems_step (moreItems_first hspace hc _) (hfirst.read (endsValue_behind texts (endsValue_bracket rest)))
      (readItems_behind hothers (Nat.lt_of_succ_lt_succ hfuel) rest)

/-! ## Members -/

/-- A text that a member is read back from: its key in quotes and its value behind a colon. -/
def MemberBack (value : Reader α) (text : List Char) (member : String × α) : Prop :=
  ∃ key own, text = key ++ ':' :: own ∧ Quotes key member.1 ∧ ReadBack value own member.2

theorem nextKey_first {written : List Char} {key : String} (h : Quotes written key) (rest : List Char) :
    nextKey true (written ++ rest) = .ok (some key, rest) := by
  obtain ⟨body, rfl, hread⟩ := h
  rw [List.cons_append, nextKey, skipSpace_cons (by decide)]
  show readChars (body ++ rest) >>= _ = _
  rw [hread]
  show Except.ok (some (String.ofList key.toList), rest) = _
  rw [String.ofList_toList]

theorem nextKey_behind {written : List Char} {key : String} (h : Quotes written key) (rest : List Char) :
    nextKey false (',' :: (written ++ rest)) = .ok (some key, rest) := by
  obtain ⟨body, rfl, hread⟩ := h
  rw [List.cons_append, nextKey, skipSpace_cons (by decide)]
  have hquote : skipSpace ('"' :: (body ++ rest)) = '"' :: (body ++ rest) := skipSpace_cons (by decide) _
  simp only [hquote]
  show readChars (body ++ rest) >>= _ = _
  rw [hread]
  show Except.ok (some (String.ofList key.toList), rest) = _
  rw [String.ofList_toList]

theorem nextKey_close (first : Bool) (cs : List Char) : nextKey first ('\x7d' :: cs) = .ok (none, '\x7d' :: cs) := by
  rw [nextKey, skipSpace_cons (by decide)]
  rfl

theorem readMembers_close (fuel : Nat) (first : Bool) (rest : List Char) :
    readMembers item (fuel + 1) first ('\x7d' :: rest) = .ok ([], rest) := by
  rw [readMembers, nextKey_close]
  rfl

theorem readMembers_step {fuel : Nat} {first : Bool} {cs front behind rest : List Char} {key : String} {value : α}
    {members : List (String × α)} (hkey : nextKey first cs = .ok (some key, ':' :: front))
    (hvalue : item front = .ok (value, behind))
    (hmembers : readMembers item fuel false behind = .ok (members, rest)) :
    readMembers item (fuel + 1) first cs = .ok ((key, value) :: members, rest) := by
  rw [readMembers, hkey]
  show item front >>= _ = _
  rw [hvalue]
  show readMembers item fuel false behind >>= _ = _
  rw [hmembers]
  rfl

/-- Members with a comma in front of each are read back. -/
theorem readMembers_behind {texts : List (List Char)} {members : List (String × α)}
    (h : List.Forall₂ (MemberBack item) texts members) {fuel : Nat} (hfuel : texts.length < fuel) (rest : List Char) :
    readMembers item fuel false (texts.flatMap (',' :: ·) ++ '\x7d' :: rest) = .ok (members, rest) := by
  induction h generalizing fuel with
  | nil =>
    obtain ⟨fuel, rfl⟩ := Nat.exists_eq_succ_of_ne_zero (Nat.ne_of_gt hfuel)
    exact readMembers_close fuel false rest
  | @cons text member texts members hfirst _ ih =>
    obtain ⟨fuel, rfl⟩ := Nat.exists_eq_succ_of_ne_zero (Nat.ne_zero_of_lt hfuel)
    obtain ⟨key, own, rfl, hkey, hown⟩ := hfirst
    simp only [List.flatMap_cons, List.cons_append, List.append_assoc]
    exact readMembers_step (nextKey_behind hkey _) (hown.read (endsValue_behind texts (endsValue_brace rest)))
      (ih (Nat.lt_of_succ_lt_succ hfuel))

/-- Members with a comma between each two are read back. -/
theorem readMembers_written {texts : List (List Char)} {members : List (String × α)}
    (h : List.Forall₂ (MemberBack item) texts members) {fuel : Nat} (hfuel : texts.length < fuel) (rest : List Char) :
    readMembers item fuel true (commaSeparated texts ++ '\x7d' :: rest) = .ok (members, rest) := by
  obtain ⟨fuel, rfl⟩ := Nat.exists_eq_succ_of_ne_zero (Nat.ne_zero_of_lt hfuel)
  cases h with
  | nil => exact readMembers_close fuel true rest
  | @cons text member texts members hfirst hothers =>
    obtain ⟨key, own, rfl, hkey, hown⟩ := hfirst
    simp only [commaSeparated_cons, List.cons_append, List.append_assoc]
    exact readMembers_step (nextKey_first hkey _) (hown.read (endsValue_behind texts (endsValue_brace rest)))
      (readMembers_behind hothers (Nat.lt_of_succ_lt_succ hfuel) rest)

end

/-! ## Values -/

/-- A value whose text begins with a given character is read by it. -/
theorem readBack_of_cons {fuel : Nat} {c : Char} {text : List Char} {value : Json} (hspace : isSpace c = false)
    (hc : c ≠ ']') (h : ∀ {rest}, EndsValue rest → readValue (fuel + 1) (c :: (text ++ rest)) = .ok (value, rest)) :
    ReadBack (readValue (fuel + 1)) (c :: text) value :=
  ⟨⟨c, text, rfl, hspace, hc⟩, h⟩

theorem readBack_null (fuel : Nat) : ReadBack (readValue (fuel + 1)) (write .null) .null :=
  readBack_of_cons (by decide) (by decide) fun _ => rfl

theorem readBack_bool (fuel : Nat) (value : Bool) :
    ReadBack (readValue (fuel + 1)) (write (.bool value)) (.bool value) := by
  cases value with
  | true => exact readBack_of_cons (by decide) (by decide) fun _ => rfl
  | false => exact readBack_of_cons (by decide) (by decide) fun _ => rfl

/-- A string is read back from its text in quotes, however its characters are written there. -/
theorem readBack_quoted (fuel : Nat) {written : List Char} {text : String} (h : Quotes written text) :
    ReadBack (readValue (fuel + 1)) written (.str text) := by
  obtain ⟨body, rfl, hread⟩ := h
  refine readBack_of_cons (by decide) (by decide) fun {rest} _ => ?_
  show readChars (body ++ rest) >>= _ = _
  rw [hread]
  show Except.ok (Json.str (String.ofList text.toList), rest) = _
  rw [String.ofList_toList]

theorem isSpace_of_number {c : Char} (h : c = '-' ∨ c.isDigit = true) : isSpace c = false := by
  by_contra hc
  rw [Bool.not_eq_false] at hc
  simp only [isSpace, Bool.or_eq_true, beq_iff_eq] at hc
  rcases hc with ((rfl | rfl) | rfl) | rfl <;> exact absurd h (by decide)

/-- Whatever begins with a minus sign or with a digit is read as a number. -/
theorem readValue_number (fuel : Nat) {c : Char} (h : c = '-' ∨ c.isDigit = true) (cs : List Char) :
    readValue (fuel + 1) (c :: cs) = readInt (c :: cs) >>= fun p => .ok (.int p.1, p.2) := by
  rw [readValue, skipSpace_cons (isSpace_of_number h)]
  -- no other kind of value begins like a number
  split
  case h_7 => rfl
  all_goals
    rename_i hcs
    cases hcs
    exact absurd h (by decide)

theorem readBack_int (fuel : Nat) (value : Int) :
    ReadBack (readValue (fuel + 1)) (write (.int value)) (.int value) := by
  obtain ⟨c, cs, htext, hc⟩ : ∃ c cs, (toString value).toList = c :: cs ∧ (c = '-' ∨ c.isDigit = true) := by
    rw [toList_toString_int, signOf]
    split
    · exact ⟨'-', _, rfl, .inl rfl⟩
    · obtain ⟨c, cs, hd, hdigit⟩ := toDigits_eq_cons value.natAbs
      exact ⟨c, cs, hd, .inr hdigit⟩
  have hread : ∀ {rest}, EndsValue rest → readValue (fuel + 1) (c :: (cs ++ rest)) = .ok (.int value, rest) := by
    intro rest hrest
    have hint := readInt_written value hrest
    rw [htext, List.cons_append] at hint
    rw [readValue_number fuel hc, hint]
    rfl
  rw [write, htext]
  exact ⟨⟨c, cs, rfl, isSpace_of_number hc, fun h => absurd (h ▸ hc) (by decide)⟩, hread⟩

theorem readBack_arr {fuel : Nat} {items : List Json}
    (h : List.Forall₂ (ReadBack (readValue fuel)) (writeItems items) items) :
    ReadBack (readValue (fuel + 1)) (write (.arr items)) (.arr items) := by
  refine readBack_of_cons (by decide) (by decide) fun {rest} _ => ?_
  show readItems (readValue fuel) ((commaSeparated (writeItems items) ++ [']'] ++ rest).length + 1) true
    (commaSeparated (writeItems items) ++ [']'] ++ rest) >>= _ = _
  rw [List.append_assoc, List.singleton_append, readItems_written h (length_lt_enclosed _ _ _)]
  rfl

theorem readBack_obj {fuel : Nat} {texts : List (List Char)} {members : List (String × Json)}
    (h : List.Forall₂ (MemberBack (readValue fuel)) texts members) :
    ReadBack (readValue (fuel + 1)) ('\x7b' :: commaSeparated texts ++ ['\x7d']) (.obj members) := by
  refine readBack_of_cons (by decide) (by decide) fun {rest} _ => ?_
  show readMembers (readValue fuel) ((commaSeparated texts ++ ['\x7d'] ++ rest).length + 1) true
    (commaSeparated texts ++ ['\x7d'] ++ rest) >>= _ = _
  rw [List.append_assoc, List.singleton_append, readMembers_written h (length_lt_enclosed _ _ _)]
  rfl

mutual

/-- A value is read back from its text, by as many steps as the text is long. The text of a part is shorter by
the brackets around it, and so takes a step less. -/
theorem readBack_write : ∀ (value : Json) {fuel : Nat}, value.write.length < fuel + 1 →
    ReadBack (readValue (fuel + 1)) value.write value
  | .null, fuel, _ => readBack_null fuel
  | .bool value, fuel, _ => readBack_bool fuel value
  | .int value, fuel, _ => readBack_int fuel value
  | .str text, fuel, _ => readBack_quoted fuel (quotes_quote text)
  | .arr items, fuel, h => by
    rw [write, List.length_append, List.length_cons, List.length_singleton] at h
    refine readBack_arr (readBack_writeItems items fun text htext => ?_)
    have hlength := length_le_of_mem htext
    omega
  | .obj members, fuel, h => by
    rw [write, List.length_append, List.length_cons, List.length_singleton] at h
    refine readBack_obj (memberBack_writeMembers members fun text htext => ?_)
    have hlength := length_le_of_mem htext
    omega

theorem readBack_writeItems : ∀ (items : List Json) {fuel : Nat}, (∀ text ∈ writeItems items, text.length < fuel) →
    List.Forall₂ (ReadBack (readValue fuel)) (writeItems items) items
  | [], _, _ => .nil
  | item :: _, 0, h => absurd (h item.write List.mem_cons_self) (Nat.not_lt_zero _)
  | item :: items, _ + 1, h =>
    .cons (readBack_write item (h item.write List.mem_cons_self))
      (readBack_writeItems items fun text htext => h text (List.mem_cons_of_mem _ htext))

theorem memberBack_writeMembers : ∀ (members : List (String × Json)) {fuel : Nat},
    (∀ text ∈ writeMembers members, text.length < fuel) →
    List.Forall₂ (MemberBack (readValue fuel)) (writeMembers members) members
  | [], _, _ => .nil
  | _ :: _, 0, h => absurd (h _ List.mem_cons_self) (Nat.not_lt_zero _)
  | (key, value) :: members, _ + 1, h => by
    refine .cons ⟨_, value.write, rfl, quotes_quote key, readBack_write value ?_⟩
      (memberBack_writeMembers members fun text htext => h text (List.mem_cons_of_mem _ htext))
    have hmember := h _ List.mem_cons_self
    rw [List.length_append, List.length_cons] at hmember
    omega

end

/-- A value is read back from its text, so that no other value has that text. -/
theorem ofText_text (value : Json) : ofText value.text = .ok value := by
  have hread := (@readBack_write value value.write.length (Nat.lt_succ_self _)).read endsValue_nil
  rw [List.append_nil] at hread
  rw [ofText, readText, text, String.toList_ofList, hread]
  rfl

example : ofText "\x7b\"a\": [1, -20, null]\x7d" = .ok (.obj [("a", .arr [.int 1, .int (-20), .null])]) := rfl

example : ofText "a" = .error .malformed := rfl

/-! ## Members in order -/

/-- Members are sorted into their one order in which the keys ascend. -/
theorem sortMembers_eq {members sorted : List (String × Json)} (hperm : members.Perm sorted)
    (hsorted : sorted.Pairwise fun a b => a.1 < b.1) : sortMembers members = sorted := by
  have hself : StablySorted sorted sorted :=
    ⟨.refl sorted, hsorted.imp fun hlt => String.not_lt.1 (String.lt_asymm hlt), fun _ => rfl⟩
  -- no key is there twice
  have hkeys : (sorted.map Prod.fst).Nodup := by
    rw [List.Nodup, List.pairwise_map]
    refine hsorted.imp fun hlt heq => ?_
    rw [heq] at hlt
    exact String.lt_irrefl _ hlt
  exact (stablySorted_mergeSort members).unique (hself.of_perm hkeys hperm)

/-! ## Lines -/

theorem notMem_commaSeparated {c : Char} (hc : c ≠ ',') {texts : List (List Char)} (h : ∀ text ∈ texts, c ∉ text) :
    c ∉ commaSeparated texts := by
  have hbehind : ∀ {texts : List (List Char)}, (∀ text ∈ texts, c ∉ text) → c ∉ texts.flatMap (',' :: ·) := by
    intro texts h hmem
    obtain ⟨text, htext, hmem⟩ := List.mem_flatMap.1 hmem
    rcases List.mem_cons.1 hmem with rfl | hmem
    · exact hc rfl
    · exact h text htext hmem
  cases texts with
  | nil => exact List.not_mem_nil
  | cons text texts =>
    rw [commaSeparated_cons, List.mem_append, not_or]
    exact ⟨h text List.mem_cons_self, hbehind fun other hother => h other (List.mem_cons_of_mem _ hother)⟩

/-- What stands between brackets or braces is on one line, if its parts are. -/
theorem newline_notMem_enclosed {opening closing : Char} (ho : opening ≠ '\n') (hc : closing ≠ '\n')
    {texts : List (List Char)} (h : ∀ text ∈ texts, '\n' ∉ text) :
    '\n' ∉ opening :: commaSeparated texts ++ [closing] := by
  rw [List.mem_append, List.mem_cons, List.mem_singleton]
  rintro ((h' | h') | h')
  · exact ho h'.symm
  · exact notMem_commaSeparated (by decide) h h'
  · exact hc h'.symm

theorem newline_notMem_int (value : Int) : '\n' ∉ (toString value).toList := by
  have hdigits : ∀ n, '\n' ∉ Nat.toDigits 10 n := fun n h => absurd (isDigit_of_mem_toDigits _ h) (by decide)
  rw [toList_toString_int, signOf]
  split
  · rw [List.singleton_append, List.mem_cons, not_or]
    exact ⟨by decide, hdigits _⟩
  · exact hdigits _

mutual

/-- The text of a value is on one line. -/
theorem newline_notMem_write : ∀ value : Json, '\n' ∉ value.write
  | .null => by decide
  | .bool true => by decide
  | .bool false => by decide
  | .int value => newline_notMem_int value
  | .str text => newline_notMem_quote text
  | .arr items => newline_notMem_enclosed (by decide) (by decide) (newline_notMem_writeItems items)
  | .obj members => newline_notMem_enclosed (by decide) (by decide) (newline_notMem_writeMembers members)

theorem newline_notMem_writeItems : ∀ items : List Json, ∀ text ∈ writeItems items, '\n' ∉ text
  | [] => nofun
  | item :: items =>
    List.forall_mem_cons.2 ⟨newline_notMem_write item, newline_notMem_writeItems items⟩

theorem newline_notMem_writeMembers : ∀ members : List (String × Json), ∀ text ∈ writeMembers members, '\n' ∉ text
  | [] => nofun
  | (key, value) :: members => by
    refine List.forall_mem_cons.2 ⟨?_, newline_notMem_writeMembers members⟩
    rw [List.mem_append, List.mem_cons]
    rintro (h | h | h)
    · exact newline_notMem_quote key h
    · cases h
    · exact newline_notMem_write value h

end

end ColumnSelect.Json
