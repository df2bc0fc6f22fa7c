/-
Records read from the texts of objects. An object may be written in any layout: with blanks around all of its parts
and its strings spelled in any way (`ObjectText`). Its members are read one after another, each as the step that its
field takes (`Record.Takes`), up to the first that is refused (`Record.Refuses`). Main statements: `Record.read_object`
and `Record.read_refused`.
-/
import ColumnSelect.Proofs.Json.Value

namespace ColumnSelect.Json

open Text

/-! ## Layout -/

/-- Blanks, of which there may be none. -/
def Blanks (cs : List Char) : Prop := ∀ c ∈ cs, isSpace c = true

instance : DecidablePred Blanks := fun cs => decidable_of_iff (cs.all isSpace = true) List.all_eq_true

/-- The text of a member, with its key and the text of its value. -/
inductive MemberText : List Char → String × List Char → Prop
  | intro {before key between behind value after name} (hbefore : Blanks before) (hkey : StringText key name)
      (hbetween : Blanks between) (hbehind : Blanks behind) (hafter : Blanks after) :
      MemberText (before ++ (key ++ (between ++ ':' :: (behind ++ (value ++ after))))) (name, value)

/-- The text of an object, with the keys of its members and the texts of their values. -/
inductive ObjectText : List Char → List (String × List Char) → Prop
  | intro {inner texts members} (hinner : Blanks inner) (h : List.Forall₂ MemberText texts members) :
      ObjectText ('\x7b' :: (inner ++ (commaSeparated texts ++ ['\x7d']))) members

/-- A whole text that is an object. -/
def Document (text : String) (members : List (String × List Char)) : Prop :=
  ∃ front object back, Blanks front ∧ ObjectText object members ∧ Blanks back ∧
    text.toList = front ++ (object ++ back)

theorem blanks_nil : Blanks [] := nofun

theorem skipSpace_blanks {blanks : List Char} (h : Blanks blanks) (cs : List Char) :
    skipSpace (blanks ++ cs) = skipSpace cs :=
  List.dropWhile_append_of_pos h

theorem endsValue_blanks {blanks rest : List Char} (h : Blanks blanks) (hrest : EndsValue rest) :
    EndsValue (blanks ++ rest) := by
  cases blanks with
  | nil => exact hrest
  | cons c cs =>
    rintro _ ⟨⟩
    have hspace := h c List.mem_cons_self
    simp only [isSpace, Bool.or_eq_true, beq_iff_eq] at hspace
    rcases hspace with ((rfl | rfl) | rfl) | rfl <;> decide

theorem skipColon_blanks {blanks : List Char} (h : Blanks blanks) (cs : List Char) :
    skipColon (blanks ++ ':' :: cs) = .ok cs := by
  rw [skipColon, skipSpace_blanks h, skipSpace_cons (by decide)]
  rfl

theorem nextKey_blanks {blanks : List Char} (h : Blanks blanks) (first : Bool) (cs : List Char) :
    nextKey first (blanks ++ cs) = nextKey first cs := by
  rw [nextKey, nextKey, skipSpace_blanks h]

theorem nextKey_behind_blanks {blanks written : List Char} {key : String} (hblanks : Blanks blanks)
    (h : Quotes written key) (rest : List Char) :
    nextKey false (',' :: (blanks ++ (written ++ rest))) = .ok (some key, rest) := by
  have hcomma : ∀ cs, nextKey false (',' :: (blanks ++ cs)) = nextKey false (',' :: cs) := by
    intro cs
    rw [nextKey, nextKey, skipSpace_cons (by decide), skipSpace_cons (by decide)]
    simp only [skipSpace_blanks hblanks]
  rw [hcomma, nextKey_behind h]

theorem nextKey_first_blanks {blanks written : List Char} {key : String} (hblanks : Blanks blanks)
    (h : Quotes written key) (rest : List Char) :
    nextKey true (blanks ++ (written ++ rest)) = .ok (some key, rest) := by
  rw [nextKey_blanks hblanks, nextKey_first h]

/-- A member without blanks. -/
theorem memberText_quote (name : String) (value : List Char) :
    MemberText (quote name ++ ':' :: value) (name, value) := by
  have h := @MemberText.intro [] _ [] [] value [] _ blanks_nil (stringText_quote name) blanks_nil blanks_nil blanks_nil
  rwa [List.append_nil] at h

/-- What is written of an object is one of its texts. -/
theorem objectText_write (members : List (String × Json)) :
    ObjectText (write (.obj members)) (members.map fun member => (member.1, member.2.write)) := by
  have hmembers : List.Forall₂ MemberText (writeMembers members)
      (members.map fun member => (member.1, member.2.write)) := by
    induction members with
    | nil => exact .nil
    | cons member members ih => exact .cons (memberText_quote member.1 member.2.write) ih
  exact @ObjectText.intro [] _ _ blanks_nil hmembers

theorem document_text (members : List (String × Json)) :
    Document (Json.obj members).text (members.map fun member => (member.1, member.2.write)) :=
  ⟨[], _, [], blanks_nil, objectText_write members, blanks_nil, by rw [text, String.toList_ofList]; simp⟩

/-! ## Values -/

/-- A text from which a reader makes a value, behind any blanks and in front of whatever no number goes on with. -/
def Reads {α : Type} (reader : Reader α) (text : List Char) (value : α) : Prop :=
  ∀ ⦃blanks rest⦄, Blanks blanks → EndsValue rest → reader (blanks ++ (text ++ rest)) = .ok (value, rest)

section

variable {α β : Type}

theorem Reads.map {reader : Reader α} {text : List Char} {value : α} (h : Reads reader text value) (f : α → β) :
    Reads (fun cs => do let (value, rest) ← reader cs; return (f value, rest)) text (f value) := by
  intro blanks rest hblanks hrest
  simp only [h hblanks hrest]
  rfl

theorem reads_string (expected : String) {written : List Char} {text : String} (h : StringText written text) :
    Reads (readString expected) written text := by
  intro blanks rest hblanks _
  obtain ⟨body, rfl, hread⟩ := h.quotes
  rw [readString, skipSpace_blanks hblanks, List.cons_append, skipSpace_cons (by decide)]
  simp only [hread, ok_bind, String.ofList_toList]
  rfl

theorem reads_bool (value : Bool) : Reads readBool (write (.bool value)) value := by
  intro blanks rest hblanks _
  rw [readBool, skipSpace_blanks hblanks]
  cases value <;> rfl

theorem numeral_value_digits {n : Nat} (h : n ≤ maxWhole) :
    Numeral.value ⟨false, Nat.toDigits 10 n, [], none⟩ = .ok (.whole n) := by
  rw [Numeral.value, digitsValue_toDigits]
  simp [h]

/-- A whole number that fits is read from its digits. -/
theorem reads_count {n : Nat} (h : n ≤ maxWhole) : Reads readCount (toString n).toList n := by
  intro blanks rest hblanks hrest
  have hnumeral := numeral_read_digits n hrest
  rw [Nat.toString_eq_repr, Nat.toList_repr, readCount, skipSpace_blanks hblanks]
  -- what begins with a digit is read as a number
  obtain ⟨c, cs, hd, hdigit⟩ := toDigits_eq_cons n
  have hvalue := numeral_value_digits h
  rw [hd] at hnumeral hvalue ⊢
  rw [List.cons_append, skipSpace_cons (isSpace_of_number (.inr hdigit))]
  simp only [hdigit, Bool.or_true, if_true, Number.read]
  rw [← List.cons_append, hnumeral]
  simp only [ok_bind, hvalue]
  rfl

variable {choices : List (String × α)} {name : String} {choice : String × α}

theorem reads_choice (hchoice : choices.find? (fun c => c.1 == name) = some choice) {written : List Char}
    (h : StringText written name) : Reads (readChoice choices) written choice.2 := by
  intro blanks rest hblanks _
  obtain ⟨body, rfl, hread⟩ := h.quotes
  rw [readChoice, skipSpace_blanks hblanks, List.cons_append, skipSpace_cons (by decide)]
  simp only [hread, ok_bind, String.ofList_toList, hchoice]
  rfl

theorem reads_unit : Reads readUnit (write .null) () := by
  intro blanks rest hblanks _
  rw [readUnit, skipSpace_blanks hblanks]
  rfl

/-- A choice is also read from an object with null under its name. -/
theorem reads_choice_object (hchoice : choices.find? (fun c => c.1 == name) = some choice) {object : List Char}
    (h : ObjectText object [(name, write .null)]) : Reads (readChoice choices) object choice.2 := by
  intro blanks rest hblanks hrest
  obtain @⟨inner, _, _, hinner, htexts⟩ := h
  obtain ⟨text, _, hmember, hnil, rfl⟩ := List.forall₂_cons_right_iff.1 htexts
  obtain rfl := List.forall₂_nil_right_iff.1 hnil
  obtain @⟨before, key, between, behind, _, after, _, hbefore, hkey, hbetween, hbehind, hafter⟩ := hmember
  have hinside : Blanks (inner ++ before) := fun c hc => (List.mem_append.1 hc).elim (hinner c) (hbefore c)
  have hcolon : EndsValue (between ++ ':' :: (behind ++ (write .null ++ (after ++ '\x7d' :: rest)))) :=
    endsValue_blanks hbetween (by rintro _ ⟨⟩; decide)
  have hname := reads_string "variant identifier" hkey hinside hcolon
  have hnull := reads_unit hbehind (endsValue_blanks hafter (endsValue_brace rest))
  have hclose : skipSpace (after ++ '\x7d' :: rest) = '\x7d' :: rest := by
    rw [skipSpace_blanks hafter, skipSpace_cons (by decide)]
  rw [List.append_assoc] at hname
  rw [readChoice, skipSpace_blanks hblanks, List.cons_append, skipSpace_cons (by decide), commaSeparated_cons]
  simp only [List.flatMap_nil, List.append_nil, List.append_assoc, List.cons_append, List.nil_append, hname, ok_bind,
    hchoice, skipColon_blanks hbetween, hnull, hclose]
  rfl

end

/-! ## Members -/

namespace Record

variable {σ α : Type} (r : Record σ α)

/-- A member that a record has a field for, and what the field makes of what was read before it. -/
def Takes (member : String × List Char) (step : σ → σ) : Prop :=
  ∃ field, r.fields.find? (fun f => f.1 == member.1) = some field ∧
    ∀ draft, Reads (field.2 draft) member.2 (step draft)

/-- Why a record stops at a member of some name, with members of some names in front of it. -/
inductive Refuses (seen : List String) (name : String) : Mismatch → Prop
  | unknown (hstrict : r.strict = true) (h : name ∉ r.fieldNames) : Refuses seen name (.unknownField name r.fieldNames)
  | repeated (h : name ∈ r.fieldNames) (hseen : name ∈ seen) : Refuses seen name (.duplicateField name)

variable {r}

theorem Refuses.of_subset {seen seen' : List String} {name : String} {m : Mismatch} (hm : r.Refuses seen name m)
    (h : seen ⊆ seen') : r.Refuses seen' name m := by
  cases hm with
  | unknown hstrict hname => exact .unknown hstrict hname
  | repeated hname hseen => exact .repeated hname (h hseen)

theorem find?_eq_none_iff {name : String} :
    r.fields.find? (fun f => f.1 == name) = none ↔ name ∉ r.fieldNames := by
  simp only [List.find?_eq_none, fieldNames, List.mem_map, beq_iff_eq, not_exists, not_and]

theorem readMembers_blanks {blanks : List Char} (h : Blanks blanks) (fuel : Nat) (first : Bool) (seen : List String)
    (draft : σ) (cs : List Char) :
    r.readMembers fuel first seen draft (blanks ++ cs) = r.readMembers fuel first seen draft cs := by
  cases fuel with
  | zero => rfl
  | succ fuel => rw [readMembers, readMembers, nextKey_blanks h]

/-- The first member is read like one behind a comma. -/
theorem readMembers_first {text : List Char} {member : String × List Char} (h : MemberText text member) (fuel : Nat)
    (seen : List String) (draft : σ) (rest : List Char) :
    r.readMembers fuel true seen draft (text ++ rest) =
      r.readMembers fuel false seen draft (',' :: (text ++ rest)) := by
  obtain ⟨hbefore, hkey, -, -, -⟩ := h
  cases fuel with
  | zero => rfl
  | succ fuel =>
    rw [readMembers, readMembers]
    simp only [List.append_assoc]
    rw [nextKey_first_blanks hbefore hkey.quotes, nextKey_behind_blanks hbefore hkey.quotes]

theorem readMembers_close (fuel : Nat) (first : Bool) (seen : List String) (draft : σ) (rest : List Char) :
    r.readMembers (fuel + 1) first seen draft ('\x7d' :: rest) = .ok (draft, rest) := by
  rw [readMembers, nextKey_close]
  rfl

section

variable {fuel : Nat} {first : Bool} {seen : List String} {draft draft' : σ} {cs front behind rest : List Char}
  {key : String} {field : String × (σ → Reader σ)}

/-- A member of a field that has not been read before is read by the field. -/
theorem readMembers_step (hkey : nextKey first cs = .ok (some key, front))
    (hfield : r.fields.find? (fun f => f.1 == key) = some field) (hseen : key ∉ seen)
    (hcolon : skipColon front = .ok behind) (hvalue : field.2 draft behind = .ok (draft', rest)) :
    r.readMembers (fuel + 1) first seen draft cs = r.readMembers fuel false (key :: seen) draft' rest := by
  have hcontains : seen.contains key = false := by simpa using hseen
  rw [readMembers, hkey]
  simp only [ok_bind, hfield, hcontains, Bool.false_eq_true, if_false, hcolon, hvalue]

theorem readMembers_repeated (hkey : nextKey first cs = .ok (some key, front))
    (hfield : r.fields.find? (fun f => f.1 == key) = some field) (hseen : key ∈ seen) :
    r.readMembers (fuel + 1) first seen draft cs = .error (.mismatch (.duplicateField key)) := by
  have hcontains : seen.contains key = true := by simpa using hseen
  rw [readMembers, hkey]
  simp only [ok_bind, hfield, hcontains, if_true]
  rfl

theorem readMembers_unknown (hkey : nextKey first cs = .ok (some key, front))
    (hfield : r.fields.find? (fun f => f.1 == key) = none) (hstrict : r.strict = true) :
    r.readMembers (fuel + 1) first seen draft cs = .error (.mismatch (.unknownField key r.fieldNames)) := by
  rw [readMembers, hkey]
  simp only [ok_bind, hfield, hstrict, if_true]
  rfl

end

/-- A member is read as the step that its field takes. -/
theorem readMembers_takes {text : List Char} {member : String × List Char} {step : σ → σ} (h : MemberText text member)
    (ht : r.Takes member step) {seen : List String} (hseen : member.1 ∉ seen) (fuel : Nat) (draft : σ)
    {rest : List Char} (hrest : EndsValue rest) :
    r.readMembers (fuel + 1) false seen draft (',' :: (text ++ rest)) =
      r.readMembers fuel false (member.1 :: seen) (step draft) rest := by
  obtain ⟨hbefore, hkey, hbetween, hbehind, hafter⟩ := h
  obtain ⟨field, hfield, hread⟩ := ht
  simp only [List.append_assoc, List.cons_append]
  rw [readMembers_step (nextKey_behind_blanks hbefore hkey.quotes _) hfield hseen (skipColon_blanks hbetween _)
    (hread draft hbehind (endsValue_blanks hafter hrest)), readMembers_blanks hafter]

theorem readMembers_refused {text : List Char} {member : String × List Char} (h : MemberText text member)
    {seen : List String} {m : Mismatch} (hm : r.Refuses seen member.1 m) (fuel : Nat) (draft : σ) (rest : List Char) :
    r.readMembers (fuel + 1) false seen draft (',' :: (text ++ rest)) = .error (.mismatch m) := by
  obtain ⟨hbefore, hkey, -, -, -⟩ := h
  simp only [List.append_assoc, List.cons_append]
  have hnext := fun rest => nextKey_behind_blanks hbefore hkey.quotes rest
  cases hm with
  | unknown hstrict hname => exact readMembers_unknown (hnext _) (find?_eq_none_iff.2 hname) hstrict
  | repeated hname hseen =>
    obtain ⟨field, hfield⟩ := Option.ne_none_iff_exists'.1 (mt find?_eq_none_iff.1 (not_not_intro hname))
    exact readMembers_repeated (hnext _) hfield hseen

/-- Members with a comma in front of each are read as the steps of their fields, one after another. Each key that is
read goes in front of those seen before, so none of them may be seen again. -/
theorem readMembers_run {texts : List (List Char)} {members : List (String × List Char)}
    (h : List.Forall₂ MemberText texts members) {steps : List (σ → σ)} (ht : List.Forall₂ r.Takes members steps)
    {seen : List String} (hkeys : (members.map Prod.fst ++ seen).Nodup) (fuel : Nat) (draft : σ) {rest : List Char}
    (hrest : EndsValue rest) :
    r.readMembers (fuel + texts.length) false seen draft (texts.flatMap (',' :: ·) ++ rest) =
      r.readMembers fuel false ((members.map Prod.fst).reverse ++ seen)
        (steps.foldl (fun draft step => step draft) draft) rest := by
  induction h generalizing steps seen draft with
  | nil =>
    cases ht
    rfl
  | @cons text member texts members hmember _ ih =>
    obtain _ | ⟨htake, ht⟩ := ht
    rw [List.map_cons, List.cons_append] at hkeys
    have hseen : member.1 ∉ seen := fun hmem => (List.nodup_cons.1 hkeys).1 (List.mem_append_right _ hmem)
    rw [List.length_cons, ← Nat.add_assoc, List.flatMap_cons, List.cons_append, List.cons_append, List.append_assoc,
      readMembers_takes hmember htake hseen _ _ (endsValue_behind texts hrest), ih ht (List.nodup_middle.2 hkeys)]
    simp

/-- The members behind an opening brace are read like members with a comma in front of each. -/
theorem readMembers_inside {inner : List Char} (hinner : Blanks inner) {texts : List (List Char)}
    {members : List (String × List Char)} (h : List.Forall₂ MemberText texts members) (fuel : Nat) (seen : List String)
    (draft : σ) (rest : List Char) :
    r.readMembers fuel true seen draft (inner ++ (commaSeparated texts ++ '\x7d' :: rest)) =
      r.readMembers fuel false seen draft (texts.flatMap (',' :: ·) ++ '\x7d' :: rest) := by
  rw [readMembers_blanks hinner]
  cases h with
  | nil =>
    cases fuel with
    | zero => rfl
    | succ fuel => exact (readMembers_close fuel true seen draft rest).trans (readMembers_close ..).symm
  | cons hfirst _ =>
    rw [commaSeparated_cons, List.append_assoc, readMembers_first hfirst, List.flatMap_cons, List.cons_append,
      List.cons_append, List.append_assoc]

/-! ## Objects -/

/-- There are steps left when all members of an object have been read. -/
theorem read_object_eq {inner : List Char} (hinner : Blanks inner) {texts : List (List Char)}
    {members : List (String × List Char)} (h : List.Forall₂ MemberText texts members) {blanks : List Char}
    (hblanks : Blanks blanks) (rest : List Char) :
    ∃ fuel, r.read (blanks ++ ('\x7b' :: (inner ++ (commaSeparated texts ++ ['\x7d'])) ++ rest)) =
      r.readMembers (fuel + 1 + texts.length) false [] r.start (texts.flatMap (',' :: ·) ++ '\x7d' :: rest) >>=
        fun p => r.fromMembers p.1 >>= fun value => .ok (value, p.2) := by
  -- every member takes a character, and the opening brace allows for one step more
  have hlength := length_lt_enclosed texts '\x7d' rest
  obtain ⟨fuel, hfuel⟩ : ∃ fuel, (inner ++ (commaSeparated texts ++ '\x7d' :: rest)).length + 1 =
      fuel + 1 + texts.length :=
    ⟨(inner ++ (commaSeparated texts ++ '\x7d' :: rest)).length - texts.length, by rw [List.length_append]; omega⟩
  refine ⟨fuel, ?_⟩
  rw [← readMembers_inside hinner h, ← hfuel, read, skipSpace_blanks hblanks, List.cons_append,
    skipSpace_cons (by decide)]
  simp only [List.append_assoc, List.singleton_append]
  rfl

/-- A record is read from an object by the steps of its members, of which no two have one key. -/
theorem read_object {object : List Char} {members : List (String × List Char)} (h : ObjectText object members)
    {steps : List (σ → σ)} (ht : List.Forall₂ r.Takes members steps) (hkeys : (members.map Prod.fst).Nodup)
    {blanks : List Char} (hblanks : Blanks blanks) (rest : List Char) :
    r.read (blanks ++ (object ++ rest)) =
      r.fromMembers (steps.foldl (fun draft step => step draft) r.start) >>= fun value => .ok (value, rest) := by
  obtain ⟨hinner, htexts⟩ := h
  obtain ⟨fuel, hread⟩ := read_object_eq (r := r) hinner htexts hblanks rest
  rw [hread, readMembers_run htexts ht (by simpa using hkeys) _ _ (endsValue_brace rest), readMembers_close]
  rfl

/-- A record is not read from an object beyond the first member that is refused, whatever stands in its value and
behind it. -/
theorem read_refused {object : List Char} {before after : List (String × List Char)} {member : String × List Char}
    (h : ObjectText object (before ++ member :: after)) {steps : List (σ → σ)} (ht : List.Forall₂ r.Takes before steps)
    (hkeys : (before.map Prod.fst).Nodup) {m : Mismatch} (hm : r.Refuses (before.map Prod.fst) member.1 m)
    {blanks : List Char} (hblanks : Blanks blanks) (rest : List Char) :
    r.read (blanks ++ (object ++ rest)) = .error (.mismatch m) := by
  obtain ⟨hinner, htexts⟩ := h
  obtain ⟨fuel, hread⟩ := read_object_eq (r := r) hinner htexts hblanks rest
  obtain ⟨front, behind, hfront, hbehind, rfl⟩ := forall₂_append_left_iff.1 htexts.flip
  obtain ⟨text, others, hmember, -, rfl⟩ := List.forall₂_cons_left_iff.1 hbehind
  have hrest : EndsValue ((text :: others).flatMap (',' :: ·) ++ '\x7d' :: rest) := endsValue_comma _
  rw [hread, List.length_append, Nat.add_comm front.length, ← Nat.add_assoc, List.flatMap_append, List.append_assoc,
    readMembers_run hfront.flip ht (by simpa using hkeys) _ _ hrest]
  have hm := hm.of_subset (by simp : before.map Prod.fst ⊆ (before.map Prod.fst).reverse ++ [])
  rw [List.length_cons, ← Nat.add_assoc, List.flatMap_cons, List.cons_append, List.cons_append, List.append_assoc,
    readMembers_refused hmember hm]
  rfl

theorem readText_object {text : String} {members : List (String × List Char)} (h : Document text members)
    {steps : List (σ → σ)} (ht : List.Forall₂ r.Takes members steps) (hkeys : (members.map Prod.fst).Nodup) :
    readText r.read text = r.fromMembers (steps.foldl (fun draft step => step draft) r.start) := by
  obtain ⟨front, object, back, hfront, hobject, hback, htext⟩ := h
  have hend : (skipSpace back).isEmpty = true := by
    rw [← List.append_nil back, skipSpace_blanks hback]
    rfl
  rw [readText, htext, read_object hobject ht hkeys hfront]
  cases r.fromMembers (steps.foldl (fun draft step => step draft) r.start) with
  | error fault => rfl
  | ok value =>
    simp only [ok_bind, hend, if_true]
    rfl

theorem readText_refused {text : String} {before after : List (String × List Char)} {member : String × List Char}
    (h : Document text (before ++ member :: after)) {steps : List (σ → σ)} (ht : List.Forall₂ r.Takes before steps)
    (hkeys : (before.map Prod.fst).Nodup) {m : Mismatch} (hm : r.Refuses (before.map Prod.fst) member.1 m) :
    readText r.read text = .error (.mismatch m) := by
  obtain ⟨front, object, back, hfront, hobject, -, htext⟩ := h
  rw [readText, htext, read_refused hobject ht hkeys hm hfront]
  rfl

end Record

end ColumnSelect.Json
