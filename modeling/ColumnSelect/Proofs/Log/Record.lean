/-
The lines of a log read back. More characters are escaped in a line than a JSON text must escape, but each in a
way in which it may (`spells_escapeChar`), so the line of a record is the JSON object of its members in order
(`ofText_line`) and tells them all (`text_eq_text_iff`). Main statement: `text_decodes`.
-/
import ColumnSelect.Log.Record
import ColumnSelect.Proofs.Json.Value
import ColumnSelect.Proofs.KeyOrder

namespace ColumnSelect.Log

/-! ## Texts in quotes -/

theorem lt_of_isControl {c : Char} (h : isControl c = true) : c.toNat < 160 := by
  simp only [isControl, Bool.or_eq_true, Bool.and_eq_true, decide_eq_true_eq] at h
  omega

theorem le_of_not_isControl {c : Char} (h : ¬ isControl c = true) : 32 ≤ c.toNat := by
  simp only [isControl, Bool.or_eq_true, Bool.and_eq_true, decide_eq_true_eq] at h
  omega

theorem spells_escapeChar (c : Char) : Json.Spells c (escapeChar c) := by
  unfold escapeChar
  split
  case isTrue h => exact Json.spells_mark h
  case isFalse hplain =>
    rw [Bool.or_eq_true_iff, decide_eq_true_eq, decide_eq_true_eq, not_or] at hplain
    -- the control characters that have a letter here
    iterate 3
      split
      · subst c
        exact .letter rfl
    split
    case isTrue h => exact Json.spells_code (Nat.lt_trans (lt_of_isControl h) (by decide))
    case isFalse h => exact .self (le_of_not_isControl h) hplain.1 hplain.2

theorem newline_notMem_escapeChar (c : Char) : '\n' ∉ escapeChar c := by
  unfold escapeChar
  split
  case isTrue h => exact Json.newline_notMem_mark h
  case isFalse =>
    split
    case isTrue => decide
    case isFalse hnewline =>
      iterate 2
        split
        · decide
      split
      case isTrue h => simpa using Json.newline_notMem_hexFour (Nat.lt_trans (lt_of_isControl h) (by decide))
      case isFalse => simpa using Ne.symm hnewline

theorem quotes_quote (text : String) : Json.Quotes (quote text) text :=
  (Json.stringText_written spells_escapeChar text).quotes

theorem newline_notMem_quote (text : String) : '\n' ∉ quote text :=
  Json.newline_notMem_quoted newline_notMem_escapeChar text

/-! ## Lines -/

theorem Severity.text_injective : Function.Injective Severity.text := by
  intro severity severity' h
  cases severity <;> cases severity' <;> first | rfl | exact absurd h (by decide)

/-- A field is written as a member whose value is a string. -/
theorem memberBack_writeField (fuel : Nat) (field : Field) :
    Json.MemberBack (Json.readValue (fuel + 1)) (writeField field) (field.1, .str field.2) :=
  ⟨_, _, rfl, quotes_quote field.1, Json.readBack_quoted fuel (quotes_quote field.2)⟩

theorem newline_notMem_writeField (field : Field) : '\n' ∉ writeField field := by
  rw [writeField, List.mem_append, List.mem_cons]
  rintro (h | h | h)
  · exact newline_notMem_quote field.1 h
  · cases h
  · exact newline_notMem_quote field.2 h

namespace Record

variable (elapsed : Nat) (r : Record)

theorem newline_notMem_line : '\n' ∉ r.line elapsed :=
  Json.newline_notMem_enclosed (by decide) (by decide)
    (List.forall_mem_map.2 fun field _ => newline_notMem_writeField field)

/-- The line of a record is the JSON object of its members, in order. -/
theorem ofText_line : Json.ofText (String.ofList (r.line elapsed)) =
    .ok (.obj ((r.members elapsed).map fun field => (field.1, .str field.2))) := by
  -- the braces take a character each, which is a step more than a member needs
  obtain ⟨fuel, hfuel⟩ : ∃ fuel, (r.line elapsed).length = fuel + 1 := ⟨_, rfl⟩
  have hmembers : List.Forall₂ (Json.MemberBack (Json.readValue (fuel + 1))) ((r.members elapsed).map writeField)
      ((r.members elapsed).map fun field => (field.1, .str field.2)) := by
    rw [List.forall₂_map_left_iff, List.forall₂_map_right_iff, List.forall₂_same]
    exact fun field _ => memberBack_writeField fuel field
  have hread := (Json.readBack_obj hmembers).read Json.endsValue_nil
  rw [List.append_nil] at hread
  rw [Json.ofText, Json.readText, String.toList_ofList, hfuel]
  exact bind_eq_ok_iff.2 ⟨_, hread, rfl⟩

/-- The members of a record and its text determine each other. -/
theorem text_eq_text_iff {elapsed elapsed' : Nat} {r r' : Record} :
    r'.text elapsed' = r.text elapsed ↔ r'.members elapsed' = r.members elapsed := by
  constructor
  · intro h
    have hline : r'.line elapsed' = r.line elapsed := List.append_cancel_right (String.ofList_injective h)
    have hread := ofText_line elapsed' r'
    rw [hline, ofText_line] at hread
    have hmembers := Json.obj.inj (Except.ok.inj hread)
    refine (List.map_injective_iff.2 ?_ hmembers).symm
    rintro ⟨key, value⟩ ⟨key', value'⟩ hfield
    cases hfield
    rfl
  · intro h
    rw [text, text, line, line, h]

theorem stablySorted_sortFields (fields : List Field) : StablySorted fields (sortFields fields) :=
  stablySorted_mergeSort fields

/-- What is logged is one line, and read as JSON it is an object of the event, the severity, and the fields in
the order of their keys, fields of one key in the order given. So fields with different keys may be given in any
order, and all that else differs in what is logged differs in its text. -/
theorem text_decodes (severity : Severity) (event : String) (fields : List Field) (elapsed : Nat) :
    (∃ line sorted, ((Record.of severity event fields).text elapsed).toList = line ++ ['\n'] ∧ '\n' ∉ line ∧
      StablySorted fields sorted ∧
      Json.ofText (String.ofList line) = .ok (.obj (("event", .str event) :: ("severity", .str severity.text) ::
        sorted.map fun field => (field.1, .str field.2)))) ∧
    (∀ fields' : List Field, fields'.Perm fields → (fields.map Prod.fst).Nodup →
      (Record.of severity event fields').text elapsed = (Record.of severity event fields).text elapsed) ∧
    ∀ severity' event' fields' elapsed',
      (Record.of severity' event' fields').text elapsed' = (Record.of severity event fields).text elapsed ↔
        severity' = severity ∧ event' = event ∧ ∃ sorted, StablySorted fields' sorted ∧ StablySorted fields sorted := by
  have hmembers (severity : Severity) (event : String) (fields : List Field) (elapsed : Nat) :
      (Record.of severity event fields).members elapsed =
        ("event", event) :: ("severity", severity.text) :: sortFields fields := rfl
  refine ⟨⟨(Record.of severity event fields).line elapsed, sortFields fields, String.toList_ofList,
    newline_notMem_line elapsed _, stablySorted_sortFields fields, ?_⟩, fun fields' hperm hkeys => ?_, ?_⟩
  · rw [ofText_line, hmembers]
    rfl
  · rw [text_eq_text_iff, hmembers, hmembers,
      (stablySorted_sortFields fields').unique ((stablySorted_sortFields fields).of_perm hkeys hperm)]
  · intro severity' event' fields' elapsed'
    rw [text_eq_text_iff, hmembers, hmembers]
    constructor
    · intro h
      obtain ⟨hevent, h⟩ := List.cons.inj h
      obtain ⟨hseverity, hsorted⟩ := List.cons.inj h
      refine ⟨Severity.text_injective (Prod.mk.inj hseverity).2, (Prod.mk.inj hevent).2, _,
        stablySorted_sortFields fields', ?_⟩
      rw [hsorted]
      exact stablySorted_sortFields fields
    · rintro ⟨rfl, rfl, sorted, hsorted', hsorted⟩
      rw [(stablySorted_sortFields fields').unique hsorted', (stablySorted_sortFields fields).unique hsorted]

/-- Fields of different keys may change places, in which anything may stand, and fields of one key may not. -/
theorem text_decodes_repeated :
    (Record.of .info "E" [("b", "\x85"), ("a", "\"\n\\")]).text 0 =
        (Record.of .info "E" [("a", "\"\n\\"), ("b", "\x85")]).text 0 ∧
      (Record.of .info "E" [("b", "2"), ("b", "1")]).text 0 ≠ (Record.of .info "E" [("b", "1"), ("b", "2")]).text 0 := by
  refine ⟨(text_decodes .info "E" [("a", "\"\n\\"), ("b", "\x85")] 0).2.1 _ (.swap _ _ _) (by decide), fun h => ?_⟩
  obtain ⟨-, -, sorted, hsorted', hsorted⟩ := ((text_decodes .info "E" [("b", "1"), ("b", "2")] 0).2.2 _ _ _ 0).1 h
  have hkey := (hsorted'.stable "b").symm.trans (hsorted.stable "b")
  exact absurd hkey (by decide)

example : (Record.of .info "E" [("b", "\x85"), ("a", "\"\n\\")]).text 0 =
    "\x7b\"event\":\"E\",\"severity\":\"INFO\",\"a\":\"\\\"\\n\\\\\",\"b\":\"\\u0085\"\x7d\n" := by
  cbv

end Record

end ColumnSelect.Log
