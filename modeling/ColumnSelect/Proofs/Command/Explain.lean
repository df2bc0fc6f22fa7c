/-
Explaining a request and selecting by it. Both read the terms of the request and resolve them, but each
tells what goes wrong in its own way: a selection fails, and an explanation is the account of a refusal. A
selection fails for the text of the request, for the number of its terms, or for the error that its terms
are refused with (`Command.Fails`); the explanation is then of that failure, and otherwise of the same
result. Main statement: `explain_agrees_select`.
-/
import ColumnSelect.Command.Answer
import ColumnSelect.Json.Standard
import ColumnSelect.Pattern.Standard
import ColumnSelect.Proofs.Selection.Trace
import ColumnSelect.Selection.Json

namespace ColumnSelect

/-- The value of the first member of an object under a key. -/
def Json.member? (key : String) : Json → Option Json
  | obj members => (members.find? (·.1 == key)).map Prod.snd
  | _ => none

namespace Explanation

/-! ## What the JSON of an explanation tells -/

variable (e : Explanation)

theorem member?_selection_toJson :
    e.toJson.member? "selection" = some ((e.mapping?.map Mapping.toJson).getD .null) := by
  simp [toJson, Json.member?]

theorem member?_code_toJson : e.toJson.member? "rejection_code" = some (.ofString? e.code?) := by
  simp [toJson, Json.member?]

theorem member?_reason_toJson : e.toJson.member? "rejection_reason" = some (.ofString? e.reason?) := by
  simp [toJson, Json.member?]

end Explanation

namespace Command

/-! ## The terms of a request -/

/-- The terms of a request are those of its text, if they are not too many. -/
theorem readTerms_eq_ok_iff {config : Config} {request : Request} {terms : List Term} :
    readTerms config request = .ok terms ↔
      Term.ofText request.selection = .ok terms ∧ terms.length ≤ config.maxTerms := by
  unfold readTerms
  rw [bind_eq_ok_iff]
  simp only [mapError_eq_ok_iff]
  constructor
  · rintro ⟨read, hr, h⟩
    split at h
    case isTrue => cases h
    case isFalse hle =>
      cases h
      exact ⟨hr, Nat.not_lt.1 hle⟩
  · rintro ⟨hr, hle⟩
    exact ⟨terms, hr, by rw [if_neg (Nat.not_lt.2 hle)]; rfl⟩

/-- They are not read where the text has an error, which comes first, or where they are too many. -/
theorem readTerms_eq_error_iff {config : Config} {request : Request} {f : Failure} :
    readTerms config request = .error f ↔
      (∃ e, Term.ofText request.selection = .error e ∧ .selection e = f) ∨
        ∃ terms, Term.ofText request.selection = .ok terms ∧ config.maxTerms < terms.length ∧
          .refused (.tooManyTerms terms.length config.maxTerms) = f := by
  unfold readTerms
  rw [bind_eq_error_iff]
  simp only [mapError_eq_error_iff, mapError_eq_ok_iff]
  refine or_congr_right (exists_congr fun terms => and_congr_right fun _ => ?_)
  split
  case isTrue hlt =>
    constructor
    · rintro ⟨⟩
      exact ⟨hlt, rfl⟩
    · rintro ⟨-, rfl⟩
      rfl
  case isFalse hle =>
    constructor
    · rintro ⟨⟩
    · rintro ⟨hlt, -⟩
      exact absurd hlt hle

/-! ## What selecting gives -/

/-- Apart from what is logged, selecting is reading the terms and resolving them. -/
theorem fst_select [Pattern.Engine] [Json.Wording] (config : Config) (request : Request) :
    (select config request).1 = readTerms config request >>= fun terms =>
      (resolve request.catalog (request.options config) terms).mapError .selection := by
  unfold select resolveRequest
  cases readTerms config request with
  | error f => rfl
  | ok terms =>
    -- it does not matter that the error is wrapped before the mapping is taken from the resolution
    show ((tracedResolution _ _ _ terms).1.mapError Failure.selection).map Resolution.mapping = _
    rw [fst_tracedResolution]
    show _ = ((resolution _ _ terms).map Resolution.mapping).mapError Failure.selection
    cases resolution request.catalog (request.options config) terms <;> rfl

/-- Selecting by a request succeeds where its terms can be read, are not too many and are resolved. -/
theorem select_eq_ok_iff [Pattern.Engine] [Json.Wording] {config : Config} {request : Request} {mapping : Mapping} :
    (select config request).1 = .ok mapping ↔
      ∃ terms, Term.ofText request.selection = .ok terms ∧ terms.length ≤ config.maxTerms ∧
        resolve request.catalog (request.options config) terms = .ok mapping := by
  rw [fst_select, bind_eq_ok_iff]
  simp only [readTerms_eq_ok_iff, mapError_eq_ok_iff, and_assoc]

/-- What selecting by a request fails with: the error of its text, the number of its terms, or the error
that these are refused with. -/
inductive Fails [Pattern.Engine] (config : Config) (request : Request) : Failure → Prop
  | text {e : Error} : Term.ofText request.selection = .error e → Fails config request (.selection e)
  | tooMany {terms : List Term} : Term.ofText request.selection = .ok terms → config.maxTerms < terms.length →
      Fails config request (.refused (.tooManyTerms terms.length config.maxTerms))
  | terms {terms : List Term} {e : Error} : Term.ofText request.selection = .ok terms →
      terms.length ≤ config.maxTerms → ColumnSelect.Refusal request.catalog (request.options config) terms e →
      Fails config request (.selection e)

theorem select_eq_error_iff [Pattern.Engine] [Json.Wording] {config : Config} {request : Request} {f : Failure} :
    (select config request).1 = .error f ↔ Fails config request f := by
  rw [fst_select, bind_eq_error_iff, readTerms_eq_error_iff]
  simp only [mapError_eq_error_iff, readTerms_eq_ok_iff, resolve_eq_error_iff]
  constructor
  · rintro ((⟨e, he, rfl⟩ | ⟨terms, hterms, hlt, rfl⟩) | ⟨terms, ⟨hterms, hle⟩, e, he, rfl⟩)
    · exact .text he
    · exact .tooMany hterms hlt
    · exact .terms hterms hle he
  · intro h
    cases h with
    | text he => exact .inl (.inl ⟨_, he, rfl⟩)
    | tooMany hterms hlt => exact .inl (.inr ⟨_, hterms, hlt, rfl⟩)
    | terms hterms hle he => exact .inr ⟨_, ⟨hterms, hle⟩, _, he, rfl⟩

/-! ## What an explanation is of -/

theorem fst_explain_of_error [Pattern.Engine] [Json.Wording] {config : Config} {request : Request} {f : Failure}
    (h : readTerms config request = .error f) : (explain config request).1 = .rejected f.code f.text := by
  unfold explain
  rw [h]

theorem fst_explain_of_ok [Pattern.Engine] [Json.Wording] {config : Config} {request : Request} {terms : List Term}
    (h : readTerms config request = .ok terms) :
    (explain config request).1 = .ofOutcome (resolution request.catalog (request.options config) terms) := by
  unfold explain
  rw [h, ← fst_tracedResolution _ _ config.logResolutions]

/-- The explanation of a request that selects columns is of the resolution to these. -/
theorem explain_of_select [Pattern.Engine] [Json.Wording] {config : Config} {request : Request} {mapping : Mapping}
    (h : (select config request).1 = .ok mapping) :
    ∃ r : Resolution, r.mapping = mapping ∧ (explain config request).1 = .accepted r := by
  obtain ⟨terms, hread, hle, hresolve⟩ := select_eq_ok_iff.1 h
  obtain ⟨r, hr, hmapping⟩ := map_eq_ok_iff.1 hresolve
  refine ⟨r, hmapping, ?_⟩
  rw [fst_explain_of_ok (readTerms_eq_ok_iff.2 ⟨hread, hle⟩), hr]
  rfl

/-- The explanation of a request for which selecting fails is of that failure, whichever it is. -/
theorem explain_of_select_error [Pattern.Engine] [Json.Wording] {config : Config} {request : Request} {f : Failure}
    (h : (select config request).1 = .error f) : (explain config request).1 = .rejected f.code f.text := by
  rw [fst_select] at h
  rcases bind_eq_error_iff.1 h with hread | ⟨terms, hterms, h⟩
  · exact fst_explain_of_error hread
  · obtain ⟨e, he, rfl⟩ := mapError_eq_error_iff.1 h
    rw [fst_explain_of_ok hterms, map_eq_error_iff.1 he]
    rfl

/-- A request is explained as accepted exactly when selecting by it succeeds, and then with the same columns.
Whatever selecting fails with, the explanation tells its code and its wording: of an error in the text, of
too many terms, and of all that terms or options are refused for. -/
theorem explain_agrees_select [Pattern.Engine] [Json.Wording] (config : Config) (request : Request) :
    ((explain config request).1.isAccepted = true ↔ ∃ mapping, (select config request).1 = .ok mapping) ∧
      (∀ mapping, (select config request).1 = .ok mapping →
        (explain config request).1.toJson.member? "selection" = some mapping.toJson) ∧
      (∀ f, (select config request).1 = .error f →
        (explain config request).1.toJson.member? "rejection_code" = some (.str f.code) ∧
          (explain config request).1.toJson.member? "rejection_reason" = some (.str f.text)) ∧
      ∀ f, (select config request).1 = .error f ↔ Fails config request f := by
  refine ⟨⟨fun h => ?_, ?_⟩, fun mapping h => ?_, fun f h => ?_, fun f => select_eq_error_iff⟩
  · cases hs : (select config request).1 with
    | ok mapping => exact ⟨mapping, rfl⟩
    | error f =>
      rw [explain_of_select_error hs] at h
      cases h
  · rintro ⟨mapping, h⟩
    obtain ⟨r, -, hr⟩ := explain_of_select h
    rw [hr]
    rfl
  · obtain ⟨r, rfl, hr⟩ := explain_of_select h
    rw [Explanation.member?_selection_toJson, hr]
    rfl
  · rw [Explanation.member?_code_toJson, Explanation.member?_reason_toJson, explain_of_select_error h]
    exact ⟨rfl, rfl⟩

/-- A request that is accepted, and four that are not: its text ends too early, it has too many terms, it
gives one name to two columns where this is not allowed, and it keeps a column that there is not. -/
theorem explain_agrees_select_refused :
    (explain ⟨.reject, false, 2⟩ ⟨["a", "b"], "b, a", [], []⟩).1.toJson.member? "selection" =
        some (Mapping.toJson [⟨"b", "b"⟩, ⟨"a", "a"⟩]) ∧
      (explain ⟨.reject, false, 2⟩ ⟨["a", "b"], "a:", [], []⟩).1.toJson.member? "rejection_code" =
        some (.str "SEL_PARSE_ERROR") ∧
      (explain ⟨.reject, false, 2⟩ ⟨["a", "b"], "a, b, a", [], []⟩).1.toJson.member? "rejection_reason" =
        some (.str "Invalid request: 3 terms exceeds max_terms (2)") ∧
      (explain ⟨.reject, false, 2⟩ ⟨["a", "b"], "x = c(a, b)", [], []⟩).1.toJson.member? "rejection_code" =
        some (.str "SEL_INVALID_ARGUMENT") ∧
      (explain ⟨.reject, false, 2⟩ ⟨["a", "b"], "b", ["y"], []⟩).1.toJson.member? "rejection_code" =
        some (.str "SEL_UNKNOWN_VARIABLE") := by
  have hselect : (select ⟨.reject, false, 2⟩ ⟨["a", "b"], "b, a", [], []⟩).1 = .ok [⟨"b", "b"⟩, ⟨"a", "a"⟩] :=
    select_eq_ok_iff.2 ⟨[⟨none, .column "b"⟩, ⟨none, .column "a"⟩], rfl, by decide, by decide +kernel⟩
  have htext : (select ⟨.reject, false, 2⟩ ⟨["a", "b"], "a:", [], []⟩).1 =
      .error (.selection ⟨.parse ⟨1, 3⟩ (.noExpression none), none⟩) :=
    select_eq_error_iff.2 (.text rfl)
  have hread : Term.ofText "a, b, a" = .ok [⟨none, .column "a"⟩, ⟨none, .column "b"⟩, ⟨none, .column "a"⟩] := rfl
  have hmany : (select ⟨.reject, false, 2⟩ ⟨["a", "b"], "a, b, a", [], []⟩).1 =
      .error (.refused (.tooManyTerms 3 2)) := by
    have hfails : Fails ⟨.reject, false, 2⟩ ⟨["a", "b"], "a, b, a", [], []⟩ (.refused (.tooManyTerms _ _)) :=
      .tooMany hread (show 2 < 3 by decide)
    exact select_eq_error_iff.2 hfails
  have hnamed : resolve ["a", "b"] ⟨[], [], .reject⟩ [⟨some "x", .list [.column "a", .column "b"]⟩] =
      .error ⟨.invalidArgument "x" (.oneNameForMany 2 "x"), some 1⟩ := by
    decide +kernel
  have hterm : (select ⟨.reject, false, 2⟩ ⟨["a", "b"], "x = c(a, b)", [], []⟩).1 =
      .error (.selection ⟨.invalidArgument "x" (.oneNameForMany 2 "x"), some 1⟩) :=
    select_eq_error_iff.2 (.terms rfl (by decide) (resolve_eq_error_iff.1 hnamed))
  have hkept : resolve ["a", "b"] ⟨["y"], [], .reject⟩ [⟨none, .column "b"⟩] =
      .error ⟨.unknownVariable "y", none⟩ := by
    decide +kernel
  have hoption : (select ⟨.reject, false, 2⟩ ⟨["a", "b"], "b", ["y"], []⟩).1 =
      .error (.selection ⟨.unknownVariable "y", none⟩) :=
    select_eq_error_iff.2 (.terms rfl (by decide) (resolve_eq_error_iff.1 hkept))
  have hwording : (Failure.refused (.tooManyTerms 3 2)).text = "Invalid request: 3 terms exceeds max_terms (2)" := by
    decide +kernel
  refine ⟨(explain_agrees_select _ _).2.1 _ hselect, ((explain_agrees_select _ _).2.2.1 _ htext).1, ?_,
    ((explain_agrees_select _ _).2.2.1 _ hterm).1, ((explain_agrees_select _ _).2.2.1 _ hoption).1⟩
  rw [((explain_agrees_select _ _).2.2.1 _ hmany).2, hwording]

end Command

end ColumnSelect
