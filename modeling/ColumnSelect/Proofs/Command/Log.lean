/-
What a command logs of a request. It works in a scope of its own: the first line tells the beginning of the
scope, the last tells its end, and in between stand the lines of the work, those of the terms where these are
traced. The end is told as the result is. A command that tells its result in an event of its own, though, names
that event like the end of its scope, and logs it right in front of the end: `EXPLAIN_COMPLETE` always, and
`RENAME_COMPLETE` where the terms are traced. A log is in balance apart from these (`Balanced`), and is not
without them. Main statement: `balanced_handled`.
-/
import ColumnSelect.Json.Standard
import ColumnSelect.Pattern.Standard
import ColumnSelect.Proofs.Command.Answer
import ColumnSelect.Proofs.Log.Session

namespace ColumnSelect

open Log

/-! ## The lines of the work -/

/-- The events that are logged while terms are selected by. -/
def traceEvents : List String := ["TERM_EVALUATED", "SELECTION_COMPLETE", "SELECTION_FAILED"]

theorem event_of_mem_tracedResolution [Pattern.Engine] {catalog : Catalog} {options : Options} {traced : Bool}
    {terms : List Term}
    {r : Record} (h : r ∈ (tracedResolution catalog options traced terms).2) : r.event ∈ traceEvents := by
  rw [snd_tracedResolution] at h
  split at h
  case isTrue =>
    rcases List.mem_append.1 h with hterm | hend
    · obtain ⟨e, -, rfl⟩ := List.mem_map.1 hterm
      show "TERM_EVALUATED" ∈ traceEvents
      decide
    · obtain rfl := List.mem_singleton.1 hend
      cases resolution catalog options terms with
      | ok r => show "SELECTION_COMPLETE" ∈ traceEvents; decide
      | error e => show "SELECTION_FAILED" ∈ traceEvents; decide
  case isFalse => cases h

namespace Command

/-! ## Scopes in balance -/

/-- The name of the scope of a command. -/
def Verb.scopeName : Verb → String
  | select => "SELECT"
  | rename => "RENAME"
  | explain _ => "EXPLAIN"

/-- The events that tell the end of a scope. -/
def endEvents (name : String) : List String := [name ++ "_COMPLETE", name ++ "_FAILED", name ++ "_INCOMPLETE"]

/-- How the scope of a command ends with its result: a failure is told by its code and its text. -/
inductive Concludes [Json.Wording] : Except Failure Json → Ending → Prop
  | completed {data : Json} {fields : List Field} : Concludes (.ok data) (.complete fields)
  | failed {f : Failure} : Concludes (.error f) (.fail f.code f.text)

/-- A log of a scope that is in balance with a result, apart from the given lines. The first line tells that the
scope begins. The last tells that it ends, as the result is, and no other line has an event of an end except
those that are given; these stand in front of the last. -/
def Balanced [Json.Wording] (name : String) (result : Except Failure Json) (namesakes log : List Record) : Prop :=
  ∃ first work last ending, log = first :: (work ++ namesakes ++ [last]) ∧
    first.severity = .info ∧ first.event = name ++ "_BEGIN" ∧
    (log.filter fun r => r.event ∈ endEvents name) = namesakes ++ [last] ∧
    Concludes result ending ∧ Closes name (some ending) [last]

/-- The lines of a command that are no end of its scope and have the event of one. -/
inductive Namesakes [Pattern.Engine] [Json.Wording] (config : Config) (request : Request) : Verb → List Record → Prop
  | selected : Namesakes config request .select []
  | renameFailed {f : Failure} : (renameColumns config request).1 = .error f → Namesakes config request .rename []
  | renameUntraced : config.logResolutions = false → Namesakes config request .rename []
  | renamed {mapping : Mapping} {terms : List Term} : config.logResolutions = true →
      (renameColumns config request).1 = .ok mapping → Term.ofText request.selection = .ok terms →
      Namesakes config request .rename
        [⟨.info, "RENAME_COMPLETE", [("columns", toString mapping.length), ("renames", toString terms.length)], false⟩]
  | explained {text : Bool} : Namesakes config request (.explain text)
      [⟨.info, "EXPLAIN_COMPLETE", [("accepted", toString (explain config request).1.isAccepted)], false⟩]

/-! ## What is no end -/

theorem begin_notMem_endEvents (name : String) : name ++ "_BEGIN" ∉ endEvents name := by
  simp [endEvents]

theorem traceEvents_disjoint (verb : Verb) : ∀ event ∈ traceEvents, event ∉ endEvents verb.scopeName := by
  cases verb with
  | select => decide
  | rename => decide
  | explain text => show ∀ event ∈ traceEvents, event ∉ endEvents "EXPLAIN"; decide

theorem Namesakes.event [Pattern.Engine] [Json.Wording] {config : Config} {request : Request} {verb : Verb}
    {namesakes : List Record}
    (h : Namesakes config request verb namesakes) : ∀ r ∈ namesakes, r.event = verb.scopeName ++ "_COMPLETE" := by
  intro r hr
  cases h with
  | renamed =>
    obtain rfl := List.mem_singleton.1 hr
    show "RENAME_COMPLETE" = "RENAME" ++ "_COMPLETE"
    decide
  | explained =>
    obtain rfl := List.mem_singleton.1 hr
    show "EXPLAIN_COMPLETE" = "EXPLAIN" ++ "_COMPLETE"
    decide
  | _ => cases hr

/-! ## The scope of a command -/

/-- All that ends a scope is one line with an event of an end. -/
theorem exists_close (name : String) (ending : Ending) :
    ∃ last, (Scope.fresh name).close ending = [last] ∧ last.event ∈ endEvents name := by
  cases ending with
  | complete fields => exact ⟨_, rfl, List.mem_cons_self⟩
  | fail code reason => exact ⟨_, rfl, List.mem_cons_of_mem _ List.mem_cons_self⟩
  | drop => exact ⟨_, rfl, List.mem_cons_of_mem _ (List.mem_cons_of_mem _ List.mem_cons_self)⟩

/-- The lines around a piece of work are in balance with what its end tells, apart from those that have an event
of the end and come last. -/
theorem balanced_around [Json.Wording] {name : String} {fields : List Field} {work namesakes : List Record}
    {ending : Ending} {result : Except Failure Json} (hwork : ∀ r ∈ work, r.event ∉ endEvents name)
    (hnamesakes : ∀ r ∈ namesakes, r.event ∈ endEvents name) (hresult : Concludes result ending) :
    Balanced name result namesakes (Scope.around name fields (work ++ namesakes) ending) := by
  obtain ⟨last, hclose, hlast⟩ := exists_close name ending
  have haround : Scope.around name fields (work ++ namesakes) ending =
      Scope.begun name fields :: (work ++ namesakes ++ [last]) := by
    rw [Scope.around, hclose, List.cons_append]
  have hcloses : Closes name (some ending) [last] := hclose ▸ closes_close name ending
  refine ⟨Scope.begun name fields, work, last, ending, haround, rfl, rfl, ?_, hresult, hcloses⟩
  -- neither the beginning nor the work has an event of the end
  have hbegin : ¬ decide ((Scope.begun name fields).event ∈ endEvents name) = true := by
    rw [decide_eq_true_eq]
    exact begin_notMem_endEvents name
  have hends : ∀ r ∈ namesakes ++ [last], r.event ∈ endEvents name := by
    intro r hr
    rcases List.mem_append.1 hr with hr | hr
    · exact hnamesakes r hr
    · obtain rfl := List.mem_singleton.1 hr
      exact hlast
  rw [haround, List.filter_cons, if_neg hbegin, List.append_assoc,
    List.filter_append, List.filter_eq_nil_iff.2 (by simpa using hwork), List.nil_append,
    List.filter_eq_self.2 (by simpa using hends)]

theorem concludes_endingOf [Json.Wording] (fields : Mapping → List Field) (result : Except Failure Mapping) :
    Concludes (result.map Mapping.toJson) (endingOf fields result) := by
  cases result with
  | ok mapping => exact .completed
  | error f => exact .failed

section

variable {config : Config} {request : Request}

theorem snd_select [Pattern.Engine] [Json.Wording] : (select config request).2 =
    Scope.around "SELECT" [catalogField request] (resolveRequest config request).2
      (endingOf (fun mapping => [("columns", toString mapping.length)]) (select config request).1) := by
  unfold select
  rcases resolveRequest config request with ⟨_ | _, log⟩ <;> rfl

theorem event_of_mem_resolveRequest [Pattern.Engine] {r : Record} (h : r ∈ (resolveRequest config request).2) :
    r.event ∈ traceEvents := by
  unfold resolveRequest at h
  split at h
  · cases h
  · exact event_of_mem_tracedResolution h

/-- A rename logs nothing of its work but its own success, where it is traced. -/
theorem namesakes_renameRequest [Pattern.Engine] [Json.Wording] (h : Verb.rename.Opens request) :
    Namesakes config request .rename (renameRequest config request).2 := by
  cases hread : readTerms config request with
  | error f =>
    rw [renameRequest_of_error hread]
    refine .renameFailed (f := f) ?_
    rw [fst_renameColumns h, hread]
    rfl
  | ok terms =>
    rw [renameRequest_of_ok hread]
    have hterms := readTerms_eq_ok_iff.1 hread
    unfold tracedRename
    cases hr : rename request.catalog terms with
    | error e =>
      refine .renameFailed (f := .selection e) ?_
      rw [fst_renameColumns h, hread]
      exact congrArg (Except.mapError Failure.selection) hr
    | ok mapping =>
      cases htraced : config.logResolutions with
      | false => exact .renameUntraced htraced
      | true => exact .renamed htraced (renameColumns_eq_ok_iff.2 ⟨h, terms, hterms.1, hterms.2, hr⟩) hterms.1

end

/-- The lines of an explanation: those of its terms, and then whether the selection is accepted. -/
theorem exists_snd_explain [Pattern.Engine] [Json.Wording] (config : Config) (request : Request) :
    ∃ work, (∀ r ∈ work, r.event ∈ traceEvents) ∧ (explain config request).2 = Scope.around "EXPLAIN" []
      (work ++ [⟨.info, "EXPLAIN_COMPLETE", [("accepted", toString (explain config request).1.isAccepted)], false⟩])
      (.complete []) := by
  unfold explain
  cases readTerms config request with
  | error f => exact ⟨[], nofun, rfl⟩
  | ok terms => exact ⟨_, fun r hr => event_of_mem_tracedResolution hr, rfl⟩

/-- A command that opens its scope works in between, and ends the scope with its result. -/
theorem exists_around [Pattern.Engine] [Json.Wording] {verb : Verb} (config : Config) {request : Request}
    (h : verb.Opens request) :
    ∃ fields work namesakes ending, (handled verb config request).2 =
        Scope.around verb.scopeName fields (work ++ namesakes) ending ∧
      (∀ r ∈ work, r.event ∈ traceEvents) ∧ Namesakes config request verb namesakes ∧
      Concludes (handled verb config request).1 ending := by
  cases verb with
  | select =>
    refine ⟨[catalogField request], (resolveRequest config request).2, [], _, ?_,
      fun r => event_of_mem_resolveRequest, .selected,
      concludes_endingOf (fun mapping => [("columns", toString mapping.length)]) _⟩
    rw [List.append_nil]
    exact snd_select
  | rename =>
    refine ⟨[catalogField request], [], _, _, ?_, nofun, namesakes_renameRequest h, concludes_endingOf (fun _ => []) _⟩
    rw [List.nil_append]
    show (renameColumns config request).2 = _
    rw [renameColumns_of_opens h]
    rfl
  | explain text =>
    obtain ⟨work, hwork, hlog⟩ := exists_snd_explain config request
    exact ⟨_, work, _, _, hlog, hwork, .explained, .completed⟩

/-- A scope that is in balance is not told to be incomplete. -/
theorem Balanced.not_incomplete [Json.Wording] {name : String} {result : Except Failure Json}
    {namesakes log : List Record}
    (h : Balanced name result namesakes log) (hnamesakes : ∀ r ∈ namesakes, r.event = name ++ "_COMPLETE") :
    ∀ r ∈ log, r.event ≠ name ++ "_INCOMPLETE" := by
  obtain ⟨first, work, last, ending, -, -, -, hfilter, hconcludes, hcloses⟩ := h
  intro r hr he
  have hmem : r ∈ namesakes ++ [last] := by
    rw [← hfilter, List.mem_filter, decide_eq_true_eq, he]
    exact ⟨hr, by simp [endEvents]⟩
  rcases List.mem_append.1 hmem with hr | hr
  · rw [hnamesakes r hr] at he
    simp at he
  · obtain rfl := List.mem_singleton.1 hr
    cases hconcludes with
    | completed =>
      cases hcloses with
      | completed _ hevent _ =>
        rw [hevent] at he
        simp at he
    | failed =>
      cases hcloses with
      | failed _ hevent _ =>
        rw [hevent] at he
        simp at he

/-- The log of every command that opens its scope is in balance with its result: it begins with the beginning of
the scope and ends with its end, a failure being told by the code and the text of the error that is returned. The
only other lines with an event of the end are those of the command's own events, and no scope is told to be
incomplete. A command that does not open its scope logs nothing. -/
theorem balanced_handled [Pattern.Engine] [Json.Wording] (verb : Verb) (config : Config) (request : Request) :
    (verb.Opens request → ∃ namesakes, Namesakes config request verb namesakes ∧
      Balanced verb.scopeName (handled verb config request).1 namesakes (handled verb config request).2 ∧
      ∀ r ∈ (handled verb config request).2, r.event ≠ verb.scopeName ++ "_INCOMPLETE") ∧
    (¬ verb.Opens request → (handled verb config request).2 = []) := by
  constructor
  · intro h
    obtain ⟨fields, work, namesakes, ending, hlog, hwork, hnamesakes, hresult⟩ := exists_around config h
    have hends : ∀ r ∈ namesakes, r.event ∈ endEvents verb.scopeName := by
      intro r hr
      rw [hnamesakes.event r hr]
      exact List.mem_cons_self
    have hbalanced : Balanced verb.scopeName (handled verb config request).1 namesakes
        (handled verb config request).2 := by
      rw [hlog]
      exact balanced_around (fun r hr => traceEvents_disjoint verb _ (hwork r hr)) hends hresult
    exact ⟨namesakes, hnamesakes, hbalanced, hbalanced.not_incomplete hnamesakes.event⟩
  · intro h
    cases verb with
    | rename =>
      show (renameColumns config request).2 = []
      rw [renameColumns_of_not_opens h]
    | _ => exact absurd trivial h

/-- A traced rename, which logs its success in front of its end, a selection that fails, and a rename that opens no
scope. -/
theorem balanced_handled_cases :
    let traced : Config := ⟨.numbered, true, 1024⟩
    Balanced "RENAME" (.ok (.arr [.obj [("output", .str "b"), ("source", .str "a")]]))
        [⟨.info, "RENAME_COMPLETE", [("columns", "1"), ("renames", "1")], false⟩]
        (handled .rename traced ⟨["a"], "b = a", [], []⟩).2 ∧
      Balanced "SELECT" (.error (.selection ⟨.unknownVariable "x", some 2⟩)) []
        (handled .select traced ⟨["a"], "a, x", [], []⟩).2 ∧
      (handled .rename traced ⟨["a"], "b = a", ["a"], []⟩).2 = [] := by
  intro traced
  have hterms : Term.ofText "b = a" = .ok [⟨some "b", .column "a"⟩] := rfl
  have hrename : rename ["a"] [⟨some "b", .column "a"⟩] = .ok [⟨"b", "a"⟩] := by decide +kernel
  have hrenamed : (renameColumns traced ⟨["a"], "b = a", [], []⟩).1 = .ok [⟨"b", "a"⟩] :=
    renameColumns_eq_ok_iff.2 ⟨⟨rfl, rfl⟩, _, hterms, by decide, hrename⟩
  have hunknown : resolve ["a"] (Request.options ⟨["a"], "a, x", [], []⟩ traced)
      [⟨none, .column "a"⟩, ⟨none, .column "x"⟩] = .error ⟨.unknownVariable "x", some 2⟩ := by
    decide +kernel
  have hfails : Fails traced ⟨["a"], "a, x", [], []⟩ (.selection ⟨.unknownVariable "x", some 2⟩) :=
    .terms rfl (by decide) (resolve_eq_error_iff.1 hunknown)
  refine ⟨?_, ?_, (balanced_handled .rename traced _).2 fun h => nomatch h.1⟩
  · obtain ⟨namesakes, hnamesakes, hbalanced, -⟩ :=
      (balanced_handled .rename traced ⟨["a"], "b = a", [], []⟩).1 ⟨rfl, rfl⟩
    have hresult : (handled .rename traced ⟨["a"], "b = a", [], []⟩).1 = .ok (Mapping.toJson [⟨"b", "a"⟩]) := by
      rw [handled, hrenamed]
      rfl
    rw [hresult] at hbalanced
    cases hnamesakes with
    | renameFailed h =>
      rw [hrenamed] at h
      cases h
    | renameUntraced h => cases h
    | renamed _ h hread =>
      rw [hrenamed] at h
      cases h
      rw [hterms] at hread
      cases hread
      exact hbalanced
  · obtain ⟨namesakes, hnamesakes, hbalanced, -⟩ :=
      (balanced_handled .select traced ⟨["a"], "a, x", [], []⟩).1 trivial
    have hresult : (handled .select traced ⟨["a"], "a, x", [], []⟩).1 =
        .error (.selection ⟨.unknownVariable "x", some 2⟩) := by
      rw [handled, select_eq_error_iff.2 hfails]
      rfl
    rw [hresult] at hbalanced
    cases hnamesakes
    exact hbalanced

/-- The log of an explanation and that of a traced rename have two lines with the event of the end, so that
neither is in balance on its own. -/
theorem not_balanced_handled :
    ¬ Balanced "EXPLAIN" (handled (.explain false) .standard ⟨["a"], "a", [], []⟩).1 []
        (handled (.explain false) .standard ⟨["a"], "a", [], []⟩).2 ∧
      ¬ Balanced "RENAME" (handled .rename ⟨.numbered, true, 1024⟩ ⟨["a"], "b = a", [], []⟩).1 []
        (handled .rename ⟨.numbered, true, 1024⟩ ⟨["a"], "b = a", [], []⟩).2 := by
  have hexplain : (handled (.explain false) .standard ⟨["a"], "a", [], []⟩).2 =
      [⟨.info, "EXPLAIN_BEGIN", [], false⟩, ⟨.info, "EXPLAIN_COMPLETE", [("accepted", "true")], false⟩,
        ⟨.info, "EXPLAIN_COMPLETE", [], true⟩] := by
    decide +kernel
  have hrename : (handled .rename ⟨.numbered, true, 1024⟩ ⟨["a"], "b = a", [], []⟩).2 =
      [⟨.info, "RENAME_BEGIN", [("catalog", "1")], false⟩,
        ⟨.info, "RENAME_COMPLETE", [("columns", "1"), ("renames", "1")], false⟩,
        ⟨.info, "RENAME_COMPLETE", [], true⟩] := by
    decide +kernel
  constructor
  · rintro ⟨first, work, last, ending, -, -, -, hfilter, -, -⟩
    rw [hexplain] at hfilter
    have hlength : 2 = 1 := congrArg List.length hfilter
    cases hlength
  · rintro ⟨first, work, last, ending, -, -, -, hfilter, -, -⟩
    rw [hrename] at hfilter
    have hlength : 2 = 1 := congrArg List.length hfilter
    cases hlength

end Command

end ColumnSelect
