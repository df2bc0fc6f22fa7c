/-
What the commands answer to a request that was read. Selecting and renaming succeed or fail, each in ways of
its own; a rename fails for the options of the request before its text is looked at (`RenameFails`). An
explanation is an answer to every request.
-/
import ColumnSelect.Command.Run
import ColumnSelect.Proofs.Command.Explain

namespace ColumnSelect.Command

open Log

/-- What a command answers to a request that was read, and what it logs. -/
def handled [Pattern.Engine] [Json.Wording] (verb : Verb) (config : Config) (request : Request) :
    Except Failure Json × List Record :=
  match verb with
  | .select => ((select config request).1.map Mapping.toJson, (select config request).2)
  | .rename => ((renameColumns config request).1.map Mapping.toJson, (renameColumns config request).2)
  | .explain _ => (.ok (explain config request).1.toJson, (explain config request).2)

/-- The answer to a request is the response that tells what the command answers, or the report in words. -/
theorem answer_eq [Pattern.Engine] [Json.Wording] (verb : Verb) (config : Config) (request : Request) :
    answer verb config request =
    if verb = .explain true then ⟨(explain config request).1.text, (explain config request).2, none⟩
    else .respond (handled verb config request).2 (handled verb config request).1 := by
  rcases verb with _ | _ | _ | _ <;> rfl

/-- Whether a command opens its scope for a request: a rename does not where columns are kept or taken out. -/
def Verb.Opens (request : Request) : Verb → Prop
  | rename => request.keep = [] ∧ request.leave = []
  | _ => True

/-! ## What renaming gives -/

section

variable {config : Config} {request : Request}

theorem renameColumns_of_not_opens [Json.Wording] (h : ¬ Verb.rename.Opens request) :
    renameColumns config request = (.error (.refused .renameWithOptions), []) := by
  have hoptions : (!request.keep.isEmpty || !request.leave.isEmpty) = true := by
    rw [Bool.or_eq_true, Bool.not_eq_true', Bool.not_eq_true', List.isEmpty_eq_false_iff, List.isEmpty_eq_false_iff]
    exact Decidable.not_and_iff_not_or_not.1 h
  unfold renameColumns
  rw [if_pos hoptions]

/-- How a command that gives columns ends its scope. -/
def endingOf [Json.Wording] (fields : Mapping → List Field) : Except Failure Mapping → Ending
  | .ok mapping => .complete (fields mapping)
  | .error f => .fail f.code f.text

theorem renameColumns_of_opens [Json.Wording] (h : Verb.rename.Opens request) : renameColumns config request =
    ((renameRequest config request).1, Scope.around "RENAME" [catalogField request] (renameRequest config request).2
      (endingOf (fun _ => []) (renameRequest config request).1)) := by
  have hoptions : ¬ (!request.keep.isEmpty || !request.leave.isEmpty) = true := by
    rw [h.1, h.2]
    decide
  unfold renameColumns
  rw [if_neg hoptions]
  rcases renameRequest config request with ⟨_ | _, log⟩ <;> rfl

/-- Tracing does not change a rename. -/
theorem fst_tracedRename (catalog : Catalog) (traced : Bool) (terms : List Term) :
    (tracedRename catalog traced terms).1 = rename catalog terms := by
  unfold tracedRename
  cases rename catalog terms <;> rfl

theorem renameRequest_of_ok {terms : List Term} (h : readTerms config request = .ok terms) :
    renameRequest config request = ((rename request.catalog terms).mapError .selection,
      (tracedRename request.catalog config.logResolutions terms).2) := by
  unfold renameRequest
  rw [h, ← fst_tracedRename _ config.logResolutions]

theorem renameRequest_of_error {f : Failure} (h : readTerms config request = .error f) :
    renameRequest config request = (.error f, []) := by
  unfold renameRequest
  rw [h]

/-- Apart from what is logged, renaming is reading the terms and renaming by them. -/
theorem fst_renameColumns [Json.Wording] (h : Verb.rename.Opens request) :
    (renameColumns config request).1 = readTerms config request >>= fun terms =>
      (rename request.catalog terms).mapError .selection := by
  rw [renameColumns_of_opens h]
  cases hread : readTerms config request with
  | error f =>
    rw [renameRequest_of_error hread]
    rfl
  | ok terms =>
    rw [renameRequest_of_ok hread]
    rfl

/-- Renaming by a request succeeds where it keeps and takes out no columns and its terms can be read, are not too
many and rename. -/
theorem renameColumns_eq_ok_iff [Json.Wording] {mapping : Mapping} : (renameColumns config request).1 = .ok mapping ↔
    Verb.rename.Opens request ∧ ∃ terms, Term.ofText request.selection = .ok terms ∧
      terms.length ≤ config.maxTerms ∧ rename request.catalog terms = .ok mapping := by
  by_cases h : Verb.rename.Opens request
  · rw [fst_renameColumns h, bind_eq_ok_iff]
    simp only [readTerms_eq_ok_iff, mapError_eq_ok_iff, and_assoc, h, true_and]
  · rw [renameColumns_of_not_opens h]
    constructor
    · rintro ⟨⟩
    · rintro ⟨hopens, -⟩
      exact absurd hopens h

/-- What renaming by a request fails with: that columns are kept or taken out, or else the error of its text, the
number of its terms, or the fault of the first of these that has one. -/
inductive RenameFails (config : Config) (request : Request) : Failure → Prop
  | options : ¬ Verb.rename.Opens request → RenameFails config request (.refused .renameWithOptions)
  | text {e : Error} : Verb.rename.Opens request → Term.ofText request.selection = .error e →
      RenameFails config request (.selection e)
  | tooMany {terms : List Term} : Verb.rename.Opens request → Term.ofText request.selection = .ok terms →
      config.maxTerms < terms.length →
      RenameFails config request (.refused (.tooManyTerms terms.length config.maxTerms))
  | terms {terms : List Term} {number : Nat} {own : Error} : Verb.rename.Opens request →
      Term.ofText request.selection = .ok terms → terms.length ≤ config.maxTerms →
      FirstFault (Term.RenameFault request.catalog) terms number own →
      RenameFails config request (.selection { own with term := some number })

end

end ColumnSelect.Command
