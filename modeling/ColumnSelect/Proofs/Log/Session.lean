/-
The lines of scopes in a session. A step may open a scope, end one, or ask for one; it is done to one scope
only, and what it logs is counted as that scope's. From its opening on, a scope is held as it was opened
until the first step that ends it, and is gone from then on; so its lines depend on how it was opened and on
that step alone, whatever is done to other scopes in between. Main statement: `linesOf_scope`.
-/
import ColumnSelect.Log.Scope

namespace ColumnSelect.Log

/-! ## Runs of steps -/

/-- The number of the scope that a step is done to. A scope that is opened has the next number. -/
def Step.scope (session : Session) : Step → Nat
  | .start _ _ => session.length
  | .complete id _ | .fail id _ _ | .drop id | .isCompleted id => id

/-- How a step ends the scope of that number, where it does. -/
def Step.ending? (id : Nat) : Step → Option Ending
  | .complete i fields => if i = id then some (.complete fields) else none
  | .fail i code reason => if i = id then some (.fail code reason) else none
  | .drop i => if i = id then some .drop else none
  | .start _ _ | .isCompleted _ => none

/-- How steps in a row end the scope of that number: as the first of them does that ends it. -/
def ending? (id : Nat) (steps : List Step) : Option Ending := steps.findSome? (Step.ending? id)

theorem ending?_cons (id : Nat) (s : Step) (steps : List Step) :
    ending? id (s :: steps) = (s.ending? id).or (ending? id steps) := by
  rw [ending?, List.findSome?_cons]
  cases s.ending? id <;> rfl

namespace Session

/-- The session after steps in a row. -/
def run (session : Session) : List Step → Session
  | [] => session
  | s :: ss => (session.step s).1.run ss

/-- What steps in a row log, each record with the number of its scope. -/
def log (session : Session) : List Step → List (Nat × Record)
  | [] => []
  | s :: ss => (session.step s).2.2.map (s.scope session, ·) ++ (session.step s).1.log ss

end Session

/-- The records of one scope in a log. -/
def linesOf (id : Nat) (log : List (Nat × Record)) : List Record :=
  (log.filter fun line => line.1 == id).map Prod.snd

theorem linesOf_append (id : Nat) (log log' : List (Nat × Record)) :
    linesOf id (log ++ log') = linesOf id log ++ linesOf id log' := by
  rw [linesOf, List.filter_append, List.map_append, linesOf, linesOf]

theorem linesOf_map_of_eq (id : Nat) (records : List Record) :
    linesOf id (records.map (id, ·)) = records := by
  induction records with
  | nil => rfl
  | cons r rs ih => rw [List.map_cons, linesOf, List.filter_cons_of_pos (by simp), List.map_cons, ← linesOf, ih]

theorem linesOf_map_of_ne {i id : Nat} (h : i ≠ id) (records : List Record) :
    linesOf id (records.map (i, ·)) = [] := by
  rw [linesOf, List.filter_eq_nil_iff.2, List.map_nil]
  simp [h]

namespace Session

variable (session : Session)

theorem run_append (steps steps' : List Step) :
    session.run (steps ++ steps') = (session.run steps).run steps' := by
  induction steps generalizing session with
  | nil => rfl
  | cons s ss ih => rw [List.cons_append, run, ih, run]

theorem log_append (steps steps' : List Step) :
    session.log (steps ++ steps') = session.log steps ++ (session.run steps).log steps' := by
  induction steps generalizing session with
  | nil => rfl
  | cons s ss ih => rw [List.cons_append, log, ih, log, run, List.append_assoc]

/-! ## What one step does -/

variable {session} {id i : Nat} {s : Step} {ending : Ending}

theorem length_finish : (session.finish i ending).1.length = session.length := by
  unfold finish
  split
  · exact List.length_set
  · rfl

theorem getElem?_finish_of_ne (h : i ≠ id) : (session.finish i ending).1[id]? = session[id]? := by
  unfold finish
  split
  · exact List.getElem?_set_ne h
  · rfl

/-- No step takes a number from a scope. -/
theorem length_le_step : session.length ≤ (session.step s).1.length := by
  cases s with
  | start name fields => simp [step]
  | isCompleted i =>
    rw [step]
    split <;> exact Nat.le_refl _
  | _ => exact Nat.le_of_eq length_finish.symm

theorem length_le_run (steps : List Step) : session.length ≤ (session.run steps).length := by
  induction steps generalizing session with
  | nil => exact Nat.le_refl _
  | cons s ss ih => exact Nat.le_trans length_le_step ih

/-- A step that ends a scope is done to it, and does nothing else. -/
theorem step_of_ending (h : s.ending? id = some ending) :
    s.scope session = id ∧ session.step s = session.finish id ending := by
  cases s with
  | start name fields => cases h
  | isCompleted i => cases h
  | _ =>
    -- the three that end a scope differ in the ending only
    obtain ⟨rfl, ⟨⟩⟩ := Option.ite_none_right_eq_some.1 h
    exact ⟨rfl, rfl⟩

/-- Any other step leaves the scope as it is. -/
theorem getElem?_step (hid : id < session.length) (h : s.ending? id = none) :
    (session.step s).1[id]? = session[id]? := by
  cases s with
  | start name fields => exact List.getElem?_append_left hid
  | isCompleted i =>
    rw [step]
    split <;> rfl
  | _ => exact getElem?_finish_of_ne fun hi => by simp [Step.ending?, hi] at h

/-- Any other step logs nothing of it. -/
theorem log_step (hid : id < session.length) (h : s.ending? id = none) (hs : s.scope session = id) :
    (session.step s).2.2 = [] := by
  cases s with
  | start name fields => exact absurd hs (Nat.ne_of_gt hid)
  | isCompleted i =>
    rw [step]
    split <;> rfl
  | _ =>
    rw [Step.scope] at hs
    simp [Step.ending?, hs] at h

/-! ## The lines of one scope -/

theorem linesOf_log_cons (steps : List Step) : linesOf id (session.log (s :: steps)) =
    (if s.scope session = id then (session.step s).2.2 else []) ++ linesOf id ((session.step s).1.log steps) := by
  rw [log, linesOf_append]
  split
  · rename_i h
    rw [h, linesOf_map_of_eq]
  · rename_i h
    rw [linesOf_map_of_ne h]

/-- A scope is held until the first step that ends it. -/
theorem open?_run (hid : id < session.length) (steps : List Step) :
    (session.run steps).open? id = if (ending? id steps).isSome then none else session.open? id := by
  induction steps generalizing session with
  | nil => rfl
  | cons s ss ih =>
    rw [run, ih (Nat.lt_of_lt_of_le hid length_le_step), ending?_cons]
    cases he : s.ending? id with
    | none => rw [open?, getElem?_step hid he, ← open?, Option.none_or]
    | some ending =>
      rw [(step_of_ending he).2]
      have hgone : (session.finish id ending).1.open? id = none := by
        unfold finish
        split
        · simp [open?, hid]
        · assumption
      rw [hgone, ite_self]
      rfl

/-- It logs its end then, and nothing else. -/
theorem linesOf_log (hid : id < session.length) (steps : List Step) : linesOf id (session.log steps) =
    match session.open? id, ending? id steps with
    | some scope, some ending => scope.close ending
    | _, _ => [] := by
  induction steps generalizing session with
  | nil => cases session.open? id <;> rfl
  | cons s ss ih =>
    rw [linesOf_log_cons, ih (Nat.lt_of_lt_of_le hid length_le_step), ending?_cons]
    cases he : s.ending? id with
    | none =>
      -- the scope is as it was, and the step adds no line of it
      have hsilent : (if s.scope session = id then (session.step s).2.2 else []) = [] := by
        split
        · exact log_step hid he ‹_›
        · rfl
      rw [hsilent, open?, getElem?_step hid he, ← open?, Option.none_or, List.nil_append]
    | some ending =>
      have hdone : s.scope session = id ∧ session.step s = session.finish id ending := step_of_ending he
      rw [if_pos hdone.1, hdone.2]
      unfold finish
      cases ho : session.open? id with
      | none => simp [ho]
      | some scope =>
        -- the scope is gone now, so that nothing is logged of it any more
        have hgone : open? (session.set id none) id = none := by simp [open?, hid]
        simp [hgone]

/-! ## Scopes that were opened -/

/-- Only a step that opens a scope adds one, and it adds one. -/
theorem exists_start_of_length_lt (h : session.length < (session.step s).1.length) :
    (∃ name fields, s = .start name fields) ∧ (session.step s).1.length = session.length + 1 := by
  cases s with
  | start name fields => exact ⟨⟨name, fields, rfl⟩, List.length_append⟩
  | isCompleted i =>
    rw [step] at h
    split at h <;> exact absurd h (Nat.lt_irrefl _)
  | _ => exact absurd h (Nat.not_lt.2 (Nat.le_of_eq length_finish))

/-- Of a scope that is not opened nothing is logged. -/
theorem linesOf_log_of_le {steps : List Step} (h : (session.run steps).length ≤ id) :
    linesOf id (session.log steps) = [] := by
  induction steps generalizing session with
  | nil => rfl
  | cons s ss ih =>
    rw [linesOf_log_cons, ih h, List.append_nil]
    split
    · rename_i hs
      -- the scope is not there, so that the step finds none and does not open it
      have hstep : (session.step s).1.length ≤ id := Nat.le_trans (length_le_run ss) h
      have hnone : session.open? id = none := by
        rw [open?, List.getElem?_eq_none (Nat.le_trans length_le_step hstep), Option.join_none]
      cases s with
      | start name fields =>
        rw [Step.scope] at hs
        rw [step, List.length_append, List.length_singleton] at hstep
        omega
      | isCompleted i =>
        cases hs
        rw [step, Step.scope] at *
        rw [hnone]
      | _ =>
        cases hs
        rw [Step.scope] at hnone
        rw [step, finish, hnone]
    · rfl

/-- Every scope that there is after a run and was not before is opened by a step of the run. -/
theorem exists_start {steps : List Step} (hle : session.length ≤ id) (hlt : id < (session.run steps).length) :
    ∃ before name fields after, steps = before ++ .start name fields :: after ∧
      (session.run before).length = id := by
  induction steps generalizing session with
  | nil => exact absurd hlt (Nat.not_lt.2 hle)
  | cons s ss ih =>
    -- the step that takes the session past the number is the one that opens the scope
    by_cases hid : id < (session.step s).1.length
    · obtain ⟨⟨name, fields, rfl⟩, hlength⟩ := exists_start_of_length_lt (Nat.lt_of_le_of_lt hle hid)
      exact ⟨[], name, fields, ss, rfl, by rw [run]; omega⟩
    · obtain ⟨before, name, fields, after, rfl, hbefore⟩ := ih (Nat.not_lt.1 hid) hlt
      exact ⟨s :: before, name, fields, after, rfl, hbefore⟩

end Session

/-! ## From the beginning to the end -/

/-- A scope in a run of steps from the empty session: one of them opens it under its name, and it is ended by
the first later step that ends it, where there is one. -/
def Life (steps : List Step) (id : Nat) (name : String) (fields : List Field) (ending : Option Ending) : Prop :=
  ∃ before after, steps = before ++ .start name fields :: after ∧
    (Session.run [] before).length = id ∧ ending? id after = ending

/-- What is logged of how a scope ended: nothing as long as it is held, and one line when it has ended, with
the time that passed where it was completed. -/
inductive Closes (name : String) : Option Ending → List Record → Prop
  | held : Closes name none []
  | completed {fields : List Field} {r : Record} : r.severity = .info → r.event = name ++ "_COMPLETE" →
      (∀ us, r.allFields us = fields ++ [("elapsed_us", toString us)]) → Closes name (some (.complete fields)) [r]
  | failed {code reason : String} {r : Record} : r.severity = .warn → r.event = name ++ "_FAILED" →
      (∀ us, r.allFields us = [("code", code), ("reason", reason)]) → Closes name (some (.fail code reason)) [r]
  | incomplete {r : Record} : r.severity = .warn → r.event = name ++ "_INCOMPLETE" → Closes name (some .drop) [r]

/-- A scope that is held as it was opened tells its end once. -/
theorem closes_close (name : String) (ending : Ending) :
    Closes name (some ending) ((Scope.fresh name).close ending) := by
  cases ending with
  | complete fields => exact .completed rfl rfl fun _ => rfl
  | fail code reason => exact .failed rfl rfl fun _ => rfl
  | drop => exact .incomplete rfl rfl

namespace Life

variable {steps : List Step} {id : Nat} {name : String} {fields : List Field} {ending : Option Ending}

/-- Right after its opening the scope is held, with its beginning logged. -/
theorem opened (h : Life steps id name fields ending) : ∃ (session : Session) (after : List Step),
    ending? id after = ending ∧ id < session.length ∧ Session.run [] steps = session.run after ∧
    session.open? id = some (.fresh name) ∧
    linesOf id (Session.log [] steps) = Scope.begun name fields :: linesOf id (session.log after) := by
  obtain ⟨before, after, rfl, hid, hending⟩ := h
  refine ⟨Session.run [] before ++ [some (.fresh name)], after, hending, ?_, ?_, ?_, ?_⟩
  · rw [List.length_append, List.length_singleton, hid]
    exact Nat.lt_succ_self id
  · rw [Session.run_append]
    rfl
  · rw [Session.open?, ← hid, List.getElem?_concat_length]
    rfl
  · rw [Session.log_append, linesOf_append, Session.linesOf_log_of_le (Nat.le_of_eq hid), List.nil_append,
      Session.linesOf_log_cons, Step.scope, if_pos hid]
    rfl

theorem id_lt (h : Life steps id name fields ending) : id < (Session.run [] steps).length := by
  obtain ⟨session, after, -, hid, hrun, -, -⟩ := h.opened
  rw [hrun]
  exact Nat.lt_of_lt_of_le hid (Session.length_le_run after)

/-- The scope is held as it was opened, or gone if it was ended. -/
theorem open?_run (h : Life steps id name fields ending) :
    (Session.run [] steps).open? id = if ending.isSome then none else some (.fresh name) := by
  obtain ⟨session, after, hending, hid, hrun, hopen, -⟩ := h.opened
  rw [hrun, Session.open?_run hid, hending, hopen]

/-- The lines of the scope are its beginning and its end. -/
theorem linesOf_log (h : Life steps id name fields ending) : ∃ closing,
    linesOf id (Session.log [] steps) = Scope.begun name fields :: closing ∧ Closes name ending closing := by
  obtain ⟨session, after, hending, hid, -, hopen, hlines⟩ := h.opened
  refine ⟨_, hlines, ?_⟩
  rw [Session.linesOf_log hid, hopen, hending]
  cases ending with
  | none => exact .held
  | some ending => exact closes_close name ending

end Life

theorem exists_life_iff {steps : List Step} {id : Nat} :
    (∃ name fields ending, Life steps id name fields ending) ↔ id < (Session.run [] steps).length := by
  constructor
  · rintro ⟨name, fields, ending, h⟩
    exact h.id_lt
  · intro h
    obtain ⟨before, name, fields, after, hsteps, hbefore⟩ := Session.exists_start (Nat.zero_le id) h
    exact ⟨name, fields, _, before, after, hsteps, hbefore, rfl⟩

/-- A step that is done to another scope logs nothing of this one, and changes nothing of what later steps log
of it. -/
theorem linesOf_step_of_ne {session : Session} {id : Nat} {s : Step} (hid : id < session.length)
    (h : s.scope session ≠ id) : linesOf id (session.log [s]) = [] ∧
      ∀ later, linesOf id ((session.step s).1.log later) = linesOf id (session.log later) := by
  have hnone : s.ending? id = none := by
    cases he : s.ending? id with
    | none => rfl
    | some ending => exact absurd (Session.step_of_ending he).1 h
  refine ⟨?_, fun later => ?_⟩
  · rw [Session.linesOf_log_cons, if_neg h]
    rfl
  · rw [Session.linesOf_log (Nat.lt_of_lt_of_le hid Session.length_le_step), Session.linesOf_log hid, Session.open?,
      Session.getElem?_step hid hnone, ← Session.open?]

/-- In any run of steps the scopes that were opened are those of the session, and nothing is logged of others.
The lines of a scope are its beginning and, once it has ended, one line that tells how; it is held in between
and then not completed. A step done to another scope neither adds to the lines of this one nor changes what
is logged of it from then on. -/
theorem linesOf_scope (steps : List Step) (id : Nat) :
    ((∃ name fields ending, Life steps id name fields ending) ↔ id < (Session.run [] steps).length) ∧
    ((Session.run [] steps).length ≤ id → linesOf id (Session.log [] steps) = []) ∧
    ∀ name fields ending, Life steps id name fields ending →
      (∃ closing, linesOf id (Session.log [] steps) = ⟨.info, name ++ "_BEGIN", fields, false⟩ :: closing ∧
        Closes name ending closing) ∧
      ((Session.run [] steps).open? id = none ↔ ending.isSome) ∧
      ((Session.run [] steps).step (.isCompleted id)).2.1 = (if ending.isSome then .closed else .completed false) ∧
      ∀ s, s.scope (Session.run [] steps) ≠ id →
        linesOf id (Session.log [] (steps ++ [s])) = linesOf id (Session.log [] steps) ∧
        ∀ later, linesOf id (((Session.run [] steps).step s).1.log later) =
          linesOf id ((Session.run [] steps).log later) := by
  refine ⟨exists_life_iff, Session.linesOf_log_of_le, fun name fields ending h => ?_⟩
  refine ⟨h.linesOf_log, ?_, ?_, fun s hs => ?_⟩
  · rw [h.open?_run]
    cases ending <;> simp
  · rw [Session.step, h.open?_run]
    cases ending <;> rfl
  · obtain ⟨hsilent, hlater⟩ := linesOf_step_of_ne h.id_lt hs
    refine ⟨?_, hlater⟩
    rw [Session.log_append, linesOf_append, hsilent, List.append_nil]

/-- Two scopes of one name, ended in the order in which they were not opened, and a third that is still held.
What is done to the second scope after its end does nothing. -/
theorem linesOf_scope_interleaved :
    let steps : List Step := [.start "A" [("k", "v")], .start "A" [], .fail 1 "E" "r", .drop 1,
      .complete 0 [("n", "2")], .start "B" []]
    (∃ closing, linesOf 0 (Session.log [] steps) = ⟨.info, "A_BEGIN", [("k", "v")], false⟩ :: closing ∧
        Closes "A" (some (.complete [("n", "2")])) closing) ∧
      (∃ closing, linesOf 1 (Session.log [] steps) = ⟨.info, "A_BEGIN", [], false⟩ :: closing ∧
        Closes "A" (some (.fail "E" "r")) closing) ∧
      ((Session.run [] steps).step (.isCompleted 2)).2.1 = .completed false ∧
      linesOf 2 (Session.log [] (steps ++ [.drop 0])) = linesOf 2 (Session.log [] steps) ∧
      linesOf 3 (Session.log [] steps) = [] := by
  intro steps
  have hfirst : Life steps 0 "A" [("k", "v")] (some (.complete [("n", "2")])) :=
    ⟨[], steps.drop 1, rfl, rfl, rfl⟩
  have hsecond : Life steps 1 "A" [] (some (.fail "E" "r")) := ⟨steps.take 1, steps.drop 2, rfl, rfl, rfl⟩
  have hthird : Life steps 2 "B" [] none := ⟨steps.take 5, [], rfl, rfl, rfl⟩
  obtain ⟨-, -, hheld, hother⟩ := (linesOf_scope steps 2).2.2 _ _ _ hthird
  exact ⟨((linesOf_scope steps 0).2.2 _ _ _ hfirst).1, ((linesOf_scope steps 1).2.2 _ _ _ hsecond).1, hheld,
    (hother (.drop 0) nofun).1, (linesOf_scope steps 3).2.1 (Nat.le_refl 3)⟩

end ColumnSelect.Log
