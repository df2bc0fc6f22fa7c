/-
Scopes: pieces of work whose beginning and end are logged. A scope is completed, or fails, or is let go
with its end untold. Every way of ending drops it; dropping logs it as incomplete, unless its end was told
before. A session holds any number of scopes under numbers from 0, in the order in which they were opened.
-/
import ColumnSelect.Log.Record

namespace ColumnSelect.Log

/-- A scope that is held: its name, and whether its end has been told. -/
structure Scope where
  name : String
  told : Bool
deriving DecidableEq, Repr

/-- How a scope ends. -/
inductive Ending where
  | complete (fields : List Field)
  | fail (code reason : String)
  | drop
deriving DecidableEq, Repr

namespace Scope

/-! ## Records -/

/-- The record of the beginning of a scope. -/
def begun (name : String) (fields : List Field) : Record :=
  .of .info (name ++ "_BEGIN") fields

/-- The record of a scope that is completed, with the time it took. -/
def completed (name : String) (fields : List Field) : Record :=
  ⟨.info, name ++ "_COMPLETE", fields, true⟩

/-- The record of a scope that failed. -/
def failed (name code reason : String) : Record :=
  .of .warn (name ++ "_FAILED") [("code", code), ("reason", reason)]

/-- The record of a scope that is dropped without an end. -/
def incomplete (name : String) : Record :=
  .of .warn (name ++ "_INCOMPLETE") [("reason", "scope dropped without completion")]

/-! ## From the beginning to the end -/

/-- A scope that begins. -/
def fresh (name : String) : Scope := ⟨name, false⟩

/-- The scope on its way to an end, and what is logged of it before the scope is dropped. -/
def tell (scope : Scope) : Ending → Scope × List Record
  | .complete fields => ({ scope with told := true }, [completed scope.name fields])
  | .fail code reason => ({ scope with told := true }, [failed scope.name code reason])
  | .drop => (scope, [])

/-- What is logged when a scope is dropped. -/
def dropped (scope : Scope) : List Record :=
  if scope.told then [] else [incomplete scope.name]

/-- All that is logged when a scope ends. -/
def close (scope : Scope) (ending : Ending) : List Record :=
  let (last, log) := scope.tell ending
  log ++ last.dropped

/-- What is logged by a piece of work in a scope of its own, which ends when the work is done. -/
def around (name : String) (fields : List Field) (work : List Record) (ending : Ending) :
    List Record :=
  begun name fields :: work ++ (fresh name).close ending

end Scope

/-- The scopes opened so far: each that is held, `none` for each that was dropped. -/
abbrev Session := List (Option Scope)

/-- Something done with the scopes of a session. -/
inductive Step where
  | start (name : String) (fields : List Field)
  | complete (id : Nat) (fields : List Field)
  | fail (id : Nat) (code reason : String)
  | drop (id : Nat)
  | isCompleted (id : Nat)

/-- What a step answers. -/
inductive Answer where
  | started (id : Nat)
  | done
  | completed (value : Bool)
  /-- The scope has ended or was never opened. -/
  | closed
deriving DecidableEq

namespace Session

/-- A scope that is open. -/
def open? (session : Session) (id : Nat) : Option Scope := session[id]?.join

/-- The session with a scope ended, and what is logged of its end; nothing where it is not open. -/
def finish (session : Session) (id : Nat) (ending : Ending) : Session × Answer × List Record :=
  match session.open? id with
  | some scope => (session.set id none, .done, scope.close ending)
  | none => (session, .closed, [])

/-- The session after a step, what the step answers, and what it logs. -/
def step (session : Session) : Step → Session × Answer × List Record
  | .start name fields =>
    (session ++ [some (.fresh name)], .started session.length, [Scope.begun name fields])
  | .complete id fields => session.finish id (.complete fields)
  | .fail id code reason => session.finish id (.fail code reason)
  | .drop id => session.finish id .drop
  | .isCompleted id =>
    match session.open? id with
    | some scope => (session, .completed scope.told, [])
    | none => (session, .closed, [])

end Session

end ColumnSelect.Log
