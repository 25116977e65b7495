import LogQuery.Proofs.Outcome
import LogQuery.Proofs.Store.Issued

namespace LogQuery

/-! ## What a store answers

The answer to each statement of a run is read off the replies by its place alone, so what a
run gets can be said without following its clock. -/

namespace Session

/-- The answer to a statement before which `position` others are issued. -/
def answer (session : Session) (position : Nat) : Except ServiceError RowStream :=
  match session.replies[position]? with
  | none => .error (.store session.exhausted)
  | some reply => reply.outcome.mapError .store

theorem wait_wait (session : Session) (first second : Nat) :
    (session.wait first).wait second = session.wait (first + second) := by
  rw [wait, wait, wait, Nat.add_assoc]

/-- What is left once one statement was issued and answered. -/
structure IssuedOnce (sql : String) (before after : Session) : Prop where
  statements : after.statements = before.statements ++ [sql]
  answer : ∀ position, after.answer position = before.answer (position + 1)

end Session

/-! A row is had and then read, and either can fail. -/

def RowStep.value (read : Row → Except ServiceError α) (next : RowStep) :
    Except ServiceError α :=
  next.row.mapError .store >>= read

def RowStream.values (stream : RowStream) (read : Row → Except ServiceError α) :
    Except ServiceError (List α) :=
  stream.steps.mapM (RowStep.value read)

/-- A result is had as a whole if each of its rows is. -/
theorem RowStream.values_ok_eq_ok_iff {stream : RowStream} {rows : List Row} :
    stream.values .ok = .ok rows ↔ stream.steps.map RowStep.row = rows.map .ok := by
  have each (step : RowStep) (row : Row) : step.value .ok = .ok row ↔ step.row = .ok row := by
    simp [RowStep.value, bind_eq_ok_iff, mapError_eq_ok_iff]
  rw [RowStream.values, mapM_eq_ok_iff, ← List.forall₂_eq_eq_eq, List.forall₂_map_left_iff,
    List.forall₂_map_right_iff]
  simp only [each]

/-- The statement is refused, or its result has a row that fails after others that do not. -/
inductive Session.FailsAt (session : Session) (position : Nat)
    (read : Row → Except ServiceError α) (error : ServiceError) : Prop where
  | statement (refused : session.answer position = .error error)
  | row (stream : RowStream) (front back : List RowStep) (next : RowStep)
      (answered : session.answer position = .ok stream)
      (steps : stream.steps = front ++ next :: back)
      (earlier : ∀ step ∈ front, ∃ value, step.value read = .ok value)
      (failed : next.value read = .error error)

theorem mapM_value_eq_error {read : Row → Except ServiceError α} {front : List RowStep}
    (earlier : ∀ step ∈ front, ∃ value, step.value read = .ok value) {next : RowStep}
    {error : ServiceError} (failed : next.value read = .error error) (back : List RowStep) :
    (front ++ next :: back).mapM (RowStep.value read) = .error error := by
  induction front with
  | nil =>
      rw [List.nil_append, List.mapM_cons, failed]
      rfl
  | cons step front induction =>
      rcases List.forall_mem_cons.mp earlier with ⟨⟨value, first⟩, rest⟩
      rw [List.cons_append, List.mapM_cons, first, induction rest]
      rfl

/-- Whatever was to be made of all rows, one that fails leaves only its error. -/
theorem Session.FailsAt.bind_eq {session : Session} {position : Nat}
    {read : Row → Except ServiceError α} {error : ServiceError}
    (fails : session.FailsAt position read error) (make : RowStream → List α → β) :
    (session.answer position >>= fun stream => (stream.values read).map (make stream)) =
      .error error := by
  cases fails with
  | statement refused =>
      rw [refused]
      rfl
  | row stream front back next answered steps earlier failed =>
      rw [answered]
      change (stream.values read).map (make stream) = _
      rw [RowStream.values, steps, mapM_value_eq_error earlier failed]
      rfl

namespace Work

theorem execute_query (sql : String) (session : Session) :
    ∃ after, (query sql).execute session = (session.answer 0, after) ∧
      Session.IssuedOnce sql session after := by
  have issued := statements_query sql session
  rcases session with ⟨clock, earlier, replies, exhausted⟩
  cases replies with
  | nil => exact ⟨_, rfl, issued, fun _ => rfl⟩
  | cons reply replies =>
      rcases reply with ⟨wait, outcome⟩
      cases outcome with
      | error error => exact ⟨_, rfl, issued, fun _ => rfl⟩
      | ok stream => exact ⟨_, rfl, issued, fun _ => rfl⟩

theorem execute_ofExcept (outcome : Except ServiceError α) (session : Session) :
    (ofExcept outcome).execute session = (outcome, session) := by
  cases outcome <;> rfl

/-- How long it takes to read: up to the row that fails, or else to the end. -/
def stepsTime (read : Row → Except ServiceError α) (endWait : Nat) : List RowStep → Nat
  | [] => endWait
  | next :: rest =>
      match next.value read with
      | .ok _ => next.wait + stepsTime read endWait rest
      | .error _ => next.wait

/-- Reading rows only waits. It stops at the first row that fails, and what was made of the
rows before is lost. -/
theorem execute_foldSteps {step : β → Row → Except ServiceError β}
    {read : Row → Except ServiceError α} {combine : β → α → β}
    (reads : ∀ state row, step state row = (read row).map (combine state)) (endWait : Nat)
    (state : β) (steps : List RowStep) (session : Session) :
    (foldSteps step endWait state steps).execute session =
      ((steps.mapM (RowStep.value read)).map (List.foldl combine state),
        session.wait (stepsTime read endWait steps)) := by
  induction steps generalizing state session with
  | nil => rfl
  | cons next steps induction =>
      rcases next with ⟨wait, error | row⟩
      · rfl
      · rw [foldSteps, execute_bind, List.mapM_cons, stepsTime]
        change (ofExcept (step state row) >>= fun state =>
          foldSteps step endWait state steps).execute (session.wait wait) = _
        rw [execute_bind, execute_ofExcept, reads]
        have value : RowStep.value read ⟨wait, .ok row⟩ = read row := rfl
        rw [value]
        rcases found : read row with error | value
        · rfl
        · change (foldSteps step endWait (combine state value) steps).execute _ = _
          rw [induction, Session.wait_wait]
          rcases steps.mapM _ with error | values <;> rfl

/-- The run issues one statement and returns what it makes of the answer, or the error that
kept it from that. -/
def AsksFor (sql : String) (work : Work α) (made : RowStream → Except ServiceError α) : Prop :=
  ∀ session, ∃ after, work.execute session = (session.answer 0 >>= made, after) ∧
    Session.IssuedOnce sql session after

theorem asksFor_foldRows (read : Row → Except ServiceError α) (combine : RowStream → β → α → β)
    {step : RowStream → β → Row → Except ServiceError β}
    (reads : ∀ stream state row, step stream state row = (read row).map (combine stream state))
    {state : β} {finish : RowStream → β → γ} {make : RowStream → List α → γ}
    (makes : ∀ stream values,
      finish stream (values.foldl (combine stream) state) = make stream values) (sql : String) :
    AsksFor sql
      (do
        let stream ← query sql
        let final ← foldRows stream (step stream) state
        pure (finish stream final))
      fun stream => (stream.values read).map (make stream) := by
  intro session
  rcases execute_query sql session with ⟨after, asked, once⟩
  rw [execute_bind, asked]
  rcases session.answer 0 with error | stream
  · exact ⟨after, rfl, once⟩
  · have ran := execute_foldSteps (reads stream) stream.endWait state stream.steps after
    generalize stepsTime read stream.endWait stream.steps = time at ran
    refine ⟨after.wait time, ?_, once.statements, once.answer⟩
    dsimp only
    rw [foldRows, execute_bind, ran]
    change _ = ((stream.values read).map _, _)
    rw [← RowStream.values]
    rcases stream.values read with error | values
    · rfl
    · exact congrArg (fun made => (Except.ok made, after.wait time)) (makes stream values)

end Work

end LogQuery
