import LogQuery.Store.Session

namespace LogQuery.Work

/-! ## The statements of a run

A run only adds to the statements that were issued before it. What is known of each
statement on its own is known of all that a run adds, whatever the store answers. -/

def Issues (property : String → Prop) (work : Work α) : Prop :=
  ∀ session, ∃ added,
    (work.execute session).2.statements = session.statements ++ added ∧
      ∀ statement ∈ added, property statement

theorem execute_bind (work : Work α) (next : α → Work β) (session : Session) :
    (work >>= next).execute session =
      match work.execute session with
      | (.ok value, after) => (next value).execute after
      | (.error error, after) => (.error error, after) := by
  change (ExceptT.bindCont next (work.execute session).1).run (work.execute session).2 = _
  rcases work.execute session with ⟨outcome, after⟩
  cases outcome with
  | ok value => rfl
  | error error => rfl

theorem issues_of_statements_eq {property : String → Prop} {work : Work α}
    (silent : ∀ session, (work.execute session).2.statements = session.statements) :
    Issues property work := by
  intro session
  refine ⟨[], ?_, ?_⟩
  · rw [silent, List.append_nil]
  · intro statement member
    contradiction

variable {property : String → Prop}

theorem issues_pure (value : α) : Issues property (pure value : Work α) :=
  issues_of_statements_eq fun _ => rfl

theorem issues_throw (error : ServiceError) : Issues property (throw error : Work α) :=
  issues_of_statements_eq fun _ => rfl

theorem issues_waitFor (time : Nat) : Issues property (waitFor time) :=
  issues_of_statements_eq fun _ => rfl

theorem issues_ofExcept (outcome : Except ServiceError α) :
    Issues property (ofExcept outcome) := by
  cases outcome with
  | ok value => exact issues_pure value
  | error error => exact issues_throw error

theorem Issues.bind {work : Work α} {next : α → Work β} (first : Issues property work)
    (rest : ∀ value, Issues property (next value)) : Issues property (work >>= next) := by
  intro session
  rcases first session with ⟨added, front, holds⟩
  rw [execute_bind]
  rcases ran : work.execute session with ⟨outcome, after⟩
  rw [ran] at front
  cases outcome with
  | error error => exact ⟨added, front, holds⟩
  | ok value =>
      rcases rest value after with ⟨later, back, holdsLater⟩
      refine ⟨added ++ later, ?_, ?_⟩
      · dsimp only at front ⊢
        rw [back, front, List.append_assoc]
      · exact List.forall_mem_append.mpr ⟨holds, holdsLater⟩

/-- What a value was read from is known to all that is done with it. -/
theorem issues_ofExcept_bind {outcome : Except ServiceError α} {next : α → Work β}
    (rest : ∀ value, outcome = .ok value → Issues property (next value)) :
    Issues property (ofExcept outcome >>= next) := by
  cases outcome with
  | ok value => exact rest value rfl
  | error error => exact issues_throw error

theorem statements_query (sql : String) (session : Session) :
    ((query sql).execute session).2.statements = session.statements ++ [sql] := by
  rcases session with ⟨clock, issued, replies, exhausted⟩
  have noted : (issued ++ [(⟨clock, sql⟩ : Statement)]).map Statement.sql =
      issued.map Statement.sql ++ [sql] := List.map_append
  cases replies with
  | nil => exact noted
  | cons reply replies =>
      rcases reply with ⟨wait, outcome⟩
      cases outcome with
      | ok stream => exact noted
      | error error => exact noted

theorem issues_query {sql : String} (holds : property sql) :
    Issues property (query sql) := by
  intro session
  refine ⟨[sql], statements_query sql session, ?_⟩
  intro statement member
  rw [List.mem_singleton] at member
  rw [member]
  exact holds

theorem issues_foldSteps (step : α → Row → Except ServiceError α) (endWait : Nat)
    (state : α) (steps : List RowStep) :
    Issues property (foldSteps step endWait state steps) := by
  induction steps generalizing state with
  | nil =>
      rw [foldSteps]
      exact (issues_waitFor endWait).bind fun _ => issues_pure state
  | cons next steps induction =>
      rw [foldSteps]
      apply (issues_waitFor next.wait).bind
      intro _
      cases next.row with
      | error error => exact issues_throw _
      | ok row => exact (issues_ofExcept _).bind fun state => induction state

theorem issues_foldRows (stream : RowStream) (step : α → Row → Except ServiceError α)
    (state : α) : Issues property (foldRows stream step state) :=
  issues_foldSteps step stream.endWait state stream.steps

end LogQuery.Work
