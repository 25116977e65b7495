import LogQuery.Proofs.Store.Answers

namespace LogQuery

/-! ## Work as a process

A process says what work does next: it ends, waits, or issues a statement and goes on with the
answer. Unlike work, it can be run up to some time and then be left where it is. -/

inductive Process (α : Type) where
  | ends (result : Except ServiceError α)
  | waits (time : Nat) (next : Process α)
  | asks (sql : String) (next : Except StoreError RowStream → Process α)

namespace Session

/-- The answer that the store has for the next statement, and the time that it takes. -/
def nextReply (session : Session) : Reply :=
  session.replies.headD ⟨0, .error session.exhausted⟩

def issue (session : Session) (sql : String) : Session :=
  { session with
    issued := session.issued ++ [⟨session.clock, sql⟩]
    replies := session.replies.tail }

def atTime (session : Session) (time : Nat) : Session :=
  { session with clock := time }

end Session

namespace Process

/-- Runs a process to its end. -/
def execute : Process α → Session → Except ServiceError α × Session
  | .ends result, session => (result, session)
  | .waits time next, session => next.execute (session.wait time)
  | .asks sql next, session =>
      (next session.nextReply.outcome).execute
        ((session.issue sql).wait session.nextReply.wait)

/-- Runs a process up to some time, and gives what is left of it. -/
def runUntil (last : Nat) : Process α → Session → Process α × Session
  | .ends result, session => (.ends result, session)
  | .waits time next, session =>
      if last < session.clock + time then
        (.waits (session.clock + time - last) next, session.atTime last)
      else next.runUntil last (session.wait time)
  | .asks sql next, session =>
      if last < session.clock + session.nextReply.wait then
        (.waits (session.clock + session.nextReply.wait - last) (next session.nextReply.outcome),
          (session.issue sql).atTime last)
      else
        (next session.nextReply.outcome).runUntil last
          ((session.issue sql).wait session.nextReply.wait)

def bind (next : α → Process β) : Process α → Process β
  | .ends (.ok value) => next value
  | .ends (.error error) => .ends (.error error)
  | .waits time rest => .waits time (rest.bind next)
  | .asks sql rest => .asks sql fun answer => (rest answer).bind next

/-- The process does what the work does, whatever the store answers. -/
def Runs (process : Process α) (work : Work α) : Prop :=
  ∀ session, work.execute session = process.execute session

/-! ## Runs

A run only adds statements, none of them earlier than its beginning, and takes a reply for
each. -/

structure Adds (before after : Session) (added : List Statement) : Prop where
  clock : before.clock ≤ after.clock
  issued : after.issued = before.issued ++ added
  notBefore : ∀ statement ∈ added, before.clock ≤ statement.time
  notAfter : ∀ statement ∈ added, statement.time ≤ after.clock

theorem Adds.waited {before after : Session} {added : List Statement} {time : Nat}
    (adds : Adds (before.wait time) after added) : Adds before after added where
  clock := Nat.le_trans (Nat.le_add_right _ _) adds.clock
  issued := adds.issued
  notBefore statement member :=
    Nat.le_trans (Nat.le_add_right _ _) (adds.notBefore statement member)
  notAfter := adds.notAfter

theorem Adds.issuedFirst {before after : Session} {added : List Statement} {sql : String}
    (adds : Adds (before.issue sql) after added) :
    Adds before after (⟨before.clock, sql⟩ :: added) where
  clock := adds.clock
  issued := by
    rw [adds.issued, Session.issue, List.append_assoc, List.singleton_append]
  notBefore := List.forall_mem_cons.mpr ⟨Nat.le_refl _, adds.notBefore⟩
  notAfter := List.forall_mem_cons.mpr ⟨adds.clock, adds.notAfter⟩

theorem adds_execute (process : Process α) (session : Session) :
    ∃ added, Adds session (process.execute session).2 added := by
  induction process generalizing session with
  | ends result =>
      exact ⟨[], Nat.le_refl _, (List.append_nil _).symm, List.forall_mem_nil _,
        List.forall_mem_nil _⟩
  | waits time next induction =>
      rcases induction (session.wait time) with ⟨added, adds⟩
      exact ⟨added, adds.waited⟩
  | asks sql next induction =>
      rcases induction session.nextReply.outcome
        ((session.issue sql).wait session.nextReply.wait) with ⟨added, adds⟩
      exact ⟨_, adds.waited.issuedFirst⟩

/-! ### Runs that are broken off -/

theorem stoppedAt_of_adds {before after : Session} {added : List Statement}
    (adds : Adds before after added) (time : Nat) :
    before.stoppedAt after time =
      { before with
        clock := time
        issued := before.issued ++ added.filter (·.time ≤ time)
        replies := before.replies.drop (added.filter (·.time ≤ time)).length } := by
  rw [Session.stoppedAt, adds.issued, List.drop_left]

theorem filter_of_later {added : List Statement} {time start : Nat} (later : time < start)
    (notBefore : ∀ statement ∈ added, start ≤ statement.time) :
    added.filter (·.time ≤ time) = [] := by
  rw [List.filter_eq_nil_iff]
  intro statement member inTime
  have early := of_decide_eq_true inTime
  have late := notBefore statement member
  omega

/-- A run that is broken off before its end has issued exactly the statements of the whole run
that were due by then. -/
theorem runUntil_eq_stoppedAt (process : Process α) {session : Session} {last : Nat}
    (started : session.clock ≤ last) (early : last < (process.execute session).2.clock) :
    (process.runUntil last session).2 = session.stoppedAt (process.execute session).2 last := by
  induction process generalizing session with
  | ends result =>
      have early : last < session.clock := early
      omega
  | waits time next induction =>
      rcases adds_execute next (session.wait time) with ⟨added, adds⟩
      change _ = session.stoppedAt (next.execute (session.wait time)).2 last
      rw [runUntil]
      split
      · next within =>
          rw [stoppedAt_of_adds adds.waited, filter_of_later within adds.notBefore,
            List.append_nil]
          rfl
      · next past => exact induction (Nat.le_of_not_lt past) early
  | asks sql next induction =>
      rcases adds_execute (next session.nextReply.outcome)
        ((session.issue sql).wait session.nextReply.wait) with ⟨added, adds⟩
      change _ = session.stoppedAt ((next session.nextReply.outcome).execute
        ((session.issue sql).wait session.nextReply.wait)).2 last
      have kept : (⟨session.clock, sql⟩ :: added).filter (·.time ≤ last) =
          ⟨session.clock, sql⟩ :: added.filter (·.time ≤ last) :=
        List.filter_cons_of_pos (decide_eq_true started)
      rw [stoppedAt_of_adds adds.waited.issuedFirst, kept, List.length_cons, ← List.drop_tail,
        List.append_cons, runUntil]
      split
      · next within =>
          rw [filter_of_later within adds.notBefore, List.append_nil]
          rfl
      · next past =>
          rw [induction _ (Nat.le_of_not_lt past) early, stoppedAt_of_adds adds]
          rfl

/-- What is left of a process goes on as if the run had not been broken off. -/
theorem execute_runUntil (process : Process α) {session : Session} {last : Nat}
    (started : session.clock ≤ last) :
    (process.runUntil last session).1.execute (process.runUntil last session).2 =
      process.execute session := by
  have resumed (session : Session) (time : Nat) (started : session.clock ≤ last)
      (within : last < session.clock + time) :
      (session.atTime last).wait (session.clock + time - last) = session.wait time := by
    have same : last + (session.clock + time - last) = session.clock + time := by omega
    rw [Session.wait, Session.atTime, Session.wait, same]
  induction process generalizing session with
  | ends result => rfl
  | waits time next induction =>
      rw [runUntil]
      split
      · next within =>
          rw [execute, execute, resumed session time started within]
      · next past => exact induction (Nat.le_of_not_lt past)
  | asks sql next induction =>
      rw [runUntil]
      split
      · next within =>
          rw [execute, execute]
          exact congrArg _ (resumed (session.issue sql) _ started within)
      · next past => exact induction _ (Nat.le_of_not_lt past)

/-! ## Work that is a process -/

theorem execute_bind (next : α → Process β) (process : Process α) (session : Session) :
    (process.bind next).execute session =
      match process.execute session with
      | (.ok value, after) => (next value).execute after
      | (.error error, after) => (.error error, after) := by
  induction process generalizing session with
  | ends result => cases result <;> rfl
  | waits time rest induction => exact induction _
  | asks sql rest induction => exact induction _ _

theorem Runs.bind {work : Work α} {next : α → Work β} {process : Process α}
    {later : α → Process β} (runs : process.Runs work)
    (runsLater : ∀ value, (later value).Runs (next value)) :
    (process.bind later).Runs (work >>= next) := by
  intro session
  rw [Work.execute_bind, execute_bind, runs session]
  rcases process.execute session with ⟨error | value, after⟩
  · rfl
  · exact runsLater value after

end Process

namespace Work

def IsProcess (work : Work α) : Prop :=
  ∃ process : Process α, process.Runs work

theorem IsProcess.bind {work : Work α} {next : α → Work β} (first : work.IsProcess)
    (rest : ∀ value, (next value).IsProcess) : (work >>= next).IsProcess := by
  rcases first with ⟨process, runs⟩
  exact ⟨process.bind fun value => (rest value).choose,
    runs.bind fun value => (rest value).choose_spec⟩

theorem isProcess_ofExcept (outcome : Except ServiceError α) : (ofExcept outcome).IsProcess :=
  ⟨.ends outcome, fun session => execute_ofExcept outcome session⟩

theorem isProcess_pure (value : α) : (pure value : Work α).IsProcess :=
  isProcess_ofExcept (.ok value)

theorem isProcess_throw (error : ServiceError) : (throw error : Work α).IsProcess :=
  isProcess_ofExcept (.error error)

theorem isProcess_waitFor (time : Nat) : (waitFor time).IsProcess :=
  ⟨.waits time (.ends (.ok ())), fun _ => rfl⟩

theorem execute_query_eq (sql : String) (session : Session) :
    (query sql).execute session =
      (session.nextReply.outcome.mapError .store,
        (session.issue sql).wait session.nextReply.wait) := by
  rcases session with ⟨clock, issued, replies, exhausted⟩
  cases replies with
  | nil => rfl
  | cons reply replies =>
      rcases reply with ⟨wait, outcome⟩
      cases outcome with
      | ok stream => rfl
      | error error => rfl

theorem isProcess_query (sql : String) : (query sql).IsProcess :=
  ⟨.asks sql fun answer => .ends (answer.mapError .store), execute_query_eq sql⟩

theorem isProcess_foldSteps (step : α → Row → Except ServiceError α) (endWait : Nat)
    (state : α) (steps : List RowStep) : (foldSteps step endWait state steps).IsProcess := by
  induction steps generalizing state with
  | nil =>
      rw [foldSteps]
      exact (isProcess_waitFor endWait).bind fun _ => isProcess_pure state
  | cons next steps induction =>
      rw [foldSteps]
      apply (isProcess_waitFor next.wait).bind
      intro _
      cases next.row with
      | error error => exact isProcess_throw _
      | ok row => exact (isProcess_ofExcept _).bind fun state => induction state

theorem isProcess_foldRows (stream : RowStream) (step : α → Row → Except ServiceError α)
    (state : α) : (foldRows stream step state).IsProcess :=
  isProcess_foldSteps step stream.endWait state stream.steps

end Work

end LogQuery
