import LogQuery.Error

namespace LogQuery

/-! A store answers one statement after another. Its behaviour is given as the
list of its replies and of the times, in milliseconds, that pass before each
step; with the replies used up, every statement fails in one and the same way.
Time passes only while a step is waited for. -/

abbrev Row := List Cell

/-- A step of reading a result: a row or an error, after a wait. -/
structure RowStep where
  wait : Nat
  row : Except StoreError Row

structure RowStream where
  columns : List String
  steps : List RowStep
  endWait : Nat

structure Reply where
  wait : Nat
  outcome : Except StoreError RowStream

/-- A statement and the time at which it was issued. -/
structure Statement where
  time : Nat
  sql : String
  deriving DecidableEq, Repr

/-- The clock counts milliseconds since the Unix epoch. -/
structure Session where
  clock : Nat
  issued : List Statement
  replies : List Reply
  exhausted : StoreError

namespace Session

def start (replies : List Reply) (exhausted : StoreError := .closed) : Session :=
  ⟨0, [], replies, exhausted⟩

def seconds (session : Session) : Int :=
  (session.clock / 1000 : Nat)

def wait (session : Session) (time : Nat) : Session :=
  { session with clock := session.clock + time }

def statements (session : Session) : List String :=
  session.issued.map Statement.sql

/-- The session as it stands when whatever runs is stopped at `time`: the
statements issued after it were never issued, and their replies are kept. -/
def stoppedAt (before after : Session) (time : Nat) : Session where
  clock := time
  exhausted := before.exhausted
  issued := before.issued ++
    (after.issued.drop before.issued.length).filter (·.time ≤ time)
  replies := before.replies.drop
    ((after.issued.drop before.issued.length).filter (·.time ≤ time)).length

end Session

/-! Work is a run of statements that ends in a value or an error. An error ends
it at once. -/

abbrev Work (α : Type) := ExceptT ServiceError (StateM Session) α

namespace Work

def execute (work : Work α) (session : Session) : Except ServiceError α × Session :=
  StateT.run (ExceptT.run work) session

def ofExcept : Except ServiceError α → Work α
  | .ok value => pure value
  | .error error => throw error

def waitFor (time : Nat) : Work Unit :=
  modify fun session => session.wait time

/-- Takes the next reply for a statement, and waits for it. -/
def query (sql : String) : Work RowStream := do
  let session ← get
  let issued := session.issued ++ [⟨session.clock, sql⟩]
  match session.replies with
  | [] =>
      set { session with issued }
      throw (.store session.exhausted)
  | reply :: replies =>
      set { session with issued, replies }
      waitFor reply.wait
      match reply.outcome with
      | .ok stream => pure stream
      | .error error => throw (.store error)

def foldSteps (step : α → Row → Except ServiceError α) (endWait : Nat) :
    α → List RowStep → Work α
  | state, [] => do
      waitFor endWait
      pure state
  | state, next :: rest => do
      waitFor next.wait
      match next.row with
      | .error error => throw (.store error)
      | .ok row =>
          let state ← ofExcept (step state row)
          foldSteps step endWait state rest

/-- Reads a result row by row until it ends, fails, or a row is refused. -/
def foldRows (stream : RowStream) (step : α → Row → Except ServiceError α)
    (state : α) : Work α :=
  foldSteps step stream.endWait state stream.steps

def rows (stream : RowStream) : Work (List Row) := do
  let reversed ← foldRows stream (fun rows row => .ok (row :: rows)) []
  pure reversed.reverse

end Work

/-- The cell of a row at a position, under the name that its column has. -/
def cellAt (row : Row) (position : Nat) (column : String) : Except ServiceError Cell :=
  match row[position]? with
  | some cell => .ok cell
  | none => .error (.store (.response (.missingCell column position)))

/-! Pieces of the statements. -/

def unixTime (seconds : Int) : String :=
  "FROM_UNIXTIME(" ++ toString seconds ++ ")"

def settingsClause : String :=
  "SETTINGS skip_unavailable_shards = 1"

end LogQuery
