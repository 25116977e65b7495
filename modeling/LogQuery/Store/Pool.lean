import LogQuery.Store.Client

namespace LogQuery

/-! A pool limits how many results are open at a time. A statement takes a permit
before it is sent. If it fails the permit is given back, and otherwise the open
result keeps it until it is let go, even after its last row. -/

structure ServerState where
  answers : List ServerAnswer
  received : List StatementRequest := []

structure Pool where
  client : StoreClient
  server : ServerState
  /-- The permits that are left, or none if there is no limit. -/
  free : Option Nat
  held : List (String × RowReader) := []

namespace Pool

def start (client : StoreClient) (answers : List ServerAnswer) : Pool where
  client := client
  server := { answers }
  free := if client.config.maxOpenConns = 0 then none else some client.config.maxOpenConns

def mustWait (pool : Pool) : Bool :=
  pool.free = some 0

def takePermit (pool : Pool) : Pool :=
  { pool with free := pool.free.map (· - 1) }

def givePermit (pool : Pool) : Pool :=
  { pool with free := pool.free.map (· + 1) }

/-- The answer to a statement. Without a server there is none. -/
def exchange (pool : Pool) (sql : String) : Except StoreError RowReader × Pool :=
  match pool.client.canSend, pool.server.answers with
  | true, answer :: answers =>
      let received := pool.server.received ++ [pool.client.request sql]
      (answer.result, { pool with server := { answers, received } })
  | _, _ => (.error .transport, pool)

/-- Opens a result, which holds a permit from then on. -/
def openResult (pool : Pool) (sql : String) : Except StoreError RowReader × Pool :=
  match pool.takePermit.exchange sql with
  | (.ok reader, pool) => (.ok reader, pool)
  | (.error error, pool) => (.error error, pool.givePermit)

inductive CallResult (α : Type) where
  | blocked
  | failed (error : StoreError)
  | done (value : α)

/-- Opens a result, uses it and lets it go. -/
def withResult (pool : Pool) (sql : String) (use : RowReader → Except StoreError α) :
    CallResult α × Pool :=
  if pool.mustWait then (.blocked, pool)
  else
    match pool.openResult sql with
    | (.error error, pool) => (.failed error, pool)
    | (.ok reader, pool) =>
        match use reader with
        | .ok value => (.done value, pool.givePermit)
        | .error error => (.failed error, pool.givePermit)

structure DrainedRows where
  columns : List String
  rows : List (Except StoreError Row)

def query (pool : Pool) (sql : String) : CallResult DrainedRows × Pool :=
  pool.withResult sql fun reader => .ok ⟨reader.columns, reader.drain.1⟩

def version (pool : Pool) : CallResult String × Pool :=
  pool.withResult versionStatement RowReader.version

def find? (pool : Pool) (slot : String) : Option RowReader :=
  (pool.held.find? (·.1 = slot)).map Prod.snd

/-- Lets go of the result in a slot, and tells whether there was one. -/
def close (pool : Pool) (slot : String) : Bool × Pool :=
  if (pool.find? slot).isSome then
    (true, { pool with held := pool.held.eraseP (·.1 = slot) }.givePermit)
  else (false, pool)

def put (pool : Pool) (slot : String) (reader : RowReader) : Pool :=
  { pool with held := (slot, reader) :: pool.held }

/-- Keeps the result open in a slot. The one that was there is let go afterwards. -/
def openSlot (pool : Pool) (sql slot : String) : CallResult (List String) × Pool :=
  if pool.mustWait then (.blocked, pool)
  else
    match pool.openResult sql with
    | (.error error, pool) => (.failed error, pool)
    | (.ok reader, pool) =>
        (.done reader.columns, (pool.close slot).2.put slot reader)

/-- Puts a result that was read further back into its slot. -/
def replace (pool : Pool) (slot : String) (reader : RowReader) : Pool :=
  { pool with held := pool.held.map fun entry =>
      if entry.1 = slot then (slot, reader) else entry }

/-- Reads what is left of the result in a slot, which keeps its permit. -/
def drainSlot (pool : Pool) (slot : String) : Option DrainedRows × Pool :=
  match pool.find? slot with
  | none => (none, pool)
  | some reader =>
      let (rows, rest) := reader.drain
      (some ⟨reader.columns, rows⟩, pool.replace slot rest)

/-- Reads one row of the result in a slot. At its end there is none. -/
def nextInSlot (pool : Pool) (slot : String) : Option (Option (Except StoreError Row)) × Pool :=
  match pool.find? slot with
  | none => (none, pool)
  | some reader =>
      let (row, rest) := reader.nextRow
      (some row, pool.replace slot rest)

end Pool

end LogQuery
