import LogQuery.Schema
import LogQuery.Store.Session

namespace LogQuery

/-! The keys that dynamic fields have are read from the rows of the last hour,
one statement for each kind of field. -/

/-- How far back keys are looked for, in seconds. -/
def keysWindow : Int := 3600

def keysStatement (schema : Schema) (kind : FieldKind) (now : Int) : String :=
  "SELECT DISTINCT arrayJoin(mapKeys(" ++ kind.mapColumn ++ ")) FROM " ++
    schema.table ++ " WHERE timestamp >= " ++ unixTime (now - keysWindow) ++
    " AND timestamp <= " ++ unixTime now ++ " " ++ settingsClause

/-- The text cells at the first position. Other cells are no keys, but every row
must have one. -/
def keysOfRows (rows : List Row) : Except ServiceError (List String) := do
  let cells ← rows.mapM fun row => cellAt row 0 "key"
  .ok (cells.filterMap Cell.text?)

def fetchKeys (schema : Schema) (kind : FieldKind) : Work (List String) := do
  let session ← get
  let stream ← Work.query (keysStatement schema kind session.seconds)
  let rows ← Work.rows stream
  Work.ofExcept (keysOfRows rows)

/-! The cache of known keys stands beside the session that it is filled from. -/

structure FieldCache where
  session : Session
  snapshot : FieldSnapshot

namespace FieldCache

def clock (cache : FieldCache) : Nat :=
  cache.session.clock

def atTime (cache : FieldCache) (time : Nat) : FieldCache :=
  { cache with session := { cache.session with clock := time } }

def merge (cache : FieldCache) (strings numbers : List String) : FieldCache :=
  { cache with snapshot := cache.snapshot.merge strings numbers }

end FieldCache

/-! A fetch issues its statement at once and has its result later. A refresh has
a minute for both fetches; what is not there by then is given up. -/

/-- The time allowed for a refresh, in milliseconds. -/
def refreshLimit : Nat := 60000

structure PendingKeys where
  doneAt : Nat
  result : Except ServiceError (List String)

def PendingKeys.resultBy (pending : PendingKeys) (deadline : Nat) :
    Except ServiceError (List String) :=
  if deadline < pending.doneAt then .error .refreshTimeout else pending.result

def FieldCache.beginFetch (cache : FieldCache) (schema : Schema) (kind : FieldKind) :
    PendingKeys × FieldCache :=
  let (result, session) := (fetchKeys schema kind).execute cache.session
  (⟨session.clock, result⟩, { cache with session }.atTime cache.clock)

theorem FieldCache.beginFetch_clock (cache : FieldCache) (schema : Schema)
    (kind : FieldKind) : (cache.beginFetch schema kind).2.clock = cache.clock :=
  rfl

/-! A refresh that runs beside other activities is looked at from time to time.
The text keys come first, and the keys of both kinds are merged together, at the
end. -/

inductive Refresh where
  | awaitingStrings (deadline : Nat) (pending : PendingKeys)
  | awaitingNumbers (deadline : Nat) (strings : List String) (pending : PendingKeys)
  | ended (result : Except ServiceError Unit)

namespace Refresh

/-- When there is something to do next. -/
def nextEvent? : Refresh → Option Nat
  | .awaitingStrings deadline pending => some (min deadline pending.doneAt)
  | .awaitingNumbers deadline _ pending => some (min deadline pending.doneAt)
  | .ended _ => none

def advanceNumbers (deadline : Nat) (strings : List String) (pending : PendingKeys)
    (cache : FieldCache) : Refresh × FieldCache :=
  if cache.clock < min deadline pending.doneAt then
    (.awaitingNumbers deadline strings pending, cache)
  else
    match pending.resultBy deadline with
    | .error error => (.ended (.error error), cache)
    | .ok numbers => (.ended (.ok ()), cache.merge strings numbers)

def advance (schema : Schema) : Refresh → FieldCache → Refresh × FieldCache
  | .awaitingStrings deadline pending, cache =>
      if cache.clock < min deadline pending.doneAt then
        (.awaitingStrings deadline pending, cache)
      else
        match pending.resultBy deadline with
        | .error error => (.ended (.error error), cache)
        | .ok strings =>
            let (pending, cache) := cache.beginFetch schema .number
            advanceNumbers deadline strings pending cache
  | .awaitingNumbers deadline strings pending, cache =>
      advanceNumbers deadline strings pending cache
  | .ended result, cache => (.ended result, cache)

def start (schema : Schema) (cache : FieldCache) : Refresh × FieldCache :=
  let (pending, next) := cache.beginFetch schema .string
  advance schema (.awaitingStrings (cache.clock + refreshLimit) pending) next

end Refresh

end LogQuery
