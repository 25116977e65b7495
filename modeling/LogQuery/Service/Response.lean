import LogQuery.Store.Session

namespace LogQuery

/-! An answer has a status and, where the request was understood, a document.
Newlines may come before the document; they mean nothing to a reader of it. -/

structure Response where
  status : Nat
  newlines : Nat := 0
  document : Option Json
  deriving Repr

namespace Response

/-- An answer to a request that is none of the service's business. -/
def refused (status : Nat) : Response :=
  { status, document := none }

def ofError (error : ServiceError) : Response :=
  { status := error.status, document := some error.body }

def ofResult (encode : α → Json) : Except ServiceError α → Response
  | .ok value => { status := 200, document := some (encode value) }
  | .error error => ofError error

/-- The document of an answer whose head was sent before there was a result. An error is written
as an object then, and its status is lost. -/
def payload (encode : α → Json) : Except ServiceError α → Json
  | .ok value => encode value
  | .error error => error.body

/-- The text that is sent after the head of the answer. -/
def text (response : Response) : String :=
  "".pushn '\n' response.newlines ++ (response.document.map Json.write).getD ""

end Response

/-! While work goes on for long, a newline is sent for every ten seconds of it, so
that nobody on the way takes the connection for dead. The first one commits the
answer to success, and a later failure shows in the document only. A client may go
away; if it does so while newlines are sent, the work is dropped at that time. -/

/-- The time between two newlines, in milliseconds. -/
def keepAlivePeriod : Nat := 10000

/-- How the writing of a slow answer ended: at which time and after how many
newlines, and whether the work was done. -/
structure StreamEnd where
  time : Nat
  newlines : Nat
  isDone : Bool
  deriving DecidableEq, Repr

/-- Writes newlines until the work is done or the client leaves. What comes at one
time is taken in the order newline, leave, work. -/
def writeStream (doneAt : Nat) (leavesAt? : Option Nat) (nextTick newlines : Nat) :
    StreamEnd :=
  let last := leavesAt?.elim doneAt (min doneAt)
  if nextTick ≤ last then
    writeStream doneAt leavesAt? (nextTick + keepAlivePeriod) (newlines + 1)
  else
    ⟨last, newlines, leavesAt?.all fun leavesAt => decide (doneAt < leavesAt)⟩
termination_by leavesAt?.elim doneAt (min doneAt) + 1 - nextTick
decreasing_by
  simp only [keepAlivePeriod]
  omega

/-- Waits for the work for one period, and then streams the answer. -/
def withKeepAlive (encode : α → Json) (work : Work α) (leavesAt? : Option Nat)
    (session : Session) : Response × Session :=
  let (result, after) := work.execute session
  let firstTick := session.clock + keepAlivePeriod
  if after.clock < firstTick then (Response.ofResult encode result, after)
  else
    let stream := writeStream after.clock leavesAt? firstTick 0
    if stream.isDone then
      ({ status := 200
         newlines := stream.newlines
         document := some (Response.payload encode result) }, after)
    else
      ({ status := 200, newlines := stream.newlines, document := none },
        session.stoppedAt after stream.time)

/-! Every newline is a chunk of the answer, and the document is the last one. -/

/-- The time at which a chunk of a slow answer is sent. Its head is sent together
with the first newline. -/
def chunkTime (start chunks : Nat) : Nat :=
  start + keepAlivePeriod * max chunks 1

/-- What a client sees that reads some chunks only. -/
def Response.firstChunks (response : Response) (chunks : Nat) : Response :=
  { response with
    newlines := min chunks response.newlines
    document := if chunks ≤ response.newlines then none else response.document }

end LogQuery
