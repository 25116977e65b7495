import LogQuery.Fields.Refresh

namespace LogQuery

/-! Background tasks keep the cache fresh. Each rests until its next tick, one
day after the last, and then refreshes. A task ends when it sees the stop signal
set, or finds that nobody holds the signal any more. It looks at the signal only
while it rests, and once for each time that the signal was sent. Where a tick and
a stop come at one time, either may be taken first. -/

/-- The time between two ticks, in milliseconds. -/
def refreshPeriod : Nat := 86400000

structure StopSignal where
  value : Bool := false
  version : Nat := 0
  held : Bool := true

namespace StopSignal

/-- Nobody can send once the signal is let go. -/
def send (signal : StopSignal) (value : Bool) : StopSignal :=
  if signal.held then { signal with value, version := signal.version + 1 }
  else signal

def release (signal : StopSignal) : StopSignal :=
  { signal with held := false }

/-- What a task learns that has seen the signal up to a version. -/
def stops (signal : StopSignal) (seen : Nat) : Bool :=
  (decide (signal.version ≠ seen) && signal.value) || !signal.held

end StopSignal

inductive TaskState where
  | resting (nextTick : Nat)
  | refreshing (nextTick : Nat) (refresh : Refresh)
  | ended

structure RefreshTask where
  seen : Nat
  state : TaskState

namespace RefreshTask

def start (clock : Nat) : RefreshTask :=
  ⟨0, .resting (clock + refreshPeriod)⟩

def hasEnded (task : RefreshTask) : Bool :=
  match task.state with
  | .ended => true
  | _ => false

def nextEvent? (task : RefreshTask) : Option Nat :=
  match task.state with
  | .resting nextTick => some nextTick
  | .refreshing _ refresh => refresh.nextEvent?
  | .ended => none

/-- A task with nothing to do until its next tick looks at the signal. -/
def rest (signal : StopSignal) (seen nextTick : Nat) : RefreshTask :=
  if signal.stops seen then ⟨signal.version, .ended⟩
  else ⟨signal.version, .resting nextTick⟩

def continueRefresh (signal : StopSignal) (seen nextTick : Nat) :
    Refresh × FieldCache → RefreshTask × FieldCache
  | (.ended _, cache) => (rest signal seen nextTick, cache)
  | (refresh, cache) => (⟨seen, .refreshing nextTick refresh⟩, cache)

/-- Does what is to be done at the time that the clock shows. -/
def poll (schema : Schema) (signal : StopSignal) (tickFirst : Bool) (task : RefreshTask)
    (cache : FieldCache) : RefreshTask × FieldCache :=
  match task.state with
  | .ended => (task, cache)
  | .resting nextTick =>
      if cache.clock < nextTick || (signal.stops task.seen && !tickFirst) then
        (rest signal task.seen nextTick, cache)
      else
        continueRefresh signal task.seen (nextTick + refreshPeriod)
          (Refresh.start schema cache)
  | .refreshing nextTick refresh =>
      continueRefresh signal task.seen nextTick (refresh.advance schema cache)

end RefreshTask

/-! The refresher holds the cache, the signal and the tasks, the oldest first.
Time passes for it only when something is waited for. Tasks take their turns
whenever one of them has something to do, and leave the turn at the end of a wait
to whoever waits. -/

structure Refresher where
  schema : Schema
  cache : FieldCache
  signal : StopSignal := {}
  tasks : List RefreshTask := []
  /-- Whether a tick goes before a stop that comes at the same time. -/
  tickFirst : Nat → Bool := fun _ => false

namespace Refresher

def clock (refresher : Refresher) : Nat :=
  refresher.cache.clock

def atTime (refresher : Refresher) (time : Nat) : Refresher :=
  { refresher with cache := refresher.cache.atTime time }

def pollTasks (schema : Schema) (signal : StopSignal) (tickFirst : Bool) :
    List RefreshTask → FieldCache → List RefreshTask × FieldCache
  | [], cache => ([], cache)
  | task :: rest, cache =>
      let (task, cache) := task.poll schema signal tickFirst cache
      let (rest, cache) := pollTasks schema signal tickFirst rest cache
      (task :: rest, cache)

def poll (refresher : Refresher) : Refresher :=
  let (tasks, cache) :=
    pollTasks refresher.schema refresher.signal (refresher.tickFirst refresher.clock)
      refresher.tasks refresher.cache
  { refresher with tasks, cache }

/-- The first event of a task between two times. -/
def nextEvent? (refresher : Refresher) (first last : Nat) : Option Nat :=
  ((refresher.tasks.filterMap RefreshTask.nextEvent?).filter
    fun event => decide (first < event ∧ event < last)).min?

theorem nextEvent?_bounds {refresher : Refresher} {first last event : Nat}
    (found : refresher.nextEvent? first last = some event) :
    first < event ∧ event < last := by
  have member := List.min?_mem found
  simpa using (List.mem_filter.mp member).2

def runTasks (now time : Nat) (refresher : Refresher) : Refresher :=
  match found : refresher.nextEvent? now time with
  | none => refresher.atTime time
  | some event =>
      have := nextEvent?_bounds found
      runTasks event time (refresher.atTime event).poll
termination_by time - now

def waitUntil (refresher : Refresher) (time : Nat) : Refresher :=
  if time ≤ refresher.clock then refresher
  else runTasks refresher.clock time refresher.poll

def waitFor (refresher : Refresher) (time : Nat) : Refresher :=
  refresher.waitUntil (refresher.clock + time)

/-- Fetches one list of keys and waits for it, as long as there is time. -/
def awaitKeys (refresher : Refresher) (kind : FieldKind) (deadline : Nat) :
    Except ServiceError (List String) × Refresher :=
  let (pending, cache) := refresher.cache.beginFetch refresher.schema kind
  (pending.resultBy deadline,
    { refresher with cache }.waitUntil (min deadline pending.doneAt))

/-- A refresh that is waited for. If it fails, the cache keeps the keys that it
has. -/
def refresh (refresher : Refresher) : Except ServiceError Unit × Refresher :=
  let deadline := refresher.clock + refreshLimit
  match refresher.awaitKeys .string deadline with
  | (.error error, next) => (.error error, next)
  | (.ok strings, next) =>
      match next.awaitKeys .number deadline with
      | (.error error, last) => (.error error, last)
      | (.ok numbers, last) =>
          (.ok (), { last with cache := last.cache.merge strings numbers })

/-- Refreshes once, whether or not that succeeds, and starts a task. -/
def start (refresher : Refresher) : Refresher :=
  let refreshed := refresher.refresh.2
  { refreshed with tasks := refreshed.tasks ++ [RefreshTask.start refreshed.clock] }

def merge (refresher : Refresher) (strings numbers : List String) : Refresher :=
  { refresher with cache := refresher.cache.merge strings numbers }

def send (refresher : Refresher) (value : Bool) : Refresher :=
  { refresher with signal := refresher.signal.send value }

def release (refresher : Refresher) : Refresher :=
  { refresher with signal := refresher.signal.release }

end Refresher

end LogQuery
