import LogQuery.Proofs.Fields.Turns

namespace LogQuery

/-! ## Moves

A run is made of moves, one after another: a fetch that an explicit refresh begins, one turn
of one task, the passing of time, and what a script does at once. -/

inductive RefresherStep where
  | merge (strings numbers : List String)
  | refresh
  | start
  | sleep (time : Nat)
  | send (value : Bool)
  | release
  deriving DecidableEq, Repr

inductive Move where
  | merge (strings numbers : List String)
  | ask (kind : FieldKind)
  | add
  | turn (number : Nat)
  | pass (time : Nat)
  | send (value : Bool)
  | release
  deriving DecidableEq, Repr

def Move.isSignal : Move → Bool
  | .send _ => true
  | .release => true
  | _ => false

def RefresherStep.signals : RefresherStep → List Move
  | .send value => [.send value]
  | .release => [.release]
  | _ => []

namespace Refresher

def refreshed (refresher : Refresher) : Refresher :=
  refresher.refresh.2

def step (refresher : Refresher) : RefresherStep → Refresher
  | .merge strings numbers => refresher.merge strings numbers
  | .refresh => refresher.refreshed
  | .start => refresher.start
  | .sleep time => refresher.waitFor time
  | .send value => refresher.send value
  | .release => refresher.release

def run (refresher : Refresher) (steps : List RefresherStep) : Refresher :=
  steps.foldl step refresher

def turn (refresher : Refresher) (number : Nat) : Refresher :=
  match refresher.tasks[number]? with
  | none => refresher
  | some task =>
      let (task, cache) := task.poll refresher.schema refresher.signal
        (refresher.tickFirst refresher.clock) refresher.cache
      { refresher with cache, tasks := refresher.tasks.set number task }

def ask (refresher : Refresher) (kind : FieldKind) : Refresher :=
  { refresher with cache := (refresher.cache.beginFetch refresher.schema kind).2 }

def add (refresher : Refresher) : Refresher :=
  { refresher with tasks := refresher.tasks ++ [RefreshTask.start refresher.clock] }

def move (refresher : Refresher) : Move → Refresher
  | .merge strings numbers => refresher.merge strings numbers
  | .ask kind => refresher.ask kind
  | .add => refresher.add
  | .turn number => refresher.turn number
  | .pass time => refresher.atTime time
  | .send value => refresher.send value
  | .release => refresher.release

def moved (refresher : Refresher) (moves : List Move) : Refresher :=
  moves.foldl move refresher

/-! The moves of a script follow its steps, down to the turns that tasks take while something
is waited for. -/

def round (refresher : Refresher) : List Move :=
  (List.range' 0 refresher.tasks.length).map .turn

def passMoves (now time : Nat) (refresher : Refresher) : List Move :=
  match found : refresher.nextEvent? now time with
  | none => [.pass time]
  | some event =>
      have := nextEvent?_bounds found
      .pass event ::
        ((refresher.atTime event).round ++ passMoves event time (refresher.atTime event).poll)
termination_by time - now

def waitMoves (refresher : Refresher) (time : Nat) : List Move :=
  if time ≤ refresher.clock then []
  else refresher.round ++ passMoves refresher.clock time refresher.poll

def awaitMoves (refresher : Refresher) (kind : FieldKind) (deadline : Nat) : List Move :=
  let pending := (refresher.cache.beginFetch refresher.schema kind).1
  .ask kind :: (refresher.ask kind).waitMoves (min deadline pending.doneAt)

def refreshMoves (refresher : Refresher) : List Move :=
  let deadline := refresher.clock + refreshLimit
  match refresher.awaitKeys .string deadline with
  | (.error _, _) => refresher.awaitMoves .string deadline
  | (.ok strings, next) =>
      match next.awaitKeys .number deadline with
      | (.error _, _) => refresher.awaitMoves .string deadline ++ next.awaitMoves .number deadline
      | (.ok numbers, _) =>
          refresher.awaitMoves .string deadline ++
            (next.awaitMoves .number deadline ++ [.merge strings numbers])

def stepMoves (refresher : Refresher) : RefresherStep → List Move
  | .merge strings numbers => [.merge strings numbers]
  | .refresh => refresher.refreshMoves
  | .start => refresher.refreshMoves ++ [.add]
  | .sleep time => refresher.waitMoves (refresher.clock + time)
  | .send value => [.send value]
  | .release => [.release]

def runMoves (refresher : Refresher) : List RefresherStep → List Move
  | [] => []
  | first :: rest => refresher.stepMoves first ++ (refresher.step first).runMoves rest

/-! ## What a move does to the cache -/

theorem turn_grows (refresher : Refresher) (number : Nat) :
    ∃ added, refresher.cache.Grows (refresher.turn number).cache added := by
  unfold turn
  split
  · exact ⟨[], .refl _⟩
  · exact (RefreshTask.turn_poll _ _ _ _ _).grows

theorem clock_turn (refresher : Refresher) (number : Nat) :
    (refresher.turn number).clock = refresher.clock := by
  rcases refresher.turn_grows number with ⟨_, grows⟩
  exact grows.clock

theorem extends_move (refresher : Refresher) (move : Move) :
    refresher.cache.snapshot.Extends (refresher.move move).cache.snapshot := by
  cases move with
  | merge strings numbers => exact (refresher.cache.grows_merge strings numbers).snapshot
  | ask kind => exact (refresher.cache.grows_beginFetch refresher.schema kind).snapshot
  | turn number =>
      rcases refresher.turn_grows number with ⟨_, grows⟩
      exact grows.snapshot
  | add => exact fun _ => List.prefix_rfl
  | pass time => exact fun _ => List.prefix_rfl
  | send value =>
      change refresher.cache.snapshot.Extends (refresher.send value).cache.snapshot
      exact fun _ => List.prefix_rfl
  | release => exact fun _ => List.prefix_rfl

theorem extends_moved (refresher : Refresher) (moves : List Move) :
    refresher.cache.snapshot.Extends (refresher.moved moves).cache.snapshot := by
  induction moves generalizing refresher with
  | nil => exact fun _ => List.prefix_rfl
  | cons first rest induction =>
      exact (refresher.extends_move first).trans (induction (refresher.move first))

/-! ## Time

No task is left behind: time passes only up to the next thing that a task has to do. -/

def Allows (refresher : Refresher) : Move → Prop
  | .pass time =>
      refresher.clock ≤ time ∧
        ∀ task ∈ refresher.tasks, ∀ event, task.nextEvent? = some event → time ≤ event
  | _ => True

def Lawful : Refresher → List Move → Prop
  | _, [] => True
  | refresher, first :: rest => refresher.Allows first ∧ (refresher.move first).Lawful rest

theorem lawful_append {refresher : Refresher} {moves more : List Move} :
    refresher.Lawful (moves ++ more) ↔
      refresher.Lawful moves ∧ (refresher.moved moves).Lawful more := by
  induction moves generalizing refresher with
  | nil => exact (and_iff_right trivial).symm
  | cons first rest induction =>
      rw [List.cons_append, Lawful, Lawful, induction, and_assoc]
      rfl

end Refresher

namespace RefreshTask

/-- A task that is where its ticks put it, or is over. -/
structure IsTimely (version clock : Nat) (task : RefreshTask) : Prop where
  seen : task.seen ≤ version
  stage : task.state = .ended ∨ ∃ started count, tickTime started count ≤ clock ∧
    Stage started count clock task.state

/-- A task that waits only for what is yet to come. -/
def Waits (clock : Nat) (task : RefreshTask) : Prop :=
  ∀ event, task.nextEvent? = some event → clock < event

theorem waits_of_ended {task : RefreshTask} (isOver : task.state = .ended) (clock : Nat) :
    task.Waits clock := by
  intro event next
  rw [nextEvent?, isOver] at next
  contradiction

theorem Stage.pass {started count clock time seen : Nat} {state : TaskState}
    (stage : Stage started count clock state)
    (allowed : ∀ event, nextEvent? ⟨seen, state⟩ = some event → time ≤ event) :
    Stage started count time state := by
  cases stage with
  | resting early => exact .resting (allowed _ rfl)
  | refreshing refresh event limited next early inTime =>
      exact .refreshing refresh event limited next (allowed event next) inTime

theorem IsTimely.turn {schema : Schema} {signal : StopSignal} {task : RefreshTask}
    {cache : FieldCache} {polled : RefreshTask × FieldCache}
    (timely : task.IsTimely signal.version cache.clock)
    (turn : Turn schema signal task cache polled) :
    polled.1.IsTimely signal.version cache.clock ∧ polled.1.Waits cache.clock := by
  have seen : polled.1.seen ≤ signal.version := by
    rcases turn.seen_cases with same | current
    · rw [same]
      exact timely.seen
    · exact Nat.le_of_eq current
  rcases timely.stage with isOver | ⟨started, count, began, stage⟩
  · rw [turn.eq_of_ended isOver]
    exact ⟨timely, waits_of_ended isOver _⟩
  · rcases turn.parts stage with ⟨added, counted, _, ticks, had⟩
    have began := ticks.began began
    cases had with
    | ended _ isOver => exact ⟨⟨seen, .inl isOver⟩, waits_of_ended isOver _⟩
    | going stage ahead => exact ⟨⟨seen, .inr ⟨started, counted, began, stage⟩⟩, ahead⟩

end RefreshTask

namespace Refresher

def Timely (refresher : Refresher) : Prop :=
  ∀ task ∈ refresher.tasks, task.IsTimely refresher.signal.version refresher.clock

def Waits (refresher : Refresher) : Prop :=
  ∀ task ∈ refresher.tasks, task.Waits refresher.clock

theorem turn_of_found {refresher : Refresher} {number : Nat} {task : RefreshTask}
    (found : refresher.tasks[number]? = some task) :
    let polled := task.poll refresher.schema refresher.signal
      (refresher.tickFirst refresher.clock) refresher.cache
    refresher.turn number =
      { refresher with cache := polled.2, tasks := refresher.tasks.set number polled.1 } := by
  unfold turn
  rw [found]

theorem turn_of_none {refresher : Refresher} {number : Nat}
    (none : refresher.tasks[number]? = none) : refresher.turn number = refresher := by
  unfold turn
  rw [none]

theorem timely_turn {refresher : Refresher} (timely : refresher.Timely) (number : Nat) :
    (refresher.turn number).Timely := by
  cases found : refresher.tasks[number]? with
  | none =>
      rw [turn_of_none found]
      exact timely
  | some old =>
      have before := timely old (List.mem_of_getElem? found)
      have after := (before.turn (RefreshTask.turn_poll refresher.schema _
        (refresher.tickFirst refresher.clock) old refresher.cache)).1
      have now := refresher.clock_turn number
      rw [turn_of_found found] at now ⊢
      intro task member
      rw [now]
      rcases List.mem_or_eq_of_mem_set member with other | rfl
      · exact timely task other
      · exact after

theorem timely_move {refresher : Refresher} {move : Move} (allowed : refresher.Allows move)
    (timely : refresher.Timely) : (refresher.move move).Timely := by
  cases move with
  | merge strings numbers => exact timely
  | ask kind => exact timely
  | release => exact timely
  | turn number => exact timely_turn timely number
  | send value =>
      intro task member
      have before := timely task member
      exact ⟨Nat.le_trans before.seen (refresher.signal.version_le_send value), before.stage⟩
  | add =>
      intro task member
      rcases List.mem_append.mp member with old | new
      · exact timely task old
      · rw [List.mem_singleton.mp new]
        have began := Nat.le_of_eq (tickTime_zero refresher.clock)
        exact ⟨Nat.zero_le _, .inr ⟨_, 0, began, RefreshTask.stage_start _⟩⟩
  | pass time =>
      intro task member
      have before := timely task member
      refine ⟨before.seen, ?_⟩
      rcases before.stage with isOver | ⟨started, count, began, stage⟩
      · exact .inl isOver
      · exact .inr ⟨started, count, Nat.le_trans began allowed.1,
          stage.pass (allowed.2 task member)⟩

theorem timely_moved {refresher : Refresher} {moves : List Move}
    (lawful : refresher.Lawful moves) (timely : refresher.Timely) :
    (refresher.moved moves).Timely := by
  induction moves generalizing refresher with
  | nil => exact timely
  | cons first rest induction => exact induction lawful.2 (timely_move lawful.1 timely)

/-! ## The moves of a run -/

theorem poll_grows (schema : Schema) (signal : StopSignal) (tickFirst : Bool)
    (tasks : List RefreshTask) (cache : FieldCache) :
    ∃ added, cache.Grows (pollTasks schema signal tickFirst tasks cache).2 added := by
  induction tasks generalizing cache with
  | nil => exact ⟨[], .refl cache⟩
  | cons first rest induction =>
      rcases (first.turn_poll schema signal tickFirst cache).grows with ⟨added, grows⟩
      rcases induction (first.poll schema signal tickFirst cache).2 with ⟨more, later⟩
      exact ⟨_, grows.trans later⟩

/-- Each task had its turn at the time that the clock showed. -/
theorem mem_pollTasks {schema : Schema} {signal : StopSignal} {tickFirst : Bool}
    {tasks : List RefreshTask} {cache : FieldCache} {task : RefreshTask}
    (member : task ∈ (pollTasks schema signal tickFirst tasks cache).1) :
    ∃ old ∈ tasks, ∃ before after : FieldCache, before.clock = cache.clock ∧
      RefreshTask.Turn schema signal old before (task, after) := by
  induction tasks generalizing cache with
  | nil => contradiction
  | cons first rest induction =>
      have turn := first.turn_poll schema signal tickFirst cache
      rcases List.mem_cons.mp member with rfl | later
      · exact ⟨first, List.mem_cons_self, cache, _, rfl, turn⟩
      · rcases turn.grows with ⟨added, grows⟩
        rcases induction later with ⟨old, among, before, after, sameClock, turned⟩
        exact ⟨old, List.mem_cons_of_mem _ among, before, after,
          sameClock.trans grows.clock, turned⟩

theorem moved_turns (refresher : Refresher) (front rest : List RefreshTask)
    (cache : FieldCache) :
    let polled := pollTasks refresher.schema refresher.signal
      (refresher.tickFirst cache.clock) rest cache
    { refresher with cache, tasks := front ++ rest }.moved
        ((List.range' front.length rest.length).map .turn) =
      { refresher with cache := polled.2, tasks := front ++ polled.1 } := by
  induction rest generalizing front cache with
  | nil => rfl
  | cons first rest induction =>
      have found : (front ++ first :: rest)[front.length]? = some first := by
        rw [List.getElem?_append_right (Nat.le_refl _), Nat.sub_self]
        rfl
      rcases polled : first.poll refresher.schema refresher.signal
        (refresher.tickFirst cache.clock) cache with ⟨task, next⟩
      have sameClock : next.clock = cache.clock := by
        rcases (first.turn_poll refresher.schema refresher.signal
          (refresher.tickFirst cache.clock) cache).grows with ⟨_, grows⟩
        rw [polled] at grows
        exact grows.clock
      have turned : { refresher with cache, tasks := front ++ first :: rest }.turn front.length =
          { refresher with cache := next, tasks := (front ++ [task]) ++ rest } := by
        rw [turn_of_found found]
        change { refresher with
          cache := (first.poll _ _ (refresher.tickFirst cache.clock) cache).2
          tasks := List.set _ _ (first.poll _ _ (refresher.tickFirst cache.clock) cache).1 } = _
        rw [polled, List.set_append_right _ _ (Nat.le_refl _), Nat.sub_self]
        simp
      have later := induction (front ++ [task]) next
      rw [List.length_append, List.length_singleton, sameClock] at later
      rw [List.length_cons, List.range'_succ, List.map_cons, moved, List.foldl_cons]
      change moved (turn _ _) _ = _
      rw [turned, later, pollTasks, polled]
      simp

/-- Lawful moves lead from one refresher to another, and these are the signals among them. -/
structure Reaches (before : Refresher) (moves signals : List Move) (after : Refresher) :
    Prop where
  lawful : before.Lawful moves
  moved : before.moved moves = after
  signals : moves.filter Move.isSignal = signals

theorem Reaches.refl (refresher : Refresher) : refresher.Reaches [] [] refresher :=
  ⟨trivial, rfl, rfl⟩

theorem Reaches.trans {first middle last : Refresher} {moves more signals others : List Move}
    (one : first.Reaches moves signals middle) (other : middle.Reaches more others last) :
    first.Reaches (moves ++ more) (signals ++ others) last where
  lawful := by
    rw [lawful_append, one.moved]
    exact ⟨one.lawful, other.lawful⟩
  moved := by
    rw [Refresher.moved, List.foldl_append]
    change (first.moved moves).moved more = last
    rw [one.moved, other.moved]
  signals := by rw [List.filter_append, one.signals, other.signals]

theorem Reaches.timely {first last : Refresher} {moves signals : List Move}
    (reaches : first.Reaches moves signals last) (timely : first.Timely) : last.Timely := by
  rw [← reaches.moved]
  exact timely_moved reaches.lawful timely

theorem lawful_turns (refresher : Refresher) (numbers : List Nat) :
    refresher.Lawful (numbers.map .turn) := by
  induction numbers generalizing refresher with
  | nil => trivial
  | cons first rest induction => exact ⟨trivial, induction (refresher.turn first)⟩

theorem reaches_poll (refresher : Refresher) :
    refresher.Reaches refresher.round [] refresher.poll where
  lawful := refresher.lawful_turns _
  moved := refresher.moved_turns [] refresher.tasks refresher.cache
  signals := by
    rw [List.filter_eq_nil_iff]
    intro move member
    rcases List.mem_map.mp member with ⟨number, _, rfl⟩
    exact Bool.false_ne_true

theorem clock_poll (refresher : Refresher) : refresher.poll.clock = refresher.clock := by
  rcases poll_grows refresher.schema refresher.signal
    (refresher.tickFirst refresher.clock) refresher.tasks refresher.cache with ⟨_, grows⟩
  exact grows.clock

theorem waits_poll {refresher : Refresher} (timely : refresher.Timely) :
    refresher.poll.Waits := by
  intro task member
  rcases mem_pollTasks member with ⟨old, among, before, after, now, turn⟩
  rw [clock_poll]
  have now : before.clock = refresher.clock := now
  have timely := timely old among
  rw [← now] at timely ⊢
  exact (timely.turn turn).2

/-- Up to the next event, or the end if there is none, no task has anything to do. -/
theorem getD_nextEvent?_le {refresher : Refresher} (waits : refresher.Waits) (time : Nat)
    {task : RefreshTask} (member : task ∈ refresher.tasks) {event : Nat}
    (next : task.nextEvent? = some event) :
    (refresher.nextEvent? refresher.clock time).getD time ≤ event := by
  have ahead := waits task member event next
  rcases found : refresher.nextEvent? refresher.clock time with _ | first
  · apply Nat.le_of_not_lt
    intro inside
    have among : event ∈ (refresher.tasks.filterMap RefreshTask.nextEvent?).filter
        fun event => decide (refresher.clock < event ∧ event < time) :=
      List.mem_filter.mpr
        ⟨List.mem_filterMap.mpr ⟨task, member, next⟩, decide_eq_true ⟨ahead, inside⟩⟩
    rw [List.min?_eq_none_iff.mp found] at among
    contradiction
  · rcases Nat.lt_or_ge event time with inside | outside
    · apply (List.min?_eq_some_iff.mp found).2
      exact List.mem_filter.mpr
        ⟨List.mem_filterMap.mpr ⟨task, member, next⟩, decide_eq_true ⟨ahead, inside⟩⟩
    · exact Nat.le_trans (Nat.le_of_lt (nextEvent?_bounds found).2) outside

theorem reaches_passMoves {refresher : Refresher} {now time : Nat}
    (current : refresher.clock = now) (ahead : now ≤ time) (timely : refresher.Timely)
    (waits : refresher.Waits) :
    refresher.Reaches (passMoves now time refresher) [] (runTasks now time refresher) := by
  fun_induction passMoves now time refresher with
  | case1 now refresher found =>
      subst current
      have allowed : refresher.Allows (.pass time) := by
        refine ⟨ahead, fun task member event next => ?_⟩
        have reached := getD_nextEvent?_le waits time member next
        rw [found] at reached
        exact reached
      rw [runTasks]
      split
      · exact ⟨⟨allowed, trivial⟩, rfl, rfl⟩
      · next other => rw [found] at other; contradiction
  | case2 now refresher event found bounds induction =>
      subst current
      have allowed : refresher.Allows (.pass event) := by
        refine ⟨Nat.le_of_lt bounds.1, fun task member later next => ?_⟩
        have reached := getD_nextEvent?_le waits time member next
        rw [found] at reached
        exact reached
      have passed : refresher.Reaches [.pass event] [] (refresher.atTime event) :=
        ⟨⟨allowed, trivial⟩, rfl, rfl⟩
      have polled := (refresher.atTime event).reaches_poll
      have timely := passed.timely timely
      have rest := induction (clock_poll _) (Nat.le_of_lt bounds.2) (polled.timely timely)
        (waits_poll timely)
      rw [runTasks]
      split
      · next other => rw [found] at other; contradiction
      · next other same =>
          cases Option.some.inj (found.symm.trans same)
          exact passed.trans (polled.trans rest)

theorem reaches_waitMoves {refresher : Refresher} (timely : refresher.Timely) (time : Nat) :
    refresher.Reaches (refresher.waitMoves time) [] (refresher.waitUntil time) := by
  unfold waitMoves waitUntil
  split
  · exact .refl refresher
  · next ahead =>
      have polled := refresher.reaches_poll
      exact polled.trans (reaches_passMoves refresher.clock_poll
        (Nat.le_of_not_le ahead) (polled.timely timely) (waits_poll timely))

theorem reaches_awaitMoves {refresher : Refresher} (timely : refresher.Timely)
    (kind : FieldKind) (deadline : Nat) :
    refresher.Reaches (refresher.awaitMoves kind deadline) []
      (refresher.awaitKeys kind deadline).2 := by
  have asked : refresher.Reaches [.ask kind] [] (refresher.ask kind) :=
    ⟨⟨trivial, trivial⟩, rfl, rfl⟩
  have waited (time : Nat) := asked.trans (reaches_waitMoves (asked.timely timely) time)
  unfold awaitMoves awaitKeys
  unfold ask at waited ⊢
  generalize refresher.cache.beginFetch refresher.schema kind = begun at waited ⊢
  exact waited _

theorem reaches_refreshMoves {refresher : Refresher} (timely : refresher.Timely) :
    refresher.Reaches refresher.refreshMoves [] refresher.refreshed := by
  have first := reaches_awaitMoves timely .string (refresher.clock + refreshLimit)
  unfold refreshMoves refreshed refresh
  dsimp only
  rcases answered : refresher.awaitKeys .string _ with ⟨error | strings, next⟩
  · rw [answered] at first
    exact first
  · rw [answered] at first
    have second := reaches_awaitMoves (first.timely timely) .number
      (refresher.clock + refreshLimit)
    dsimp only at second ⊢
    rcases answeredToo : next.awaitKeys .number _ with ⟨error | numbers, last⟩
    · rw [answeredToo] at second
      exact first.trans second
    · rw [answeredToo] at second
      have merged : last.Reaches [.merge strings numbers] [] (last.merge strings numbers) :=
        ⟨⟨trivial, trivial⟩, rfl, rfl⟩
      exact first.trans (second.trans merged)

theorem start_eq (refresher : Refresher) : refresher.start = refresher.refreshed.add := by
  rw [start, refreshed, add]

theorem reaches_stepMoves {refresher : Refresher} (timely : refresher.Timely)
    (step : RefresherStep) :
    refresher.Reaches (refresher.stepMoves step) step.signals (refresher.step step) := by
  cases step with
  | merge strings numbers => exact ⟨⟨trivial, trivial⟩, rfl, rfl⟩
  | send value => exact ⟨⟨trivial, trivial⟩, rfl, rfl⟩
  | release => exact ⟨⟨trivial, trivial⟩, rfl, rfl⟩
  | refresh => exact reaches_refreshMoves timely
  | sleep time => exact reaches_waitMoves timely _
  | start =>
      have added : refresher.refreshed.Reaches [.add] [] refresher.refreshed.add :=
        ⟨⟨trivial, trivial⟩, rfl, rfl⟩
      rw [step, start_eq]
      exact (reaches_refreshMoves timely).trans added

theorem reaches_runMoves {refresher : Refresher} (timely : refresher.Timely)
    (steps : List RefresherStep) :
    refresher.Reaches (refresher.runMoves steps) (steps.flatMap RefresherStep.signals)
      (refresher.run steps) := by
  induction steps generalizing refresher with
  | nil => exact .refl refresher
  | cons first rest induction =>
      have stepped := reaches_stepMoves timely first
      exact stepped.trans (induction (stepped.timely timely))

end Refresher

end LogQuery
