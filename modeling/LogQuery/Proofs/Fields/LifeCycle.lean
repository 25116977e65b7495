import LogQuery.Proofs.Fields.Stops

namespace LogQuery

namespace Refresher

/-! ## The ticks of a task -/

/-- The statements that a move issues. -/
def asked (refresher : Refresher) (move : Move) : List Statement :=
  (refresher.move move).cache.session.issued.drop refresher.cache.session.issued.length

/-- A task begins a refresh when it asks for the text keys in its turn. -/
def Begins (refresher : Refresher) (number : Nat) (move : Move) : Prop :=
  move = .turn number ∧
    refresher.cache.keysRequest refresher.schema .string ∈ refresher.asked move

instance (refresher : Refresher) (number : Nat) (move : Move) :
    Decidable (refresher.Begins number move) :=
  inferInstanceAs (Decidable (_ ∧ _))

/-- The times at which a task begins a refresh. -/
def begun (number : Nat) : Refresher → List Move → List Nat
  | _, [] => []
  | refresher, first :: rest =>
      (if refresher.Begins number first then [refresher.clock] else []) ++
        begun number (refresher.move first) rest

/-- The time at which a task ends, or that at the end if it still lives. -/
def livedUntil (number : Nat) : Refresher → List Move → Nat
  | refresher, [] => refresher.clock
  | refresher, first :: rest =>
      if refresher.hasEnded number then refresher.clock
      else livedUntil number (refresher.move first) rest

theorem livedUntil_of_hasEnded {refresher : Refresher} {number : Nat}
    (isOver : refresher.hasEnded number = true) (moves : List Move) :
    livedUntil number refresher moves = refresher.clock := by
  cases moves with
  | nil => rfl
  | cons first rest => rw [livedUntil, if_pos isOver]

theorem begun_of_hasEnded {refresher : Refresher} {number : Nat}
    (isOver : refresher.hasEnded number = true) (moves : List Move) :
    begun number refresher moves = [] := by
  induction moves generalizing refresher with
  | nil => rfl
  | cons first rest induction =>
      have silent : ¬ refresher.Begins number first := by
        rintro ⟨rfl, asks⟩
        rw [asked] at asks
        change _ ∈ (refresher.turn number).cache.session.issued.drop _ at asks
        rw [turn_of_hasEnded isOver, List.drop_length] at asks
        contradiction
      rw [begun, if_neg silent, induction (hasEnded_move isOver first)]
      rfl

/-- A task that lives, had `count` ticks and has nothing overdue. -/
structure Stands (refresher : Refresher) (number started count : Nat)
    (task : RefreshTask) : Prop where
  found : refresher.tasks[number]? = some task
  began : tickTime started count ≤ refresher.clock
  stage : RefreshTask.Stage started count refresher.clock task.state

theorem Stands.not_hasEnded {refresher : Refresher} {number started count : Nat}
    {task : RefreshTask} (stands : refresher.Stands number started count task) :
    refresher.hasEnded number = false := by
  rw [hasEnded_of_found stands.found]
  have stage := stands.stage
  rcases task with ⟨seen, state⟩
  cases stage with
  | resting => rfl
  | refreshing => rfl

theorem Stands.clock_le {refresher : Refresher} {number started count : Nat}
    {task : RefreshTask} (stands : refresher.Stands number started count task) :
    refresher.clock ≤ tickTime started (count + 1) := by
  have stage := stands.stage
  rcases task with ⟨seen, state⟩
  cases stage with
  | resting early => exact early
  | refreshing refresh event limited next early inTime =>
      have limit := refreshLimit_lt
      rw [tickTime_succ]
      omega

theorem Stands.move_other {refresher : Refresher} {number started count : Nat}
    {task : RefreshTask} (stands : refresher.Stands number started count task) {move : Move}
    (other : move ≠ .turn number) (allowed : refresher.Allows move) :
    (refresher.move move).Stands number started count task := by
  have found := tasks_move_other other stands.found
  cases move with
  | merge strings numbers => exact ⟨found, stands.began, stands.stage⟩
  | ask kind => exact ⟨found, stands.began, stands.stage⟩
  | add => exact ⟨found, stands.began, stands.stage⟩
  | send value => exact ⟨found, stands.began, stands.stage⟩
  | release => exact ⟨found, stands.began, stands.stage⟩
  | pass time =>
      have among := List.mem_of_getElem? stands.found
      exact ⟨found, Nat.le_trans stands.began allowed.1,
        stands.stage.pass (allowed.2 task among)⟩
  | turn another =>
      have now := refresher.clock_turn another
      refine ⟨found, ?_, ?_⟩
      · change _ ≤ (refresher.turn another).clock
        rw [now]
        exact stands.began
      · change RefreshTask.Stage _ _ (refresher.turn another).clock _
        rw [now]
        exact stands.stage

/-- In its turn, a task asks for the text keys exactly when a tick is due. -/
theorem Stands.move_turn {refresher : Refresher} {number started count : Nat}
    {task : RefreshTask} (stands : refresher.Stands number started count task) :
    ∃ counted,
      RefreshTask.Ticks started (refresher.cache.keysRequest refresher.schema .string)
        refresher.clock count (refresher.asked (.turn number)) counted ∧
      ((refresher.turn number).hasEnded number = true ∨
        ∃ next, (refresher.turn number).Stands number started counted next) := by
  have turned := tasks_turn_self stands.found
  have now := refresher.clock_turn number
  rcases (task.turn_poll refresher.schema refresher.signal
    (refresher.tickFirst refresher.clock) refresher.cache).parts stands.stage with
    ⟨added, counted, grows, ticks, had⟩
  have asked : refresher.asked (.turn number) = added := by
    change (refresher.turn number).cache.session.issued.drop _ = added
    rw [turn_of_found stands.found]
    dsimp only
    rw [grows.issued, List.drop_left]
  refine ⟨counted, asked ▸ ticks, ?_⟩
  cases had with
  | ended _ isOver =>
      exact .inl ((hasEnded_of_found turned).trans (RefreshTask.hasEnded_iff.mpr isOver))
  | going stage _ =>
      refine .inr ⟨_, turned, ?_, ?_⟩
      · rw [now]
        exact ticks.began stands.began
      · rw [now]
        exact stage

/-- The refreshes of a task that had `count` ticks before: one at each whole day from then on,
until it ends. -/
def TicksFrom (refresher : Refresher) (number started count : Nat) (moves : List Move) : Prop :=
  ∃ more,
    begun number refresher moves = (List.range' (count + 1) more).map (tickTime started) ∧
      tickTime started (count + more) ≤ livedUntil number refresher moves ∧
      livedUntil number refresher moves ≤ tickTime started (count + more + 1)

theorem ticksFrom_of_hasEnded {refresher : Refresher} {number started count : Nat}
    (isOver : refresher.hasEnded number = true)
    (began : tickTime started count ≤ refresher.clock)
    (early : refresher.clock ≤ tickTime started (count + 1)) (moves : List Move) :
    refresher.TicksFrom number started count moves := by
  refine ⟨0, begun_of_hasEnded isOver moves, ?_⟩
  rw [livedUntil_of_hasEnded isOver]
  exact ⟨began, early⟩

theorem ticksFrom_turn {refresher : Refresher} {number started count counted : Nat}
    (going : refresher.hasEnded number = false)
    (ticks : RefreshTask.Ticks started (refresher.cache.keysRequest refresher.schema .string)
      refresher.clock count (refresher.asked (.turn number)) counted) {rest : List Move}
    (later : (refresher.turn number).TicksFrom number started counted rest) :
    refresher.TicksFrom number started count (.turn number :: rest) := by
  rcases later with ⟨more, times, lower, upper⟩
  rw [TicksFrom, begun, livedUntil, going, if_neg Bool.false_ne_true]
  cases ticks with
  | no silent =>
      rw [if_neg fun begins => silent begins.2]
      exact ⟨more, times, lower, upper⟩
  | yes asks due =>
      refine ⟨more + 1, ?_, ?_, ?_⟩
      · rw [if_pos ⟨rfl, asks⟩, List.range'_succ, List.map_cons, due]
        exact congrArg _ times
      · rw [Nat.add_comm more, ← Nat.add_assoc]
        exact lower
      · rw [Nat.add_comm more, ← Nat.add_assoc]
        exact upper

theorem ticksFrom_of_stands {refresher : Refresher} {number started count : Nat}
    {task : RefreshTask} (stands : refresher.Stands number started count task)
    {moves : List Move} (lawful : refresher.Lawful moves) :
    refresher.TicksFrom number started count moves := by
  induction moves generalizing refresher count task with
  | nil => exact ⟨0, rfl, stands.began, stands.clock_le⟩
  | cons first rest induction =>
      by_cases own : first = .turn number
      · subst own
        rcases stands.move_turn with ⟨counted, ticks, after⟩
        apply ticksFrom_turn stands.not_hasEnded ticks
        rcases after with isOver | ⟨next, stillStands⟩
        · apply ticksFrom_of_hasEnded isOver
          · rw [clock_turn]
            exact ticks.began stands.began
          · rw [clock_turn]
            exact ticks.clock_le stands.clock_le
        · exact induction stillStands lawful.2
      · have later := induction (stands.move_other own lawful.1) lawful.2
        have silent : ¬ refresher.Begins number first := fun begins => own begins.1
        rw [TicksFrom, begun, livedUntil, stands.not_hasEnded, if_neg Bool.false_ne_true,
          if_neg silent]
        exact later

/-! ## The life cycle -/

/-- Once the stop is sent, or nobody is left to send, it is there for every task to see. -/
theorem stops_step {refresher : Refresher} (timely : refresher.Timely) {stop : RefresherStep}
    (isStop : stop = .send true ∨ stop = .release) :
    ∀ task ∈ (refresher.step stop).tasks,
      (refresher.step stop).signal.stops task.seen = true := by
  intro task member
  rcases isStop with rfl | rfl
  · exact StopSignal.stops_send (timely task member).seen
  · exact Bool.or_true _

/-- The task begins a refresh at each whole day after now, up to its end, and at no other
time. -/
def IsDaily (refresher : Refresher) (number : Nat) (moves : List Move) : Prop :=
  ∃ count,
    begun number refresher moves = (List.range' 1 count).map (tickTime refresher.clock) ∧
      tickTime refresher.clock count ≤ livedUntil number refresher moves ∧
      livedUntil number refresher moves ≤ tickTime refresher.clock (count + 1)

theorem isDaily_add (refresher : Refresher) {moves : List Move}
    (lawful : refresher.add.Lawful moves) :
    refresher.add.IsDaily refresher.tasks.length moves := by
  have stands : refresher.add.Stands refresher.tasks.length refresher.clock 0
      (RefreshTask.start refresher.clock) :=
    ⟨List.getElem?_concat_length, Nat.le_of_eq (tickTime_zero _), RefreshTask.stage_start _⟩
  rcases ticksFrom_of_stands stands lawful with ⟨count, times, bounds⟩
  rw [Nat.zero_add] at times bounds
  exact ⟨count, times, bounds⟩

/-- What is true of a script, whatever the store answers and whenever it does. -/
structure LifeCycle (first : Refresher) (steps : List RefresherStep) : Prop where
  moves : first.Reaches (first.runMoves steps) (steps.flatMap RefresherStep.signals)
    (first.run steps)
  /-- Later steps only add to the keys. -/
  keys : ∀ more, (first.run steps).cache.snapshot.Extends (first.run (steps ++ more)).cache.snapshot
  /-- A task that a step starts refreshes daily from then on. -/
  daily : ∀ before after, steps = before ++ .start :: after →
    let started := (first.run before).start
    started.IsDaily (first.run before).refreshed.tasks.length (started.runMoves after)
  /-- Nothing ends a task but a stop that it sees in its turn. -/
  lives : ∀ front move back, first.runMoves steps = front ++ move :: back → ∀ number,
    (first.moved front).lives number = true →
      ((first.moved front).move move).lives number = true ∨
        (move = .turn number ∧ (first.moved front).mustStop number = true ∧
          ((first.moved front).move move).hasEnded number = true)
  calm : (∀ step ∈ steps, step ≠ .send true ∧ step ≠ .release) →
    ∀ task ∈ (first.run steps).tasks, task.hasEnded = false
  /-- A stop ends a task in the first turn that it has outside of a refresh. -/
  stops : ∀ front back, first.runMoves steps = front ++ back → ∀ number,
    (first.moved front).mustStop number = true →
      ((first.moved front).turn number).hasEnded number = true ∨
        ((first.moved front).turn number).isRefreshing number = true
  stopsInTime : ∀ stop, stop = .send true ∨ stop = .release → ∀ time, refreshLimit < time →
    ∀ task ∈ (first.run (steps ++ [stop, .sleep time])).tasks, task.hasEnded = true
  /-- A task that has ended does nothing in its turns, and stays so. -/
  staysEnded : ∀ front back, first.runMoves steps = front ++ back → ∀ number,
    (first.moved front).hasEnded number = true →
      (first.moved front).turn number = first.moved front ∧
        (first.run steps).hasEnded number = true

theorem run_append (refresher : Refresher) (steps more : List RefresherStep) :
    refresher.run (steps ++ more) = (refresher.run steps).run more :=
  List.foldl_append

theorem moved_append (refresher : Refresher) (moves more : List Move) :
    refresher.moved (moves ++ more) = (refresher.moved moves).moved more :=
  List.foldl_append

theorem lifeCycle_run (schema : Schema) (cache : FieldCache) (tickFirst : Nat → Bool)
    (steps : List RefresherStep) : LifeCycle { schema, cache, tickFirst } steps := by
  generalize isFirst : ({ schema, cache, tickFirst } : Refresher) = first
  have timely : first.Timely := by
    subst isFirst
    exact List.forall_mem_nil _
  have reaches (steps : List RefresherStep) := reaches_runMoves timely steps
  constructor
  case moves => exact reaches steps
  case keys =>
    intro more
    rw [run_append, ← (reaches_runMoves ((reaches steps).timely timely) more).moved]
    exact extends_moved _ _
  case daily =>
    intro before after same
    have running := (reaches before).timely timely
    have started := (reaches_stepMoves running .start).timely running
    have lawful := (reaches_runMoves started after).lawful
    rw [step, start_eq] at lawful
    rw [start_eq]
    exact isDaily_add _ lawful
  case lives =>
    intro front move back same number lives
    exact lives_move lives move
  case calm =>
    intro quiet
    rw [← (reaches steps).moved]
    subst isFirst
    apply IsCalm.going_moved ⟨rfl, rfl⟩ (List.forall_mem_nil _)
    intro move member isSignal
    apply eq_send_false_of_mem_signals quiet
    rw [← (reaches steps).signals]
    exact List.mem_filter.mpr ⟨member, isSignal⟩
  case stops =>
    intro front back same number
    exact turn_of_mustStop
  case stopsInTime =>
    intro stop isStop time long
    have before := (reaches steps).timely timely
    have after := (reaches_stepMoves before stop).timely before
    rw [run_append]
    exact ended_waitFor after (stops_step before isStop) long
  case staysEnded =>
    intro front back same number isOver
    refine ⟨turn_of_hasEnded isOver, ?_⟩
    rw [← (reaches steps).moved, same, moved_append]
    exact hasEnded_moved isOver back

/-- The first fetch fails after two seconds, and the task stops in its third day. -/
theorem lifeCycle_run_thirdDay :
    let session := Session.start [⟨2000, .error .closed⟩]
    let first : Refresher := { schema := ⟨"default", []⟩, cache := ⟨session, .empty⟩ }
    let steps := [RefresherStep.sleep 200000000, .send true, .sleep 60001, .sleep 300000000]
    LifeCycle first (.start :: steps) ∧
      begun 0 first.start (first.start.runMoves steps) = [86402000, 172802000] ∧
      livedUntil 0 first.start (first.start.runMoves steps) = 200002000 ∧
      (first.start.run steps).hasEnded 0 = true :=
  ⟨lifeCycle_run _ _ _ _, by decide +kernel⟩

end Refresher

end LogQuery
