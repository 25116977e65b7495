import LogQuery.Proofs.Fields.Moves

namespace LogQuery

/-! ## The end of a task

A task ends in one of its own turns, and only when it sees a stop. What it does after that is
nothing. -/

namespace RefreshTask

variable {signal : StopSignal} {seen nextTick : Nat}

theorem hasEnded_iff {task : RefreshTask} : task.hasEnded = true ↔ task.state = .ended := by
  rcases task with ⟨seen, state⟩
  cases state with
  | ended => exact iff_of_true rfl rfl
  | resting => exact iff_of_false Bool.false_ne_true nofun
  | refreshing => exact iff_of_false Bool.false_ne_true nofun

def isRefreshing (task : RefreshTask) : Bool :=
  match task.state with
  | .refreshing _ _ => true
  | _ => false

theorem hasEnded_rest : (rest signal seen nextTick).hasEnded = signal.stops seen := by
  unfold rest
  split
  · next stops => exact stops.symm
  · next goes => exact ((Bool.not_eq_true _).mp goes).symm

theorem hasEnded_continueRefresh (refreshed : Refresh × FieldCache) :
    (continueRefresh signal seen nextTick refreshed).1.isRefreshing = true ∨
      (continueRefresh signal seen nextTick refreshed).1.hasEnded = signal.stops seen := by
  rcases continueRefresh_cases nextTick refreshed with same | same
  · exact .inr (by rw [same, hasEnded_rest])
  · exact .inl (by rw [same]; rfl)

/-- In its turn, a task is in a refresh or looks at the signal. -/
theorem Turn.hasEnded {schema : Schema} {task : RefreshTask} {cache : FieldCache}
    {polled : RefreshTask × FieldCache} (turn : Turn schema signal task cache polled)
    (going : task.hasEnded = false) :
    polled.1.isRefreshing = true ∨ polled.1.hasEnded = signal.stops task.seen := by
  cases turn with
  | ended state =>
      rw [hasEnded_iff.mpr state] at going
      contradiction
  | rests => exact .inr hasEnded_rest
  | begins => exact hasEnded_continueRefresh _
  | goesOn => exact hasEnded_continueRefresh _

theorem hasEnded_of_isRefreshing {task : RefreshTask} (refreshing : task.isRefreshing = true) :
    task.hasEnded = false := by
  rcases task with ⟨seen, state⟩
  cases state with
  | refreshing => rfl
  | resting => rfl
  | ended => contradiction

end RefreshTask

namespace Refresher

def hasEnded (refresher : Refresher) (number : Nat) : Bool :=
  refresher.tasks[number]?.any RefreshTask.hasEnded

def isRefreshing (refresher : Refresher) (number : Nat) : Bool :=
  refresher.tasks[number]?.any RefreshTask.isRefreshing

def lives (refresher : Refresher) (number : Nat) : Bool :=
  refresher.tasks[number]?.any fun task => !task.hasEnded

/-- Whether a task would see a stop if it looked at the signal. -/
def mustStop (refresher : Refresher) (number : Nat) : Bool :=
  refresher.tasks[number]?.any fun task => refresher.signal.stops task.seen

theorem tasks_turn_self {refresher : Refresher} {number : Nat} {task : RefreshTask}
    (found : refresher.tasks[number]? = some task) :
    (refresher.turn number).tasks[number]? =
      some (task.poll refresher.schema refresher.signal
        (refresher.tickFirst refresher.clock) refresher.cache).1 := by
  rcases List.getElem?_eq_some_iff.mp found with ⟨inside, _⟩
  rw [turn_of_found found]
  exact List.getElem?_set_self inside

theorem tasks_turn_other (refresher : Refresher) {number other : Nat}
    (different : other ≠ number) :
    (refresher.turn other).tasks[number]? = refresher.tasks[number]? := by
  cases found : refresher.tasks[other]? with
  | none => rw [turn_of_none found]
  | some task =>
      rw [turn_of_found found]
      exact List.getElem?_set_ne different

theorem turn_of_hasEnded {refresher : Refresher} {number : Nat}
    (isOver : refresher.hasEnded number = true) : refresher.turn number = refresher := by
  cases found : refresher.tasks[number]? with
  | none => exact turn_of_none found
  | some task =>
      rw [hasEnded, found] at isOver
      have ended : task.state = .ended := RefreshTask.hasEnded_iff.mp isOver
      rcases List.getElem?_eq_some_iff.mp found with ⟨inside, rfl⟩
      rw [turn_of_found found, (RefreshTask.turn_poll _ _ _ _ _).eq_of_ended ended]
      dsimp only
      rw [List.set_getElem_self]

/-- What happens between its turns does not reach a task. -/
theorem tasks_move_other {refresher : Refresher} {number : Nat} {move : Move}
    (other : move ≠ .turn number) {task : RefreshTask}
    (found : refresher.tasks[number]? = some task) :
    (refresher.move move).tasks[number]? = some task := by
  cases move with
  | merge strings numbers => exact found
  | ask kind => exact found
  | pass time => exact found
  | release => exact found
  | send value => exact found
  | turn another =>
      have different : another ≠ number := fun same => other (congrArg Move.turn same)
      exact (refresher.tasks_turn_other different).trans found
  | add =>
      rcases List.getElem?_eq_some_iff.mp found with ⟨inside, _⟩
      exact (List.getElem?_append_left inside).trans found

theorem exists_of_lives {refresher : Refresher} {number : Nat}
    (lives : refresher.lives number = true) :
    ∃ task, refresher.tasks[number]? = some task ∧ task.hasEnded = false := by
  rw [Refresher.lives] at lives
  cases found : refresher.tasks[number]? with
  | none =>
      rw [found] at lives
      contradiction
  | some task =>
      rw [found, Option.any_some, Bool.not_eq_true'] at lives
      exact ⟨task, rfl, lives⟩

theorem lives_of_found {refresher : Refresher} {number : Nat} {task : RefreshTask}
    (found : refresher.tasks[number]? = some task) (going : task.hasEnded = false) :
    refresher.lives number = true := by
  rw [lives, found, Option.any_some, going, Bool.not_false]

theorem hasEnded_of_found {refresher : Refresher} {number : Nat} {task : RefreshTask}
    (found : refresher.tasks[number]? = some task) :
    refresher.hasEnded number = task.hasEnded := by
  rw [hasEnded, found, Option.any_some]

/-- A move ends a task only if it is its own turn, in which it sees a stop. -/
theorem lives_move {refresher : Refresher} {number : Nat}
    (lives : refresher.lives number = true) (move : Move) :
    (refresher.move move).lives number = true ∨
      (move = .turn number ∧ refresher.mustStop number = true ∧
        (refresher.move move).hasEnded number = true) := by
  rcases exists_of_lives lives with ⟨task, found, going⟩
  by_cases own : move = .turn number
  · subst own
    have turned := tasks_turn_self found
    cases isOver : (task.poll refresher.schema refresher.signal
      (refresher.tickFirst refresher.clock) refresher.cache).1.hasEnded with
    | false => exact .inl (lives_of_found turned isOver)
    | true =>
        refine .inr ⟨rfl, ?_, (hasEnded_of_found turned).trans isOver⟩
        rcases (task.turn_poll _ _ _ _).hasEnded going with
          refreshing | same
        · rw [RefreshTask.hasEnded_of_isRefreshing refreshing] at isOver
          contradiction
        · rw [mustStop, found, Option.any_some, ← same, isOver]
  · exact .inl (lives_of_found (tasks_move_other own found) going)

/-- A task that sees a stop ends there, unless it is in a refresh and does not look. -/
theorem turn_of_mustStop {refresher : Refresher} {number : Nat}
    (stops : refresher.mustStop number = true) :
    (refresher.turn number).hasEnded number = true ∨
      (refresher.turn number).isRefreshing number = true := by
  rw [mustStop] at stops
  cases found : refresher.tasks[number]? with
  | none =>
      rw [found] at stops
      contradiction
  | some task =>
      rw [found, Option.any_some] at stops
      cases going : task.hasEnded with
      | true =>
          left
          rw [turn_of_hasEnded ((hasEnded_of_found found).trans going)]
          exact (hasEnded_of_found found).trans going
      | false =>
          have turned := tasks_turn_self found
          rcases (task.turn_poll _ _ _ _).hasEnded going with
            refreshing | same
          · right
            rw [isRefreshing, turned, Option.any_some]
            exact refreshing
          · left
            rw [hasEnded_of_found turned]
            exact same.trans stops

theorem hasEnded_move {refresher : Refresher} {number : Nat}
    (isOver : refresher.hasEnded number = true) (move : Move) :
    (refresher.move move).hasEnded number = true := by
  by_cases own : move = .turn number
  · subst own
    change (refresher.turn number).hasEnded number = true
    rw [turn_of_hasEnded isOver]
    exact isOver
  · rw [hasEnded] at isOver
    cases found : refresher.tasks[number]? with
    | none =>
        rw [found] at isOver
        contradiction
    | some task =>
        rw [found] at isOver
        exact (hasEnded_of_found (tasks_move_other own found)).trans isOver

theorem hasEnded_moved {refresher : Refresher} {number : Nat}
    (isOver : refresher.hasEnded number = true) (moves : List Move) :
    (refresher.moved moves).hasEnded number = true := by
  induction moves generalizing refresher with
  | nil => exact isOver
  | cons first rest induction => exact induction (hasEnded_move isOver first)

/-! ## Signals -/

/-- Nobody has sent a stop, and somebody can. -/
def IsCalm (refresher : Refresher) : Prop :=
  refresher.signal.value = false ∧ refresher.signal.held = true

theorem IsCalm.stops {refresher : Refresher} (calm : refresher.IsCalm) (seen : Nat) :
    refresher.signal.stops seen = false := by
  rw [StopSignal.stops, calm.1, calm.2, Bool.and_false]
  rfl

theorem signal_turn (refresher : Refresher) (number : Nat) :
    (refresher.turn number).signal = refresher.signal := by
  cases found : refresher.tasks[number]? with
  | none => rw [turn_of_none found]
  | some task => rw [turn_of_found found]

theorem IsCalm.move {refresher : Refresher} {move : Move} (calm : refresher.IsCalm)
    (quiet : move.isSignal = true → move = .send false) : (refresher.move move).IsCalm := by
  cases move with
  | merge strings numbers => exact calm
  | ask kind => exact calm
  | add => exact calm
  | pass time => exact calm
  | release => exact absurd (quiet rfl) nofun
  | turn number =>
      change (refresher.turn number).IsCalm
      rw [IsCalm, signal_turn]
      exact calm
  | send value =>
      cases quiet rfl
      change (refresher.signal.send false).value = false ∧ (refresher.signal.send false).held = true
      rw [StopSignal.send, if_pos calm.2]
      exact ⟨rfl, calm.2⟩

theorem IsCalm.going_move {refresher : Refresher} (calm : refresher.IsCalm)
    (going : ∀ task ∈ refresher.tasks, task.hasEnded = false) (move : Move) :
    ∀ task ∈ (refresher.move move).tasks, task.hasEnded = false := by
  intro task member
  cases move with
  | merge strings numbers => exact going task member
  | ask kind => exact going task member
  | pass time => exact going task member
  | release => exact going task member
  | send value => exact going task member
  | add =>
      rcases List.mem_append.mp member with old | new
      · exact going task old
      · rw [List.mem_singleton.mp new]
        rfl
  | turn number =>
      change task ∈ (refresher.turn number).tasks at member
      cases found : refresher.tasks[number]? with
      | none =>
          rw [turn_of_none found] at member
          exact going task member
      | some old =>
          rw [turn_of_found found] at member
          rcases List.mem_or_eq_of_mem_set member with other | rfl
          · exact going task other
          · have going := going old (List.mem_of_getElem? found)
            rcases (old.turn_poll _ _ _ _).hasEnded going with refreshing | same
            · exact RefreshTask.hasEnded_of_isRefreshing refreshing
            · exact same.trans (calm.stops _)

theorem IsCalm.going_moved {refresher : Refresher} (calm : refresher.IsCalm)
    (going : ∀ task ∈ refresher.tasks, task.hasEnded = false) {moves : List Move}
    (quiet : ∀ move ∈ moves, move.isSignal = true → move = .send false) :
    ∀ task ∈ (refresher.moved moves).tasks, task.hasEnded = false := by
  induction moves generalizing refresher with
  | nil => exact going
  | cons first rest induction =>
      rcases List.forall_mem_cons.mp quiet with ⟨quietFirst, quietRest⟩
      exact induction (calm.move quietFirst) (calm.going_move going first) quietRest

theorem eq_send_false_of_mem_signals {steps : List RefresherStep}
    (quiet : ∀ step ∈ steps, step ≠ .send true ∧ step ≠ .release) {move : Move}
    (member : move ∈ steps.flatMap RefresherStep.signals) : move = .send false := by
  rcases List.mem_flatMap.mp member with ⟨step, among, sent⟩
  cases step with
  | merge strings numbers => contradiction
  | refresh => contradiction
  | start => contradiction
  | sleep time => contradiction
  | release => exact absurd rfl (quiet _ among).2
  | send value =>
      cases value with
      | true => exact absurd rfl (quiet _ among).1
      | false => exact List.mem_singleton.mp sent

/-! ### Stops that are seen in time -/

/-- Every task ends as soon as its refresh is over, which is so by the time `last`. -/
def Finishing (refresher : Refresher) (last : Nat) : Prop :=
  ∀ task ∈ refresher.tasks, task.IsFinishing refresher.signal refresher.clock last

theorem Finishing.poll {refresher : Refresher} {last : Nat}
    (finishing : refresher.Finishing last) (time : Nat) :
    (refresher.atTime time).poll.Finishing last := by
  intro task member
  rcases mem_pollTasks member with ⟨old, among, before, after, now, turn⟩
  rw [clock_poll, show (refresher.atTime time).clock = before.clock from now.symm]
  exact (finishing old among).turn turn

theorem Finishing.waits {refresher : Refresher} {last : Nat}
    (finishing : refresher.Finishing last) : refresher.Waits := by
  intro task member event next
  cases finishing task member with
  | ended isOver => exact RefreshTask.waits_of_ended isOver _ event next
  | refreshing nextTick refresh deadline first stops state limited found ahead inTime soon =>
      rw [RefreshTask.nextEvent?, state] at next
      cases found.symm.trans next
      exact ahead

theorem ended_runTasks {refresher : Refresher} {now time last : Nat}
    (current : refresher.clock = now) (soon : last < time)
    (finishing : refresher.Finishing last) :
    ∀ task ∈ (runTasks now time refresher).tasks, task.hasEnded = true := by
  fun_induction runTasks now time refresher with
  | case1 now refresher found =>
      subst current
      intro task member
      apply RefreshTask.hasEnded_iff.mpr
      cases finishing task member with
      | ended isOver => exact isOver
      | refreshing nextTick refresh deadline event stops state limited next ahead inTime early =>
          have reached := getD_nextEvent?_le finishing.waits time member
            (show task.nextEvent? = some event by rw [RefreshTask.nextEvent?, state]; exact next)
          rw [found] at reached
          have reached : time ≤ event := reached
          omega
  | case2 now refresher event found bounds induction =>
      exact induction (clock_poll _) (finishing.poll event)

theorem ended_waitFor {refresher : Refresher} (timely : refresher.Timely)
    (stops : ∀ task ∈ refresher.tasks, refresher.signal.stops task.seen = true) {time : Nat}
    (long : refreshLimit < time) :
    ∀ task ∈ (refresher.waitFor time).tasks, task.hasEnded = true := by
  have finishing : refresher.poll.Finishing (refresher.clock + refreshLimit) := by
    intro task member
    rcases mem_pollTasks member with ⟨old, among, before, after, now, turn⟩
    have now : before.clock = refresher.clock := now
    rw [clock_poll, ← now]
    rcases (timely old among).stage with isOver | ⟨started, count, began, stage⟩
    · rw [(Prod.mk.inj (turn.eq_of_ended isOver)).1]
      exact .ended isOver
    · rw [← now] at began stage
      exact turn.isFinishing (stops old among) stage began
  unfold waitFor waitUntil
  rw [if_neg (by omega)]
  exact ended_runTasks refresher.clock_poll (by omega) finishing

end Refresher

end LogQuery
