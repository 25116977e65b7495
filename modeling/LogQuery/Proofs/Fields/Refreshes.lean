import LogQuery.Proofs.Fields.Moves

namespace LogQuery

/-- The turns of tasks, and the time that passes until then. -/
def Move.isOfOthers : Move → Bool
  | .turn _ => true
  | .pass _ => true
  | _ => false

/-! ## What a refresh comes to

A refresh fetches the keys of both kinds, one kind after the other, and merges them at the end.
While it waits, tasks may have their turns. -/

namespace Refresher

/-- The reply to the statement that is issued next. -/
def reply (refresher : Refresher) : Reply :=
  refresher.cache.session.nextReply

def withStrings (refresher : Refresher) : Refresher :=
  (refresher.ask .string).waitUntil
    (refresher.clock + min refreshLimit refresher.reply.time)

/-- The waits for both replies. -/
def bothTime (refresher : Refresher) : Nat :=
  refresher.reply.time + refresher.withStrings.reply.time

def withNumbers (refresher : Refresher) : Refresher :=
  (refresher.withStrings.ask .number).waitUntil
    (refresher.clock + min refreshLimit refresher.bothTime)

/-- How a refresh ends, by the reply that it has to each of its statements. -/
inductive Refreshes (refresher : Refresher) : Except ServiceError Unit → Refresher → Prop where
  | first (error : ServiceError)
      (explains : refresher.reply.Explains refresher.reply.time error) :
      Refreshes refresher (.error error) refresher.withStrings
  | second (strings : List String) (error : ServiceError)
      (inTime : refresher.reply.time ≤ refreshLimit)
      (had : refresher.reply.keys = .ok strings)
      (explains : refresher.withStrings.reply.Explains refresher.bothTime error) :
      Refreshes refresher (.error error) refresher.withNumbers
  | both (strings numbers : List String) (inTime : refresher.bothTime ≤ refreshLimit)
      (had : refresher.reply.keys = .ok strings)
      (hadToo : refresher.withStrings.reply.keys = .ok numbers) :
      Refreshes refresher (.ok ()) (refresher.withNumbers.merge strings numbers)

theorem cache_ask (refresher : Refresher) (kind : FieldKind) :
    (refresher.ask kind).cache = refresher.cache.ask refresher.schema kind := by
  rw [ask, FieldCache.beginFetch_eq]

theorem clock_ask (refresher : Refresher) (kind : FieldKind) :
    (refresher.ask kind).clock = refresher.clock := by
  rw [clock, cache_ask]
  rfl

theorem clock_runTasks (refresher : Refresher) (now time : Nat) :
    (runTasks now time refresher).clock = time := by
  fun_induction runTasks now time refresher with
  | case1 => rfl
  | case2 _ _ _ _ _ induction => exact induction

theorem clock_waitUntil {refresher : Refresher} {time : Nat} (ahead : refresher.clock ≤ time) :
    (refresher.waitUntil time).clock = time := by
  rw [waitUntil]
  split
  · next past => exact Nat.le_antisymm ahead past
  · exact clock_runTasks _ _ _

theorem clock_withStrings (refresher : Refresher) :
    refresher.withStrings.clock = refresher.clock + min refreshLimit refresher.reply.time := by
  apply clock_waitUntil
  rw [clock_ask]
  exact Nat.le_add_right _ _

theorem awaitKeys_eq (refresher : Refresher) (kind : FieldKind) (deadline : Nat) :
    refresher.awaitKeys kind deadline =
      ((⟨refresher.clock + refresher.reply.time, refresher.reply.keys⟩ : PendingKeys).resultBy
          deadline,
        (refresher.ask kind).waitUntil
          (min deadline (refresher.clock + refresher.reply.time))) := by
  rw [awaitKeys, ask, FieldCache.beginFetch_eq]
  rfl

theorem refreshes_refresh (refresher : Refresher) :
    refresher.Refreshes refresher.refresh.1 refresher.refreshed := by
  have between := refresher.clock_withStrings
  rw [refreshed, refresh, awaitKeys_eq, Nat.add_min_add_left, ← withStrings]
  cases first : PendingKeys.resultBy _ _ with
  | error error => exact .first error (Reply.resultBy_eq_error_iff.mp first)
  | ok strings =>
      rcases Reply.resultBy_eq_ok_iff.mp first with ⟨inTime, had⟩
      rw [Nat.min_eq_right inTime] at between
      dsimp only
      rw [awaitKeys_eq, between, Nat.add_assoc, ← bothTime, Nat.add_min_add_left, ← withNumbers]
      cases second : PendingKeys.resultBy _ _ with
      | error error =>
          dsimp only
          exact .second strings error inTime had (Reply.resultBy_eq_error_iff.mp second)
      | ok numbers =>
          rcases Reply.resultBy_eq_ok_iff.mp second with ⟨bothInTime, hadToo⟩
          dsimp only
          exact .both strings numbers bothInTime had hadToo

/-! ## A refresh beside others

Whatever tasks do while a refresh waits, the refresh itself only asks, until it merges at its
end or fails. -/

def WaitedBeside (before after : Refresher) : Prop :=
  ∃ moves, (∀ move ∈ moves, move.isOfOthers = true) ∧ after = before.moved moves

/-- How a refresh ends, by what others did in between. -/
inductive RunsBeside (refresher : Refresher) : Except ServiceError Unit → Refresher → Prop where
  | first (error : ServiceError) (between : Refresher)
      (waited : (refresher.ask .string).WaitedBeside between)
      (explains : refresher.reply.Explains refresher.reply.time error) :
      RunsBeside refresher (.error error) between
  | second (strings : List String) (error : ServiceError) (between last : Refresher)
      (waited : (refresher.ask .string).WaitedBeside between)
      (inTime : refresher.reply.time ≤ refreshLimit) (had : refresher.reply.Yields strings)
      (waitedToo : (between.ask .number).WaitedBeside last)
      (explains : between.reply.Explains (refresher.reply.time + between.reply.time) error) :
      RunsBeside refresher (.error error) last
  | both (strings numbers : List String) (between last : Refresher)
      (waited : (refresher.ask .string).WaitedBeside between)
      (had : refresher.reply.Yields strings)
      (waitedToo : (between.ask .number).WaitedBeside last)
      (hadToo : between.reply.Yields numbers)
      (inTime : refresher.reply.time + between.reply.time ≤ refreshLimit) :
      RunsBeside refresher (.ok ()) (last.merge strings numbers)

theorem isOfOthers_round (refresher : Refresher) :
    ∀ move ∈ refresher.round, move.isOfOthers = true := by
  intro move member
  rcases List.mem_map.mp member with ⟨number, _, same⟩
  rw [← same]
  rfl

theorem isOfOthers_passMoves (refresher : Refresher) (now time : Nat) :
    ∀ move ∈ passMoves now time refresher, move.isOfOthers = true := by
  fun_induction passMoves now time refresher with
  | case1 => simp [Move.isOfOthers]
  | case2 now refresher event found bounds induction =>
      simp only [List.forall_mem_cons, List.forall_mem_append]
      exact ⟨rfl, isOfOthers_round _, induction⟩

theorem moved_passMoves (refresher : Refresher) (now time : Nat) :
    refresher.moved (passMoves now time refresher) = runTasks now time refresher := by
  fun_induction passMoves now time refresher with
  | case1 now refresher found =>
      rw [runTasks]
      split
      · rfl
      · next other => rw [found] at other; contradiction
  | case2 now refresher event found bounds induction =>
      have polled := (refresher.atTime event).reaches_poll.moved
      rw [runTasks]
      split
      · next other => rw [found] at other; contradiction
      · next other same =>
          cases Option.some.inj (found.symm.trans same)
          rw [← induction, ← polled]
          exact List.foldl_append

theorem waitedBeside_waitUntil (refresher : Refresher) (time : Nat) :
    refresher.WaitedBeside (refresher.waitUntil time) := by
  unfold waitUntil
  split
  · exact ⟨[], List.forall_mem_nil _, rfl⟩
  · refine ⟨refresher.round ++ passMoves refresher.clock time refresher.poll, ?_, ?_⟩
    · exact List.forall_mem_append.mpr ⟨refresher.isOfOthers_round, isOfOthers_passMoves _ _ _⟩
    · rw [← moved_passMoves, ← refresher.reaches_poll.moved]
      exact List.foldl_append.symm

theorem runsBeside_refresh (refresher : Refresher) :
    refresher.RunsBeside refresher.refresh.1 refresher.refreshed := by
  have run := refresher.refreshes_refresh
  generalize refresher.refresh.1 = outcome at run
  generalize refresher.refreshed = after at run
  have waited : (refresher.ask .string).WaitedBeside refresher.withStrings :=
    waitedBeside_waitUntil _ _
  have waitedToo : (refresher.withStrings.ask .number).WaitedBeside refresher.withNumbers :=
    waitedBeside_waitUntil _ _
  cases run with
  | first error explains => exact .first error _ waited explains
  | second strings error inTime had explains =>
      exact .second strings error _ _ waited inTime (Reply.keys_eq_ok_iff.mp had) waitedToo
        explains
  | both strings numbers inTime had hadToo =>
      exact .both strings numbers _ _ waited (Reply.keys_eq_ok_iff.mp had) waitedToo
        (Reply.keys_eq_ok_iff.mp hadToo) inTime

end Refresher

/-! ## A refresh on its own

Tasks that rest, and whose ticks are not due before the end of a wait, do not touch the
cache: only time passes. -/

namespace RefreshTask

def IsIdle (last : Nat) (task : RefreshTask) : Prop :=
  task.state = .ended ∨ ∃ nextTick, task.state = .resting nextTick ∧ last ≤ nextTick

variable {last : Nat} {task : RefreshTask}

theorem IsIdle.le_of_nextEvent? (idle : task.IsIdle last) {event : Nat}
    (next : task.nextEvent? = some event) : last ≤ event := by
  rcases idle with state | ⟨nextTick, state, later⟩
  · rw [nextEvent?, state] at next
    contradiction
  · rw [nextEvent?, state] at next
    exact Option.some.inj next ▸ later

theorem isIdle_rest (signal : StopSignal) (seen : Nat) {nextTick : Nat} (later : last ≤ nextTick) :
    (rest signal seen nextTick).IsIdle last := by
  unfold rest
  split
  · exact .inl rfl
  · exact .inr ⟨nextTick, rfl, later⟩

theorem IsIdle.turn (idle : task.IsIdle last) {schema : Schema} {signal : StopSignal}
    {cache : FieldCache} {polled : RefreshTask × FieldCache} (early : cache.clock < last)
    (turn : Turn schema signal task cache polled) : polled.1.IsIdle last ∧ polled.2 = cache := by
  rcases idle with state | ⟨nextTick, state, later⟩
  · rw [turn.eq_of_ended state]
    exact ⟨.inl state, rfl⟩
  · cases turn with
    | ended isOver => cases state.symm.trans isOver
    | rests tick resting _ =>
        cases state.symm.trans resting
        exact ⟨isIdle_rest signal task.seen later, rfl⟩
    | begins tick resting due =>
        cases state.symm.trans resting
        omega
    | goesOn tick refresh refreshing => cases state.symm.trans refreshing

end RefreshTask

namespace Refresher

theorem pollTasks_of_idle {schema : Schema} {signal : StopSignal} {tickFirst : Bool} {last : Nat}
    {tasks : List RefreshTask} {cache : FieldCache} (idle : ∀ task ∈ tasks, task.IsIdle last)
    (early : cache.clock < last) :
    (∀ task ∈ (pollTasks schema signal tickFirst tasks cache).1, task.IsIdle last) ∧
      (pollTasks schema signal tickFirst tasks cache).2 = cache := by
  induction tasks with
  | nil => exact ⟨List.forall_mem_nil _, rfl⟩
  | cons task tasks induction =>
      rcases List.forall_mem_cons.mp idle with ⟨first, rest⟩
      have turned := first.turn early (task.turn_poll schema signal tickFirst cache)
      rcases polled : task.poll schema signal tickFirst cache with ⟨after, next⟩
      rw [polled] at turned
      rcases turned with ⟨stays, same⟩
      have same : next = cache := same
      rcases induction rest with ⟨others, unchanged⟩
      rw [pollTasks, polled, same]
      exact ⟨List.forall_mem_cons.mpr ⟨stays, others⟩, unchanged⟩

def IsIdle (last : Nat) (refresher : Refresher) : Prop :=
  ∀ task ∈ refresher.tasks, task.IsIdle last

variable {refresher : Refresher} {last : Nat}

theorem IsIdle.nextEvent?_eq_none (idle : refresher.IsIdle last) {first time : Nat}
    (within : time ≤ last) : refresher.nextEvent? first time = none := by
  cases found : refresher.nextEvent? first time with
  | none => rfl
  | some event =>
      have bounds := nextEvent?_bounds found
      have member := (List.mem_filter.mp (List.min?_mem found)).1
      rcases List.mem_filterMap.mp member with ⟨task, among, next⟩
      have later := (idle task among).le_of_nextEvent? next
      omega

/-- What a wait does where no task has anything to do. -/
structure OnlyWaited (last time : Nat) (before after : Refresher) : Prop where
  idle : after.IsIdle last
  cache : after.cache = before.cache.atTime time
  schema : after.schema = before.schema

theorem IsIdle.onlyWaited (idle : refresher.IsIdle last) {time : Nat}
    (ahead : refresher.clock ≤ time) (within : time ≤ last) :
    OnlyWaited last time refresher (refresher.waitUntil time) := by
  unfold waitUntil
  split
  · next past =>
      have now : time = refresher.clock := Nat.le_antisymm past ahead
      subst now
      exact ⟨idle, rfl, rfl⟩
  · next future =>
      have early : refresher.cache.clock < last :=
        Nat.lt_of_lt_of_le (Nat.lt_of_not_le future) within
      have turns := @pollTasks_of_idle refresher.schema refresher.signal
        (refresher.tickFirst refresher.clock) last refresher.tasks refresher.cache idle early
      have stays : refresher.poll.IsIdle last := turns.1
      have same : refresher.poll.cache = refresher.cache := turns.2
      rw [runTasks]
      split
      · exact ⟨stays, congrArg (FieldCache.atTime · time) same, rfl⟩
      · next event found =>
          rw [stays.nextEvent?_eq_none within] at found
          contradiction

theorem IsIdle.asked (idle : refresher.IsIdle last) (kind : FieldKind) {time : Nat}
    (ahead : refresher.clock ≤ time) (within : time ≤ last) :
    ((refresher.ask kind).waitUntil time).IsIdle last ∧
      ((refresher.ask kind).waitUntil time).cache =
        (refresher.cache.ask refresher.schema kind).atTime time ∧
      ((refresher.ask kind).waitUntil time).schema = refresher.schema := by
  have asking : (refresher.ask kind).IsIdle last := idle
  have waited := asking.onlyWaited (by rwa [clock_ask]) within
  refine ⟨waited.idle, ?_, waited.schema⟩
  rw [waited.cache, cache_ask]

end Refresher

end LogQuery
