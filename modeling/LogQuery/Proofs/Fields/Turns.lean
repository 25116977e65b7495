import LogQuery.Fields.Refresher
import LogQuery.Proofs.Fields.Fetches
import LogQuery.Proofs.Fields.History

namespace LogQuery

namespace FieldCache

/-- What may happen to the cache while no time passes. -/
structure Grows (before after : FieldCache) (added : List Statement) : Prop where
  clock : after.clock = before.clock
  snapshot : before.snapshot.Extends after.snapshot
  issued : after.session.issued = before.session.issued ++ added

theorem Grows.refl (cache : FieldCache) : cache.Grows cache [] :=
  ⟨rfl, fun _ => List.prefix_rfl, (List.append_nil _).symm⟩

theorem Grows.trans {first middle last : FieldCache} {added more : List Statement}
    (one : first.Grows middle added) (other : middle.Grows last more) :
    first.Grows last (added ++ more) where
  clock := other.clock.trans one.clock
  snapshot := one.snapshot.trans other.snapshot
  issued := by rw [other.issued, one.issued, List.append_assoc]

def keysRequest (cache : FieldCache) (schema : Schema) (kind : FieldKind) : Statement :=
  ⟨cache.clock, keysStatement schema kind cache.session.seconds⟩

/-- A fetch issues one statement, at the time at which it begins. -/
theorem grows_beginFetch (cache : FieldCache) (schema : Schema) (kind : FieldKind) :
    cache.Grows (cache.beginFetch schema kind).2 [cache.keysRequest schema kind] where
  clock := cache.beginFetch_clock schema kind
  snapshot _ := List.prefix_rfl
  issued := by
    rw [beginFetch_eq]
    rfl

theorem grows_merge (cache : FieldCache) (strings numbers : List String) :
    cache.Grows (cache.merge strings numbers) [] where
  clock := rfl
  snapshot := cache.extends_run [.merge strings numbers]
  issued := (List.append_nil _).symm

end FieldCache

/-! ## Refreshes

A refresh has one deadline, and looks for what comes next only when it is due. -/

namespace Refresh

def deadline? : Refresh → Option Nat
  | .awaitingStrings deadline _ => some deadline
  | .awaitingNumbers deadline _ _ => some deadline
  | .ended _ => none

/-- A refresh after it was looked at: over, or waiting for something that is yet to come and
that comes by the deadline. -/
inductive IsWaiting (clock deadline : Nat) (refresh : Refresh) : Prop where
  | finished (result : Except ServiceError Unit) (ended : refresh = .ended result)
  | pending (event : Nat) (limited : refresh.deadline? = some deadline)
      (next : refresh.nextEvent? = some event) (ahead : clock < event)
      (inTime : event ≤ deadline)

theorem advanceNumbers_parts (deadline : Nat) (strings : List String)
    (pending : PendingKeys) (cache : FieldCache) :
    cache.Grows (advanceNumbers deadline strings pending cache).2 [] ∧
      (advanceNumbers deadline strings pending cache).1.IsWaiting cache.clock deadline := by
  unfold advanceNumbers
  split
  · next early =>
      exact ⟨.refl cache, .pending _ rfl rfl early (Nat.min_le_left _ _)⟩
  · split
    · exact ⟨.refl cache, .finished _ rfl⟩
    · next numbers _ => exact ⟨cache.grows_merge _ numbers, .finished _ rfl⟩

/-- Only the number keys may be asked for when a refresh is looked at. -/
theorem advance_parts (schema : Schema) (refresh : Refresh) (cache : FieldCache) :
    ∃ added, cache.Grows (refresh.advance schema cache).2 added ∧
      (added = [] ∨ added = [cache.keysRequest schema .number]) ∧
      ∀ deadline, refresh.deadline? = some deadline →
        (refresh.advance schema cache).1.IsWaiting cache.clock deadline := by
  cases refresh with
  | ended result => exact ⟨[], .refl cache, .inl rfl, fun _ none => nomatch none⟩
  | awaitingNumbers deadline strings pending =>
      rcases advanceNumbers_parts deadline strings pending cache with ⟨grows, waiting⟩
      exact ⟨[], grows, .inl rfl, fun _ limited => Option.some.inj limited ▸ waiting⟩
  | awaitingStrings deadline pending =>
      rw [advance]
      split
      · next early =>
          refine ⟨[], .refl cache, .inl rfl, fun _ limited => ?_⟩
          cases limited
          exact .pending _ rfl rfl early (Nat.min_le_left _ _)
      · split
        · exact ⟨[], .refl cache, .inl rfl, fun _ _ => .finished _ rfl⟩
        · next strings _ =>
            have asked := cache.grows_beginFetch schema .number
            rcases begun : cache.beginFetch schema .number with ⟨fetch, next⟩
            rw [begun] at asked
            rcases advanceNumbers_parts deadline strings fetch next with ⟨grows, waiting⟩
            rw [asked.clock] at waiting
            exact ⟨_, asked.trans grows, .inr rfl, fun _ limited =>
              Option.some.inj limited ▸ waiting⟩

/-- A refresh asks for the text keys at once, and has a minute. -/
theorem start_parts (schema : Schema) (cache : FieldCache) :
    ∃ added, cache.Grows (start schema cache).2 (cache.keysRequest schema .string :: added) ∧
      (start schema cache).1.IsWaiting cache.clock (cache.clock + refreshLimit) := by
  have asked := cache.grows_beginFetch schema .string
  unfold start
  rcases begun : cache.beginFetch schema .string with ⟨fetch, next⟩
  rw [begun] at asked
  rcases advance_parts schema (.awaitingStrings (cache.clock + refreshLimit) fetch) next with
    ⟨added, grows, _, waiting⟩
  refine ⟨added, asked.trans grows, ?_⟩
  rw [← asked.clock]
  rw [← asked.clock] at waiting
  exact waiting _ rfl

end Refresh

theorem keysStatement_ne (schema : Schema) (seconds : Int) :
    keysStatement schema .string seconds ≠ keysStatement schema .number seconds := by
  intro same
  unfold keysStatement at same
  simp only [String.append_left_inj, String.append_right_inj] at same
  exact absurd same (by decide)

/-! ## Turns

The ticks of a task come a day apart. Between two of them it rests, and before that it may
refresh, for a minute at most. -/

/-- The time of a tick. The task starts at its tick zero, without a refresh. -/
def tickTime (started count : Nat) : Nat :=
  started + count * refreshPeriod

theorem tickTime_zero (started : Nat) : tickTime started 0 = started := by
  rw [tickTime, Nat.zero_mul, Nat.add_zero]

theorem tickTime_succ (started count : Nat) :
    tickTime started (count + 1) = tickTime started count + refreshPeriod := by
  rw [tickTime, tickTime, Nat.succ_mul, Nat.add_assoc]

theorem refreshLimit_lt : refreshLimit < refreshPeriod := by
  decide

/-! A stop that is sent is new to every task. -/

namespace StopSignal

theorem version_le_send (signal : StopSignal) (value : Bool) :
    signal.version ≤ (signal.send value).version := by
  unfold send
  split
  · exact Nat.le_succ _
  · exact Nat.le_refl _

theorem stops_send {signal : StopSignal} {seen : Nat} (bound : seen ≤ signal.version) :
    (signal.send true).stops seen = true := by
  rw [send]
  split
  · rw [stops, decide_eq_true (Nat.ne_of_gt (Nat.lt_succ_of_le bound))]
    rfl
  · next lost => rw [stops, (Bool.not_eq_true _).mp lost, Bool.not_false, Bool.or_true]

end StopSignal

namespace RefreshTask

/-- Where a task stands that had `count` ticks and has nothing overdue. -/
inductive Stage (started count clock : Nat) : TaskState → Prop where
  | resting (early : clock ≤ tickTime started (count + 1)) :
      Stage started count clock (.resting (tickTime started (count + 1)))
  | refreshing (refresh : Refresh) (event : Nat)
      (limited : refresh.deadline? = some (tickTime started count + refreshLimit))
      (next : refresh.nextEvent? = some event) (early : clock ≤ event)
      (inTime : event ≤ tickTime started count + refreshLimit) :
      Stage started count clock (.refreshing (tickTime started (count + 1)) refresh)

theorem stage_start (clock : Nat) : Stage clock 0 clock (start clock).state := by
  have first : clock + refreshPeriod = tickTime clock (0 + 1) := by
    rw [tickTime_succ, tickTime_zero]
  unfold start
  rw [first]
  exact .resting (first ▸ Nat.le_add_right _ _)

/-- A task that had its turn: it saw a stop and ended, or goes on and waits for something that
is yet to come. -/
inductive HadTurn (signal : StopSignal) (seen started count clock : Nat)
    (task : RefreshTask) : Prop where
  | ended (stops : signal.stops seen = true) (isOver : task.state = .ended)
  | going (stage : Stage started count clock task.state)
      (ahead : ∀ event, task.nextEvent? = some event → clock < event)

variable {signal : StopSignal} {seen started count clock : Nat}

theorem rest_of_stops (stops : signal.stops seen = true) (nextTick : Nat) :
    rest signal seen nextTick = ⟨signal.version, .ended⟩ := by
  unfold rest
  rw [if_pos stops]

theorem hadTurn_rest (early : clock < tickTime started (count + 1)) :
    (rest signal seen (tickTime started (count + 1))).HadTurn signal seen started count
      clock := by
  unfold rest
  split
  · next stops => exact .ended stops rfl
  · exact .going (.resting (Nat.le_of_lt early)) fun event next => Option.some.inj next ▸ early

theorem continueRefresh_of_ended {refreshed : Refresh × FieldCache}
    {result : Except ServiceError Unit} (ended : refreshed.1 = .ended result) (nextTick : Nat) :
    continueRefresh signal seen nextTick refreshed =
      (rest signal seen nextTick, refreshed.2) := by
  rcases refreshed with ⟨refresh, cache⟩
  cases ended
  rfl

theorem continueRefresh_of_pending {refreshed : Refresh × FieldCache} {deadline : Nat}
    (limited : refreshed.1.deadline? = some deadline) (nextTick : Nat) :
    continueRefresh signal seen nextTick refreshed =
      (⟨seen, .refreshing nextTick refreshed.1⟩, refreshed.2) := by
  rcases refreshed with ⟨refresh, cache⟩
  cases refresh with
  | ended result => contradiction
  | awaitingStrings => rfl
  | awaitingNumbers => rfl

theorem hadTurn_continueRefresh {refreshed : Refresh × FieldCache}
    (waiting : refreshed.1.IsWaiting clock (tickTime started count + refreshLimit))
    (early : clock < tickTime started (count + 1)) :
    (continueRefresh signal seen (tickTime started (count + 1)) refreshed).1.HadTurn
      signal seen started count clock := by
  cases waiting with
  | finished result ended =>
      rw [continueRefresh_of_ended ended]
      exact hadTurn_rest early
  | pending event limited next ahead inTime =>
      rw [continueRefresh_of_pending limited]
      refine .going (.refreshing _ event limited next (Nat.le_of_lt ahead) inTime) ?_
      intro other same
      rw [show other = event from Option.some.inj (same.symm.trans next)]
      exact ahead

theorem continueRefresh_cases (nextTick : Nat) (refreshed : Refresh × FieldCache) :
    continueRefresh signal seen nextTick refreshed =
        (rest signal seen nextTick, refreshed.2) ∨
      continueRefresh signal seen nextTick refreshed =
        (⟨seen, .refreshing nextTick refreshed.1⟩, refreshed.2) := by
  cases found : refreshed.1 with
  | ended result =>
      exact .inl (continueRefresh_of_ended found nextTick)
  | awaitingStrings deadline pending =>
      rw [← found]
      exact .inr (continueRefresh_of_pending (congrArg Refresh.deadline? found) nextTick)
  | awaitingNumbers deadline strings pending =>
      rw [← found]
      exact .inr (continueRefresh_of_pending (congrArg Refresh.deadline? found) nextTick)

theorem continueRefresh_cache (nextTick : Nat) (refreshed : Refresh × FieldCache) :
    (continueRefresh signal seen nextTick refreshed).2 = refreshed.2 := by
  rcases @continueRefresh_cases signal seen nextTick refreshed with same | same <;> rw [same]

theorem seen_rest (nextTick : Nat) : (rest signal seen nextTick).seen = signal.version := by
  unfold rest
  split <;> rfl

/-- All that a task can do in a turn. -/
inductive Turn (schema : Schema) (signal : StopSignal) (task : RefreshTask)
    (cache : FieldCache) : RefreshTask × FieldCache → Prop where
  | ended (state : task.state = .ended) : Turn schema signal task cache (task, cache)
  | rests (nextTick : Nat) (state : task.state = .resting nextTick)
      (calls : cache.clock < nextTick ∨ signal.stops task.seen = true) :
      Turn schema signal task cache (rest signal task.seen nextTick, cache)
  | begins (nextTick : Nat) (state : task.state = .resting nextTick)
      (due : nextTick ≤ cache.clock) :
      Turn schema signal task cache
        (continueRefresh signal task.seen (nextTick + refreshPeriod)
          (Refresh.start schema cache))
  | goesOn (nextTick : Nat) (refresh : Refresh) (state : task.state = .refreshing nextTick refresh) :
      Turn schema signal task cache
        (continueRefresh signal task.seen nextTick (refresh.advance schema cache))

variable (schema : Schema) (signal : StopSignal) (tickFirst : Bool)

theorem turn_poll (task : RefreshTask) (cache : FieldCache) :
    Turn schema signal task cache (task.poll schema signal tickFirst cache) := by
  unfold poll
  split
  · next state => exact .ended state
  · next nextTick state =>
      split
      · next calls =>
          simp only [Bool.or_eq_true, decide_eq_true_eq, Bool.and_eq_true] at calls
          exact .rests nextTick state (calls.imp_right And.left)
      · next goes =>
          simp only [Bool.or_eq_true, decide_eq_true_eq, not_or, Nat.not_lt] at goes
          exact .begins nextTick state goes.1
  · next nextTick refresh state => exact .goesOn nextTick refresh state

variable {schema} {signal}

theorem Turn.eq_of_ended {task : RefreshTask} {cache : FieldCache}
    {polled : RefreshTask × FieldCache} (turn : Turn schema signal task cache polled)
    (isOver : task.state = .ended) : polled = (task, cache) := by
  cases turn with
  | ended => rfl
  | rests nextTick state => cases state.symm.trans isOver
  | begins nextTick state => cases state.symm.trans isOver
  | goesOn nextTick refresh state => cases state.symm.trans isOver

theorem Turn.eq_of_refreshing {task : RefreshTask} {cache : FieldCache}
    {polled : RefreshTask × FieldCache} (turn : Turn schema signal task cache polled)
    {nextTick : Nat} {refresh : Refresh} (refreshing : task.state = .refreshing nextTick refresh) :
    polled = continueRefresh signal task.seen nextTick (refresh.advance schema cache) := by
  cases turn with
  | ended state => cases state.symm.trans refreshing
  | rests nextTick state => cases state.symm.trans refreshing
  | begins nextTick state => cases state.symm.trans refreshing
  | goesOn nextTick refresh state =>
      cases state.symm.trans refreshing
      rfl

theorem Turn.grows {task : RefreshTask} {cache : FieldCache}
    {polled : RefreshTask × FieldCache} (turn : Turn schema signal task cache polled) :
    ∃ added, cache.Grows polled.2 added := by
  cases turn with
  | ended => exact ⟨[], .refl cache⟩
  | rests => exact ⟨[], .refl cache⟩
  | begins =>
      rcases Refresh.start_parts schema cache with ⟨added, grows, _⟩
      rw [continueRefresh_cache]
      exact ⟨_, grows⟩
  | goesOn nextTick refresh =>
      rcases Refresh.advance_parts schema refresh cache with ⟨added, grows, _⟩
      rw [continueRefresh_cache]
      exact ⟨added, grows⟩

theorem Turn.seen_cases {task : RefreshTask} {cache : FieldCache}
    {polled : RefreshTask × FieldCache} (turn : Turn schema signal task cache polled) :
    polled.1.seen = task.seen ∨ polled.1.seen = signal.version := by
  have seen_continue (nextTick : Nat) (refreshed : Refresh × FieldCache) :
      (continueRefresh signal task.seen nextTick refreshed).1.seen = task.seen ∨
        (continueRefresh signal task.seen nextTick refreshed).1.seen = signal.version := by
    rcases continueRefresh_cases nextTick refreshed with same | same
    · exact .inr (by rw [same, seen_rest])
    · exact .inl (by rw [same])
  cases turn with
  | ended => exact .inl rfl
  | rests => exact .inr (seen_rest _)
  | begins => exact seen_continue _ _
  | goesOn => exact seen_continue _ _

/-- A turn asks for the text keys only at a tick, and counts it then. -/
inductive Ticks (started : Nat) (request : Statement) (clock count : Nat)
    (added : List Statement) : Nat → Prop where
  | no (silent : request ∉ added) : Ticks started request clock count added count
  | yes (asked : request ∈ added) (due : clock = tickTime started (count + 1)) :
      Ticks started request clock count added (count + 1)

theorem Ticks.began {request : Statement} {added : List Statement} {counted : Nat}
    (ticks : Ticks started request clock count added counted)
    (began : tickTime started count ≤ clock) : tickTime started counted ≤ clock := by
  cases ticks with
  | no _ => exact began
  | yes _ due => exact Nat.le_of_eq due.symm

theorem Ticks.clock_le {request : Statement} {added : List Statement} {counted : Nat}
    (ticks : Ticks started request clock count added counted)
    (early : clock ≤ tickTime started (count + 1)) : clock ≤ tickTime started (counted + 1) := by
  cases ticks with
  | no _ => exact early
  | yes _ due =>
      have later := tickTime_succ started (count + 1)
      omega

theorem Turn.parts {task : RefreshTask} {cache : FieldCache}
    {polled : RefreshTask × FieldCache} (turn : Turn schema signal task cache polled)
    (stage : Stage started count cache.clock task.state) :
    ∃ added counted, cache.Grows polled.2 added ∧
      Ticks started (cache.keysRequest schema .string) cache.clock count added counted ∧
      polled.1.HadTurn signal task.seen started counted cache.clock := by
  have limit := refreshLimit_lt
  have next := tickTime_succ started count
  cases turn with
  | ended state =>
      rw [state] at stage
      contradiction
  | rests nextTick state calls =>
      rw [state] at stage
      cases stage with
      | resting early =>
          refine ⟨[], count, .refl cache, .no List.not_mem_nil, ?_⟩
          rcases Nat.lt_or_eq_of_le early with before | due
          · exact hadTurn_rest before
          · have stops := calls.resolve_left (Nat.not_lt_of_le (Nat.le_of_eq due.symm))
            rw [rest_of_stops stops]
            exact .ended stops rfl
  | begins nextTick state due =>
      rw [state] at stage
      cases stage with
      | resting early =>
          have now : cache.clock = tickTime started (count + 1) := Nat.le_antisymm early due
          rcases Refresh.start_parts schema cache with ⟨added, grows, waiting⟩
          rw [continueRefresh_cache]
          refine ⟨_, count + 1, grows, .yes List.mem_cons_self now, ?_⟩
          rw [now] at waiting ⊢
          rw [← tickTime_succ]
          apply hadTurn_continueRefresh waiting
          have later := tickTime_succ started (count + 1)
          omega
  | goesOn nextTick refresh state =>
      rw [state] at stage
      cases stage with
      | refreshing refresh event limited found early inTime =>
          rcases Refresh.advance_parts schema refresh cache with ⟨added, grows, silent, waiting⟩
          rw [continueRefresh_cache]
          refine ⟨added, count, grows, .no ?_, ?_⟩
          · rcases silent with rfl | rfl
            · exact List.not_mem_nil
            · intro member
              have same := List.mem_singleton.mp member
              exact keysStatement_ne schema _ (congrArg Statement.sql same)
          · apply hadTurn_continueRefresh (waiting _ limited)
            omega

/-! ### Turns of a task that is told to stop -/

/-- A task that ends as soon as its refresh is over, which is so by the time `last`. -/
inductive IsFinishing (signal : StopSignal) (clock last : Nat) (task : RefreshTask) : Prop where
  | ended (isOver : task.state = .ended)
  | refreshing (nextTick : Nat) (refresh : Refresh) (deadline event : Nat)
      (stops : signal.stops task.seen = true)
      (state : task.state = .refreshing nextTick refresh)
      (limited : refresh.deadline? = some deadline) (next : refresh.nextEvent? = some event)
      (ahead : clock < event) (inTime : event ≤ deadline) (soon : deadline ≤ last)

variable {deadline last : Nat}

theorem isFinishing_rest (stops : signal.stops seen = true) (nextTick : Nat) :
    (rest signal seen nextTick).IsFinishing signal clock last := by
  rw [rest_of_stops stops]
  exact .ended rfl

theorem isFinishing_continueRefresh {refreshed : Refresh × FieldCache}
    (stops : signal.stops seen = true) (waiting : refreshed.1.IsWaiting clock deadline)
    (soon : deadline ≤ last) (nextTick : Nat) :
    (continueRefresh signal seen nextTick refreshed).1.IsFinishing signal clock last := by
  cases waiting with
  | finished result ended =>
      rw [continueRefresh_of_ended ended]
      exact isFinishing_rest stops nextTick
  | pending event limited next ahead inTime =>
      rw [continueRefresh_of_pending limited]
      exact .refreshing _ _ deadline event stops rfl limited next ahead inTime soon

theorem Turn.isFinishing {task : RefreshTask} {cache : FieldCache}
    {polled : RefreshTask × FieldCache} (turn : Turn schema signal task cache polled)
    (stops : signal.stops task.seen = true)
    (stage : Stage started count cache.clock task.state)
    (began : tickTime started count ≤ cache.clock) :
    polled.1.IsFinishing signal cache.clock (cache.clock + refreshLimit) := by
  cases turn with
  | ended state => exact .ended state
  | rests => exact isFinishing_rest stops _
  | begins =>
      rcases Refresh.start_parts schema cache with ⟨_, _, waiting⟩
      exact isFinishing_continueRefresh stops waiting (Nat.le_refl _) _
  | goesOn nextTick refresh state =>
      rw [state] at stage
      cases stage with
      | refreshing refresh event limited found early inTime =>
          rcases Refresh.advance_parts schema refresh cache with ⟨_, _, _, waiting⟩
          exact isFinishing_continueRefresh stops (waiting _ limited)
            (Nat.add_le_add_right began _) _

theorem IsFinishing.turn {task : RefreshTask} (finishing : task.IsFinishing signal clock last)
    {cache : FieldCache} {polled : RefreshTask × FieldCache}
    (turn : Turn schema signal task cache polled) :
    polled.1.IsFinishing signal cache.clock last := by
  cases finishing with
  | ended isOver =>
      rw [turn.eq_of_ended isOver]
      exact .ended isOver
  | refreshing nextTick refresh deadline event stops state limited next ahead inTime soon =>
      rcases Refresh.advance_parts schema refresh cache with ⟨_, _, _, waiting⟩
      rw [turn.eq_of_refreshing state]
      exact isFinishing_continueRefresh stops (waiting _ limited) soon _

end RefreshTask

end LogQuery
