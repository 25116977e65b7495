import LogQuery.Proofs.Fields.Refreshes

namespace LogQuery

/-! ## All or nothing

A refresh on its own has the next two replies, whatever they are. Either it fails and leaves the
keys as they are, or it adds those of both replies, each to the keys of its kind. -/

namespace FieldCache

def stringReply (cache : FieldCache) : Reply :=
  cache.session.replyAt 0

def numberReply (cache : FieldCache) : Reply :=
  cache.session.replyAt 1

theorem nextReply_eq (cache : FieldCache) : cache.session.nextReply = cache.stringReply :=
  cache.session.nextReply_eq_replyAt

/-- The keys that are new and no empty text, each at its first place. -/
def unseen (known keys : List String) : List String :=
  (keys.filter fun key => key ≠ "" ∧ key ∉ known).eraseDups

/-- What a refresh asks, when it fails, and which keys there are after it. -/
structure IsAllOrNothing (schema : Schema) (before : FieldCache)
    (outcome : Except ServiceError Unit) (after : FieldCache) : Prop where
  asksOnce : before.stringReply.Fails ∨ refreshLimit < before.stringReply.time →
    after.session.issued = before.session.issued ++ [before.keysRequest schema .string]
  asksTwice : ¬ before.stringReply.Fails → before.stringReply.time ≤ refreshLimit →
    after.session.issued = before.session.issued ++
      [before.keysRequest schema .string,
        (before.atTime (before.clock + before.stringReply.time)).keysRequest schema .number]
  fails : (∃ error, outcome = .error error) ↔
    before.stringReply.Fails ∨ before.numberReply.Fails ∨
      refreshLimit < before.stringReply.time + before.numberReply.time
  cancelled : outcome = .error .refreshTimeout ↔
    refreshLimit < before.stringReply.time ∨
      (¬ before.stringReply.Fails ∧
        refreshLimit < before.stringReply.time + before.numberReply.time)
  keeps : ∀ error, outcome = .error error → after.snapshot = before.snapshot
  adds : outcome = .ok () → ∃ strings numbers,
    before.stringReply.Yields strings ∧ before.numberReply.Yields numbers ∧
    after.snapshot.strings.toList =
      before.snapshot.strings.toList ++ unseen before.snapshot.strings.toList strings ∧
    after.snapshot.numbers.toList =
      before.snapshot.numbers.toList ++ unseen before.snapshot.numbers.toList numbers

theorem toList_insertMany_unseen (set : KeySet) (keys : List String) :
    (set.insertMany (keys.filter (· ≠ ""))).toList =
      set.toList ++ unseen set.toList keys := by
  rw [KeySet.toList_insertMany, List.filter_filter, unseen]
  simp only [ne_eq, decide_not, Bool.decide_and, Bool.and_comm]

/-- Once one statement is issued, the next one has the second reply. -/
theorem nextReply_ask (cache : FieldCache) (schema : Schema) (kind : FieldKind) (time : Nat) :
    ((cache.ask schema kind).atTime time).session.nextReply = cache.numberReply := by
  rw [nextReply_eq]
  exact cache.session.replyAt_issue (keysStatement schema kind cache.session.seconds) 0

section

variable {schema : Schema} {before after : FieldCache} {error : ServiceError}
  {strings numbers : List String}

theorem isAllOrNothing_of_first
    (explains : before.stringReply.Explains before.stringReply.time error)
    (issued : after.session.issued =
      before.session.issued ++ [before.keysRequest schema .string])
    (kept : after.snapshot = before.snapshot) :
    before.IsAllOrNothing schema (.error error) after where
  asksOnce _ := issued
  asksTwice sound inTime := by
    rcases explains.fails_or_late with fails | late
    · exact absurd fails sound
    · omega
  fails := by
    refine iff_of_true ⟨error, rfl⟩ (explains.fails_or_late.imp_right fun late => .inr ?_)
    omega
  cancelled := by
    rw [Except.error.injEq, explains.refreshTimeout_iff]
    constructor
    · exact .inl
    · intro why
      rcases why with late | ⟨sound, _⟩
      · exact late
      · exact explains.fails_or_late.resolve_left sound
  keeps _ _ := kept
  adds := nofun

/-- The cache once both statements of a refresh are issued. -/
def askBoth (cache : FieldCache) (schema : Schema) : FieldCache :=
  ((cache.ask schema .string).atTime (cache.clock + cache.stringReply.time)).ask schema .number

def keysRequests (cache : FieldCache) (schema : Schema) : List Statement :=
  [cache.keysRequest schema .string,
    (cache.atTime (cache.clock + cache.stringReply.time)).keysRequest schema .number]

theorem issued_askBoth (cache : FieldCache) (schema : Schema) :
    (cache.askBoth schema).session.issued =
      cache.session.issued ++ cache.keysRequests schema :=
  List.append_assoc cache.session.issued _ _

theorem isAllOrNothing_of_second (had : before.stringReply.keys = .ok strings)
    (inTime : before.stringReply.time ≤ refreshLimit)
    (explains : before.numberReply.Explains
      (before.stringReply.time + before.numberReply.time) error)
    (issued : after.session.issued = before.session.issued ++ before.keysRequests schema)
    (kept : after.snapshot = before.snapshot) :
    before.IsAllOrNothing schema (.error error) after where
  asksOnce why := by
    rcases why with fails | late
    · exact absurd fails (Reply.not_fails_of_keys_eq_ok had)
    · omega
  asksTwice _ _ := issued
  fails := iff_of_true ⟨error, rfl⟩ (.inr explains.fails_or_late)
  cancelled := by
    rw [Except.error.injEq, explains.refreshTimeout_iff]
    constructor
    · intro late
      exact .inr ⟨Reply.not_fails_of_keys_eq_ok had, late⟩
    · intro why
      rcases why with late | ⟨_, late⟩
      · omega
      · exact late
  keeps _ _ := kept
  adds := nofun

theorem isAllOrNothing_of_both (had : before.stringReply.keys = .ok strings)
    (hadToo : before.numberReply.keys = .ok numbers)
    (inTime : before.stringReply.time + before.numberReply.time ≤ refreshLimit)
    (issued : after.session.issued = before.session.issued ++ before.keysRequests schema)
    (merged : after.snapshot = before.snapshot.merge strings numbers) :
    before.IsAllOrNothing schema (.ok ()) after where
  asksOnce why := by
    rcases why with fails | late
    · exact absurd fails (Reply.not_fails_of_keys_eq_ok had)
    · omega
  asksTwice _ _ := issued
  fails := by
    refine iff_of_false (by simp) ?_
    intro why
    rcases why with fails | fails | late
    · exact Reply.not_fails_of_keys_eq_ok had fails
    · exact Reply.not_fails_of_keys_eq_ok hadToo fails
    · omega
  cancelled := by
    refine iff_of_false (by simp) ?_
    omega
  keeps _ failed := by contradiction
  adds _ := by
    refine ⟨strings, numbers, Reply.keys_eq_ok_iff.mp had, Reply.keys_eq_ok_iff.mp hadToo, ?_⟩
    rw [merged]
    exact ⟨toList_insertMany_unseen _ strings, toList_insertMany_unseen _ numbers⟩

end

end FieldCache

namespace Refresher

variable {refresher : Refresher}

theorem reply_eq (refresher : Refresher) : refresher.reply = refresher.cache.stringReply :=
  refresher.cache.nextReply_eq

theorem IsIdle.withStrings (idle : refresher.IsIdle (refresher.clock + refreshLimit)) :
    refresher.withStrings.IsIdle (refresher.clock + refreshLimit) ∧
      refresher.withStrings.cache = (refresher.cache.ask refresher.schema .string).atTime
        (refresher.clock + min refreshLimit refresher.reply.time) ∧
      refresher.withStrings.schema = refresher.schema :=
  idle.asked .string (Nat.le_add_right _ _) (Nat.add_le_add_left (Nat.min_le_left _ _) _)

/-- While nobody else asks, the second reply is that to the number keys. -/
theorem IsIdle.reply_withStrings (idle : refresher.IsIdle (refresher.clock + refreshLimit)) :
    refresher.withStrings.reply = refresher.cache.numberReply := by
  rw [reply, idle.withStrings.2.1]
  exact FieldCache.nextReply_ask _ _ _ _

theorem IsIdle.cache_withNumbers (idle : refresher.IsIdle (refresher.clock + refreshLimit))
    (inTime : refresher.reply.time ≤ refreshLimit) :
    refresher.withNumbers.cache = (refresher.cache.askBoth refresher.schema).atTime
      (refresher.clock + min refreshLimit refresher.bothTime) := by
  rcases idle.withStrings with ⟨stays, cache, schema⟩
  have within := Nat.add_le_add_left (Nat.min_le_left refreshLimit refresher.bothTime)
    refresher.clock
  have ahead : refresher.withStrings.clock ≤
      refresher.clock + min refreshLimit refresher.bothTime := by
    rw [clock_withStrings]
    unfold bothTime
    omega
  rw [withNumbers, (stays.asked .number ahead within).2.1, cache, schema,
    Nat.min_eq_right inTime, reply_eq, FieldCache.askBoth]
  rfl

theorem isAllOrNothing_refresh (idle : refresher.IsIdle (refresher.clock + refreshLimit)) :
    refresher.cache.IsAllOrNothing refresher.schema refresher.refresh.1
      refresher.refreshed.cache := by
  have run := refresher.refreshes_refresh
  generalize refresher.refresh.1 = outcome at run
  generalize refresher.refreshed = after at run
  have issued := refresher.cache.issued_askBoth refresher.schema
  have bothTime : refresher.bothTime =
      refresher.cache.stringReply.time + refresher.cache.numberReply.time := by
    rw [Refresher.bothTime, idle.reply_withStrings, reply_eq]
  cases run with
  | first error explains =>
      rw [reply_eq] at explains
      rw [idle.withStrings.2.1]
      exact FieldCache.isAllOrNothing_of_first explains rfl rfl
  | second strings error inTime had explains =>
      rw [idle.reply_withStrings, bothTime] at explains
      rw [idle.cache_withNumbers inTime]
      rw [reply_eq] at inTime had
      exact FieldCache.isAllOrNothing_of_second had inTime explains issued rfl
  | both strings numbers inTime had hadToo =>
      have firstInTime : refresher.reply.time ≤ refreshLimit :=
        Nat.le_trans (Nat.le_add_right _ _) inTime
      have merged : (refresher.withNumbers.merge strings numbers).cache =
          ((refresher.cache.askBoth refresher.schema).atTime _).merge strings numbers :=
        congrArg (FieldCache.merge · strings numbers) (idle.cache_withNumbers firstInTime)
      rw [bothTime] at inTime
      rw [idle.reply_withStrings] at hadToo
      rw [reply_eq] at had
      rw [merged]
      exact FieldCache.isAllOrNothing_of_both had hadToo inTime issued rfl

end Refresher

namespace Refresh

/-! ## The refresh of a task

A task looks at its refresh whenever it is due. On its own a refresh is over once that was done
twice. -/

def awaited (schema : Schema) (begun : Refresh × FieldCache) : Refresh × FieldCache :=
  match begun.1.nextEvent? with
  | none => begun
  | some event => begun.1.advance schema (begun.2.atTime event)

def alone (schema : Schema) (cache : FieldCache) : Refresh × FieldCache :=
  awaited schema (awaited schema (start schema cache))

variable {schema : Schema} {cache : FieldCache} {deadline : Nat} {strings : List String}
  {pending : PendingKeys}

theorem advanceNumbers_of_due (due : min deadline pending.doneAt ≤ cache.clock) :
    advanceNumbers deadline strings pending cache =
      match pending.resultBy deadline with
      | .error error => (.ended (.error error), cache)
      | .ok numbers => (.ended (.ok ()), cache.merge strings numbers) := by
  have onTime : ¬ cache.clock < min deadline pending.doneAt := Nat.not_lt_of_le due
  exact if_neg onTime

/-- Whether or not the number keys are due already, they are once they were waited for. -/
theorem awaited_advanceNumbers (ahead : cache.clock ≤ min deadline pending.doneAt) :
    awaited schema (advanceNumbers deadline strings pending cache) =
      advanceNumbers deadline strings pending (cache.atTime (min deadline pending.doneAt)) := by
  rcases Nat.lt_or_eq_of_le ahead with early | now
  · have waiting : advanceNumbers deadline strings pending cache =
        (.awaitingNumbers deadline strings pending, cache) := by
      rw [advanceNumbers, if_pos early]
    rw [waiting]
    rfl
  · rw [← now]
    have same : cache.atTime cache.clock = cache := rfl
    rw [same, advanceNumbers_of_due (Nat.le_of_eq now.symm)]
    cases pending.resultBy deadline <;> rfl

theorem exists_ended_awaited (ahead : cache.clock ≤ min deadline pending.doneAt) :
    ∃ result after, awaited schema (advanceNumbers deadline strings pending cache) =
      (.ended result, after) := by
  rw [awaited_advanceNumbers ahead, advanceNumbers_of_due (Nat.le_refl _)]
  cases pending.resultBy deadline with
  | error error => exact ⟨_, _, rfl⟩
  | ok numbers => exact ⟨_, _, rfl⟩

theorem advance_of_due (due : min deadline pending.doneAt ≤ cache.clock) :
    advance schema (.awaitingStrings deadline pending) cache =
      match pending.resultBy deadline with
      | .error error => (.ended (.error error), cache)
      | .ok strings =>
          advanceNumbers deadline strings
            ⟨cache.clock + cache.session.nextReply.time, cache.session.nextReply.keys⟩
            (cache.ask schema .number) := by
  have onTime : ¬ cache.clock < min deadline pending.doneAt := Nat.not_lt_of_le due
  refine (if_neg onTime).trans ?_
  cases pending.resultBy deadline with
  | error error => rfl
  | ok strings => rw [FieldCache.beginFetch_eq]

/-- The number keys are asked for when the text keys are due, and then they are waited for. -/
theorem awaited_awaited_advance (ahead : cache.clock ≤ min deadline pending.doneAt) :
    awaited schema (awaited schema (advance schema (.awaitingStrings deadline pending) cache)) =
      awaited schema (advance schema (.awaitingStrings deadline pending)
        (cache.atTime (min deadline pending.doneAt))) := by
  rcases Nat.lt_or_eq_of_le ahead with early | now
  · have waiting : advance schema (.awaitingStrings deadline pending) cache =
        (.awaitingStrings deadline pending, cache) := by
      rw [advance, if_pos early]
    rw [waiting]
    rfl
  · rw [← now]
    have same : cache.atTime cache.clock = cache := rfl
    rw [same, advance_of_due (Nat.le_of_eq now.symm)]
    cases pending.resultBy deadline with
    | error error => rfl
    | ok strings =>
        have inTime : cache.clock ≤ deadline := by omega
        rcases @exists_ended_awaited schema (cache.ask schema .number) deadline strings
          ⟨cache.clock + cache.session.nextReply.time, cache.session.nextReply.keys⟩
          (Nat.le_min.mpr ⟨inTime, Nat.le_add_right _ _⟩) with ⟨result, after, ended⟩
        dsimp only
        rw [ended]
        rfl

theorem start_eq (schema : Schema) (cache : FieldCache) :
    start schema cache =
      advance schema (.awaitingStrings (cache.clock + refreshLimit)
        ⟨cache.clock + cache.session.nextReply.time, cache.session.nextReply.keys⟩)
        (cache.ask schema .string) := by
  rw [start, FieldCache.beginFetch_eq]

theorem isAllOrNothing_alone (schema : Schema) (cache : FieldCache) :
    ∃ outcome after, alone schema cache = (.ended outcome, after) ∧
      cache.IsAllOrNothing schema outcome after := by
  have issued := cache.issued_askBoth schema
  have ahead : (cache.ask schema .string).clock ≤
      min (cache.clock + refreshLimit) (cache.clock + cache.stringReply.time) :=
    Nat.le_min.mpr ⟨Nat.le_add_right _ _, Nat.le_add_right _ _⟩
  rw [alone, start_eq, cache.nextReply_eq, awaited_awaited_advance ahead,
    advance_of_due (Nat.le_refl _)]
  cases first : PendingKeys.resultBy _ _ with
  | error error =>
      have explains := Reply.resultBy_eq_error_iff.mp first
      exact ⟨_, _, rfl, FieldCache.isAllOrNothing_of_first explains rfl rfl⟩
  | ok strings =>
      rcases Reply.resultBy_eq_ok_iff.mp first with ⟨inTime, had⟩
      have now : min (cache.clock + refreshLimit) (cache.clock + cache.stringReply.time) =
          cache.clock + cache.stringReply.time :=
        Nat.min_eq_right (Nat.add_le_add_left inTime _)
      have doneAt : ((cache.ask schema .string).atTime
          (cache.clock + cache.stringReply.time)).clock + cache.numberReply.time =
            cache.clock + (cache.stringReply.time + cache.numberReply.time) :=
        Nat.add_assoc _ _ _
      have aheadToo : (cache.askBoth schema).clock ≤ min (cache.clock + refreshLimit)
          (cache.clock + (cache.stringReply.time + cache.numberReply.time)) := by
        rw [Nat.add_min_add_left]
        exact Nat.add_le_add_left (Nat.le_min.mpr ⟨inTime, Nat.le_add_right _ _⟩) _
      dsimp only
      rw [now, cache.nextReply_ask, doneAt, ← FieldCache.askBoth, awaited_advanceNumbers aheadToo,
        advanceNumbers_of_due (Nat.le_refl _)]
      cases second : PendingKeys.resultBy _ _ with
      | error error =>
          have explains := Reply.resultBy_eq_error_iff.mp second
          exact ⟨_, _, rfl, FieldCache.isAllOrNothing_of_second had inTime explains issued rfl⟩
      | ok numbers =>
          rcases Reply.resultBy_eq_ok_iff.mp second with ⟨bothInTime, hadToo⟩
          exact ⟨_, _, rfl, FieldCache.isAllOrNothing_of_both had hadToo bothInTime issued rfl⟩

end Refresh

namespace Refresher

/-- A refresh is all or nothing, whatever the store answers and whatever the cache holds: so is
one that is waited for while no task has anything to do, and that of a task. Where tasks have
turns in between, the refresh merges at its end or not at all. -/
theorem refresh_isAllOrNothing :
    (∀ refresher : Refresher, refresher.IsIdle (refresher.clock + refreshLimit) →
      refresher.cache.IsAllOrNothing refresher.schema refresher.refresh.1
        refresher.refreshed.cache) ∧
    (∀ (schema : Schema) (cache : FieldCache), ∃ outcome after,
      Refresh.alone schema cache = (.ended outcome, after) ∧
        cache.IsAllOrNothing schema outcome after) ∧
    ∀ refresher : Refresher, refresher.RunsBeside refresher.refresh.1 refresher.refreshed :=
  ⟨fun _ idle => isAllOrNothing_refresh idle, Refresh.isAllOrNothing_alone, runsBeside_refresh⟩

/-- A key that is known, one that is empty, one that comes twice, and a cell that is no text. -/
def mixedReply : Reply :=
  ⟨15, .ok ⟨["key"],
    [⟨0, .ok [.text "level"]⟩, ⟨0, .ok [.text ""]⟩, ⟨5, .ok [.text "app"]⟩,
      ⟨0, .ok [.text "user"]⟩, ⟨0, .ok [.integer 1]⟩, ⟨0, .ok [.text "level"]⟩], 0⟩⟩

def refreshedWith (numbers : Reply) : Refresher where
  schema := ⟨"default", []⟩
  cache := ⟨Session.start [mixedReply, numbers], .ofLists ["app"] []⟩

/-- Both replies take a minute together, which is just in time. -/
def punctualReply : Reply :=
  ⟨59980, .ok ⟨["key"], [⟨0, .ok [.text "took", .text "app"]⟩], 0⟩⟩

/-- The second row has no cell. -/
def brokenReply : Reply :=
  ⟨0, .ok ⟨["key"], [⟨0, .ok [.text "took"]⟩, ⟨1, .ok []⟩], 0⟩⟩

theorem refresh_isAllOrNothing_minute :
    (refreshedWith punctualReply).IsIdle ((refreshedWith punctualReply).clock + refreshLimit) ∧
    (refreshedWith punctualReply).refresh.1 = .ok () ∧
    (refreshedWith punctualReply).refreshed.cache.snapshot.strings.toList =
      ["app", "level", "user"] ∧
    (refreshedWith punctualReply).refreshed.cache.snapshot.numbers.toList = ["took"] ∧
    (∃ error, (refreshedWith brokenReply).refresh.1 = .error error) ∧
    (refreshedWith brokenReply).refreshed.cache.snapshot =
      (refreshedWith brokenReply).cache.snapshot := by
  have idle (numbers : Reply) :
      (refreshedWith numbers).IsIdle ((refreshedWith numbers).clock + refreshLimit) :=
    List.forall_mem_nil _
  have whole (numbers : Reply) := refresh_isAllOrNothing.1 (refreshedWith numbers) (idle numbers)
  have had : mixedReply.keys = .ok ["level", "", "app", "user", "level"] := rfl
  have hadToo : punctualReply.keys = .ok ["took"] := rfl
  have succeeded : (refreshedWith punctualReply).refresh.1 = .ok () := by
    cases outcome : (refreshedWith punctualReply).refresh.1 with
    | ok _ => rfl
    | error error =>
        rcases (whole punctualReply).fails.mp ⟨error, outcome⟩ with fails | fails | late
        · exact absurd fails (Reply.not_fails_of_keys_eq_ok had)
        · exact absurd fails (Reply.not_fails_of_keys_eq_ok hadToo)
        · have inTime : (refreshedWith punctualReply).cache.stringReply.time +
              (refreshedWith punctualReply).cache.numberReply.time ≤ refreshLimit := by decide
          exact absurd late (Nat.not_lt_of_le inTime)
  have failed : ∃ error, (refreshedWith brokenReply).refresh.1 = .error error :=
    (whole brokenReply).fails.mpr (.inr (.inl
      (.row _ ⟨1, .ok []⟩ rfl (List.mem_cons_of_mem _ List.mem_cons_self) (.cell rfl))))
  rcases (whole punctualReply).adds succeeded with
    ⟨strings, numbers, first, second, stringKeys, numberKeys⟩
  cases had.symm.trans (Reply.keys_eq_ok_iff.mpr first)
  cases hadToo.symm.trans (Reply.keys_eq_ok_iff.mpr second)
  refine ⟨idle _, succeeded, ?_, ?_, failed, ?_⟩
  · rw [stringKeys]
    simp [refreshedWith, FieldSnapshot.ofLists, FieldSnapshot.merge, FieldSnapshot.empty,
      KeySet.toList_insert, FieldCache.unseen, List.eraseDups_cons]
  · rw [numberKeys]
    simp [refreshedWith, FieldSnapshot.ofLists, FieldSnapshot.merge, FieldSnapshot.empty,
      FieldCache.unseen, List.eraseDups_cons]
  · rcases failed with ⟨error, outcome⟩
    exact (whole brokenReply).keeps error outcome

end Refresher

end LogQuery
