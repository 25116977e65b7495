import LogQuery.Fields.Refresh
import LogQuery.Proofs.Outcome
import LogQuery.Proofs.Store.Process

namespace LogQuery

/-! ## Replies to a fetch

What a fetch comes to depends on the reply alone: on its rows, each of which must have a first
cell, and on the waits between them. -/

namespace RowStep

def HasFirst (step : RowStep) (cell : Cell) : Prop :=
  ∃ rest, step.row = .ok (cell :: rest)

/-- The row cannot be had, or has no cell. -/
inductive Fails (step : RowStep) : Prop where
  | row (error : StoreError) (failed : step.row = .error error)
  | cell (empty : step.row = .ok [])

theorem exists_hasFirst_iff {step : RowStep} : (∃ cell, step.HasFirst cell) ↔ ¬ step.Fails := by
  constructor
  · intro ⟨cell, rest, found⟩ fails
    cases fails with
    | row error failed => cases found.symm.trans failed
    | cell empty => cases found.symm.trans empty
  · intro sound
    cases found : step.row with
    | error error => exact absurd (.row error found) sound
    | ok row =>
        cases row with
        | nil => exact absurd (.cell found) sound
        | cons cell rest => exact ⟨cell, rest, found⟩

/-- The rows of a result are had one by one, and then the first cell of each. -/
theorem exists_rows_iff {steps : List RowStep} {cells : List Cell} :
    (∃ rows : List Row, steps.map RowStep.row = rows.map .ok ∧
      rows.map List.head? = cells.map some) ↔ List.Forall₂ HasFirst steps cells := by
  induction steps generalizing cells with
  | nil => simp
  | cons step steps induction =>
      rw [List.forall₂_cons_left_iff]
      constructor
      · intro ⟨rows, drained, first⟩
        cases rows with
        | nil => contradiction
        | cons row rows =>
            cases cells with
            | nil => contradiction
            | cons cell cells =>
                rcases List.cons_eq_cons.mp drained with ⟨had, later⟩
                rcases List.cons_eq_cons.mp first with ⟨head, heads⟩
                rcases List.head?_eq_some_iff.mp head with ⟨rest, same⟩
                exact ⟨cell, cells, ⟨rest, had.trans (congrArg Except.ok same)⟩,
                  induction.mp ⟨rows, later, heads⟩, rfl⟩
      · intro ⟨cell, others, ⟨rest, found⟩, pairs, same⟩
        rcases induction.mpr pairs with ⟨rows, drained, heads⟩
        exact ⟨(cell :: rest) :: rows, by rw [List.map_cons, found, drained, List.map_cons],
          by rw [List.map_cons, heads, same, List.map_cons]; rfl⟩

end RowStep

theorem keysOfRows_eq_ok_iff {rows : List Row} {keys : List String} :
    keysOfRows rows = .ok keys ↔
      ∃ cells : List Cell, rows.map List.head? = cells.map some ∧
        keys = cells.filterMap Cell.text? := by
  have first {row : Row} {cell : Cell} :
      cellAt row 0 "key" = .ok cell ↔ row.head? = some cell := by
    cases row with
    | nil => constructor <;> nofun
    | cons head rest => simp [cellAt]
  have heads {cells : List Cell} :
      rows.mapM (fun row => cellAt row 0 "key") = .ok cells ↔
        rows.map List.head? = cells.map some := by
    rw [mapM_eq_ok_iff, ← List.forall₂_eq_eq_eq, List.forall₂_map_left_iff,
      List.forall₂_map_right_iff]
    simp only [first]
  rw [keysOfRows, bind_eq_ok_iff]
  simp only [heads, Except.ok.injEq, eq_comm (a := keys)]

theorem exists_store_of_keysOfRows {rows : List Row} {error : ServiceError}
    (failed : keysOfRows rows = .error error) : ∃ cause, error = .store cause := by
  have cell (row : Row) (error : ServiceError) (missing : cellAt row 0 "key" = .error error) :
      ∃ cause, error = .store cause := by
    unfold cellAt at missing
    split at missing <;> cases missing
    exact ⟨_, rfl⟩
  have cells : Decides (∀ row ∈ rows, ∃ cell, cellAt row 0 "key" = .ok cell)
      (fun error => ∃ cause, error = .store cause) (rows.mapM fun row => cellAt row 0 "key") :=
    Decides.mapM fun row _ => ⟨Iff.rfl, cell row⟩
  rw [keysOfRows] at failed
  cases found : rows.mapM fun row => cellAt row 0 "key" with
  | error error =>
      rw [found] at failed
      cases failed
      exact cells.explains error found
  | ok cells =>
      rw [found] at failed
      contradiction

namespace Reply

/-- The statement is refused, or one of the rows fails. -/
inductive Fails (reply : Reply) : Prop where
  | statement (error : StoreError) (refused : reply.outcome = .error error)
  | row (stream : RowStream) (step : RowStep) (answered : reply.outcome = .ok stream)
      (member : step ∈ stream.steps) (fails : step.Fails)

/-- The texts among the first cells of all rows. -/
def Yields (reply : Reply) (keys : List String) : Prop :=
  ∃ stream cells, reply.outcome = .ok stream ∧
    List.Forall₂ RowStep.HasFirst stream.steps cells ∧ keys = cells.filterMap Cell.text?

/-- All that is waited for. -/
def time (reply : Reply) : Nat :=
  reply.wait +
    match reply.outcome with
    | .ok stream => Work.stepsTime Except.ok stream.endWait stream.steps
    | .error _ => 0

/-- What a fetch makes of the reply. -/
def keys (reply : Reply) : Except ServiceError (List String) := do
  let stream ← reply.outcome.mapError .store
  let rows ← stream.values .ok
  keysOfRows rows

variable {reply : Reply}

theorem keys_eq_ok_iff {keys : List String} : reply.keys = .ok keys ↔ reply.Yields keys := by
  simp only [Reply.keys, bind_eq_ok_iff, mapError_eq_ok_iff, RowStream.values_ok_eq_ok_iff,
    keysOfRows_eq_ok_iff]
  constructor
  · intro ⟨stream, answered, rows, drained, cells, heads, same⟩
    exact ⟨stream, cells, answered, RowStep.exists_rows_iff.mp ⟨rows, drained, heads⟩, same⟩
  · intro ⟨stream, cells, answered, pairs, same⟩
    rcases RowStep.exists_rows_iff.mpr pairs with ⟨rows, drained, heads⟩
    exact ⟨stream, answered, rows, drained, cells, heads, same⟩

theorem exists_yields_iff : (∃ keys, reply.Yields keys) ↔ ¬ reply.Fails := by
  constructor
  · intro ⟨keys, stream, cells, answered, pairs, _⟩ fails
    cases fails with
    | statement error refused => cases answered.symm.trans refused
    | row other step same member fails =>
        cases answered.symm.trans same
        have first := exists_forall₂_iff.mp ⟨cells, pairs⟩ step member
        exact RowStep.exists_hasFirst_iff.mp first fails
  · intro sound
    cases answered : reply.outcome with
    | error error => exact absurd (.statement error answered) sound
    | ok stream =>
        have first : ∀ step ∈ stream.steps, ∃ cell, step.HasFirst cell := fun step member =>
          RowStep.exists_hasFirst_iff.mpr fun fails =>
            sound (.row stream step answered member fails)
        rcases exists_forall₂_iff.mpr first with ⟨cells, pairs⟩
        exact ⟨_, stream, cells, answered, pairs, rfl⟩

/-- A fetch succeeds unless something fails, and all that can fail is the store. -/
theorem decides_keys (reply : Reply) :
    Decides (¬ reply.Fails) (fun error => ∃ cause, error = .store cause) reply.keys where
  accepts := by
    simp only [keys_eq_ok_iff]
    exact exists_yields_iff
  explains := by
    intro error failed
    unfold keys at failed
    cases answered : reply.outcome with
    | error cause =>
        rw [answered] at failed
        cases failed
        exact ⟨cause, rfl⟩
    | ok stream =>
        have row (step : RowStep) (error : ServiceError) (failed : step.value .ok = .error error) :
            ∃ cause, error = .store cause := by
          rcases step with ⟨wait, cause | row⟩
          · cases failed
            exact ⟨cause, rfl⟩
          · contradiction
        have rows : Decides (∀ step ∈ stream.steps, ∃ row, step.value .ok = .ok row)
            (fun error => ∃ cause, error = .store cause) (stream.values .ok) :=
          Decides.mapM fun step _ => ⟨Iff.rfl, row step⟩
        rw [answered] at failed
        change (stream.values .ok >>= keysOfRows) = _ at failed
        cases drained : stream.values .ok with
        | error error =>
            rw [drained] at failed
            cases failed
            exact rows.explains error drained
        | ok rows =>
            rw [drained] at failed
            exact exists_store_of_keysOfRows failed

theorem fails_of_keys_eq_error {error : ServiceError} (failed : reply.keys = .error error) :
    reply.Fails := by
  apply Classical.byContradiction
  intro sound
  rcases reply.decides_keys.accepts.mpr sound with ⟨keys, had⟩
  rw [had] at failed
  contradiction

theorem not_fails_of_keys_eq_ok {keys : List String} (had : reply.keys = .ok keys) :
    ¬ reply.Fails :=
  reply.decides_keys.accepts.mp ⟨keys, had⟩

theorem keys_ne_refreshTimeout : reply.keys ≠ .error .refreshTimeout := by
  intro late
  rcases reply.decides_keys.explains _ late with ⟨cause, same⟩
  contradiction

end Reply

namespace Work

theorem execute_rows (stream : RowStream) (session : Session) :
    (rows stream).execute session =
      (stream.values .ok, session.wait (stepsTime Except.ok stream.endWait stream.steps)) := by
  have reads : ∀ (state : List Row) (row : Row),
      (Except.ok (row :: state) : Except ServiceError (List Row)) =
        (Except.ok row).map fun row => row :: state := fun _ _ => rfl
  rw [rows, foldRows, execute_bind, execute_foldSteps reads, RowStream.values]
  cases stream.steps.mapM (RowStep.value Except.ok) with
  | error error => rfl
  | ok rows => simp [Except.map]; rfl

end Work

theorem execute_fetchKeys (schema : Schema) (kind : FieldKind) (session : Session) :
    (fetchKeys schema kind).execute session =
      (session.nextReply.keys,
        (session.issue (keysStatement schema kind session.seconds)).wait
          session.nextReply.time) := by
  have begun : (fetchKeys schema kind).execute session =
      (do
        let stream ← Work.query (keysStatement schema kind session.seconds)
        let rows ← Work.rows stream
        Work.ofExcept (keysOfRows rows) : Work (List String)).execute session :=
    Work.execute_bind get _ session
  rw [begun, Work.execute_bind, Work.execute_query_eq]
  rcases session.nextReply with ⟨wait, error | stream⟩
  · rfl
  · change (Work.rows stream >>= fun rows => Work.ofExcept (keysOfRows rows)).execute _ = _
    rw [Work.execute_bind, Work.execute_rows, Session.wait_wait]
    have made : Reply.keys ⟨wait, .ok stream⟩ = stream.values .ok >>= keysOfRows := rfl
    rw [made]
    cases stream.values .ok with
    | error error => rfl
    | ok rows => exact Work.execute_ofExcept _ _

/-- The reply to a statement before which `position` others are issued. -/
def Session.replyAt (session : Session) (position : Nat) : Reply :=
  session.replies.getD position ⟨0, .error session.exhausted⟩

theorem Session.nextReply_eq_replyAt (session : Session) :
    session.nextReply = session.replyAt 0 := by
  rw [nextReply, replyAt]
  cases session.replies <;> rfl

theorem Session.replyAt_issue (session : Session) (sql : String) (position : Nat) :
    (session.issue sql).replyAt position = session.replyAt (position + 1) := by
  rw [issue, replyAt, replyAt]
  cases session.replies <;> rfl

namespace FieldCache

/-- The cache once a fetch has issued its statement. -/
def ask (cache : FieldCache) (schema : Schema) (kind : FieldKind) : FieldCache :=
  { cache with
    session := cache.session.issue (keysStatement schema kind cache.session.seconds) }

/-- A fetch that begins knows already what it comes to, and when. -/
theorem beginFetch_eq (cache : FieldCache) (schema : Schema) (kind : FieldKind) :
    cache.beginFetch schema kind =
      (⟨cache.clock + cache.session.nextReply.time, cache.session.nextReply.keys⟩,
        cache.ask schema kind) := by
  rw [beginFetch, execute_fetchKeys]
  rfl

end FieldCache

/-! ## Replies within a limit

What is not there by the deadline of a refresh is given up. -/

namespace Reply

/-- The error of a fetch that ends some time after its refresh began: that of the store, or that
the time was over. -/
structure Explains (reply : Reply) (time : Nat) (error : ServiceError) : Prop where
  inTime : time ≤ refreshLimit → reply.keys = .error error
  late : refreshLimit < time → error = .refreshTimeout

variable {reply : Reply} {start time : Nat} {error : ServiceError} {keys : List String}

theorem resultBy_eq_ite :
    (⟨start + time, reply.keys⟩ : PendingKeys).resultBy (start + refreshLimit) =
      if refreshLimit < time then .error .refreshTimeout else reply.keys := by
  rw [PendingKeys.resultBy]
  simp only [Nat.add_lt_add_iff_left]

theorem resultBy_eq_error_iff :
    (⟨start + time, reply.keys⟩ : PendingKeys).resultBy (start + refreshLimit) = .error error ↔
      reply.Explains time error := by
  rw [resultBy_eq_ite]
  split
  · next late =>
      constructor
      · intro same
        cases same
        exact ⟨fun inTime => absurd late (Nat.not_lt_of_le inTime), fun _ => rfl⟩
      · intro explains
        rw [explains.late late]
  · next inTime =>
      constructor
      · intro failed
        exact ⟨fun _ => failed, fun late => absurd late inTime⟩
      · intro explains
        exact explains.inTime (Nat.le_of_not_lt inTime)

theorem resultBy_eq_ok_iff :
    (⟨start + time, reply.keys⟩ : PendingKeys).resultBy (start + refreshLimit) = .ok keys ↔
      time ≤ refreshLimit ∧ reply.keys = .ok keys := by
  rw [resultBy_eq_ite, ← Nat.not_lt]
  split
  · next late => exact iff_of_false nofun fun had => had.1 late
  · next inTime => exact (and_iff_right inTime).symm

theorem Explains.fails_or_late (explains : reply.Explains time error) :
    reply.Fails ∨ refreshLimit < time := by
  rcases Nat.lt_or_ge refreshLimit time with late | inTime
  · exact .inr late
  · exact .inl (fails_of_keys_eq_error (explains.inTime inTime))

theorem Explains.refreshTimeout_iff (explains : reply.Explains time error) :
    error = .refreshTimeout ↔ refreshLimit < time := by
  constructor
  · intro same
    apply Nat.lt_of_not_le
    intro inTime
    exact keys_ne_refreshTimeout (same ▸ explains.inTime inTime)
  · exact explains.late

end Reply

end LogQuery
