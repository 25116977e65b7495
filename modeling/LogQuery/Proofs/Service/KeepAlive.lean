import LogQuery.Logs.Search
import LogQuery.Proofs.Json.Fields
import LogQuery.Proofs.Store.Process
import LogQuery.Service.Response

namespace LogQuery

/-! ## The stream of a slow answer -/

/-- The stream ends with the work or when the client leaves, whichever comes first. -/
theorem writeStream_eq (doneAt : Nat) (leavesAt? : Option Nat) (nextTick newlines : Nat) :
    writeStream doneAt leavesAt? nextTick newlines =
      let last := leavesAt?.elim doneAt (min doneAt)
      ⟨last, newlines + (last + keepAlivePeriod - nextTick) / keepAlivePeriod,
        leavesAt?.all fun leavesAt => decide (doneAt < leavesAt)⟩ := by
  fun_induction writeStream doneAt leavesAt? nextTick newlines with
  | case1 nextTick newlines last due induction =>
      rw [induction]
      have counted : newlines + 1 + (last + keepAlivePeriod - (nextTick + keepAlivePeriod)) /
          keepAlivePeriod = newlines + (last + keepAlivePeriod - nextTick) / keepAlivePeriod := by
        unfold keepAlivePeriod
        omega
      exact congrArg (fun newlines => StreamEnd.mk last newlines _) counted
  | case2 nextTick newlines last isOver =>
      have counted :
          newlines = newlines + (last + keepAlivePeriod - nextTick) / keepAlivePeriod := by
        unfold keepAlivePeriod
        omega
      exact congrArg (fun newlines => StreamEnd.mk last newlines _) counted

theorem toList_pushn (text : String) (character : Char) (count : Nat) :
    (text.pushn character count).toList = text.toList ++ List.replicate count character := by
  rw [String.pushn_eq_repeat_push]
  induction count with
  | zero => exact (List.append_nil _).symm
  | succ count induction =>
      rw [Nat.repeat, String.toList_push, induction, List.replicate_succ', List.append_assoc]

/-- Newlines come before the document and change nothing else of the text. -/
theorem Response.toList_text (response : Response) :
    response.text.toList = List.replicate response.newlines '\n' ++
      ({ response with newlines := 0 } : Response).text.toList := by
  rw [text, text, String.toList_append, String.toList_append, toList_pushn, toList_pushn]
  rfl

/-! ## What an answer says

The result itself with the status of success, or the error as an object with the status of its
kind. An answer that is sent at once and one that was begun before write their documents apart
from each other. -/

/-- The message of an error, its kind and its details, if it has any, under these keys and no
others. -/
def IsErrorObject (error : ServiceError) (fields : List (String × Json)) : Prop :=
  ∀ key, fields.lookup key =
    if key = "error" then some (.text error.message)
    else if key = "errorType" then some (.text error.kind)
    else if key = "details" ∧ error.details ≠ [] then some (.ofStrings error.details)
    else none

def IsPayload (encode : α → Json) : Except ServiceError α → Json → Prop
  | .ok value, document => document = encode value
  | .error error, document => ∃ fields, document = .object fields ∧ IsErrorObject error fields

def plainStatus : Except ServiceError α → Nat
  | .ok _ => 200
  | .error error => error.status

theorem exists_isErrorObject_body (error : ServiceError) :
    ∃ fields, error.body = .object fields ∧ IsErrorObject error fields := by
  refine ⟨_, rfl, ?_⟩
  intro key
  cases details : error.details with
  | nil =>
      simp only [List.append_nil, List.foldl_cons, List.foldl_nil, Json.lookup_insertField,
        List.lookup_nil]
      by_cases first : key = "errorType"
      · simp [first]
      · simp [first]
  | cons one others =>
      simp only [List.cons_append, List.nil_append, List.foldl_cons, List.foldl_nil,
        Json.lookup_insertField, List.lookup_nil]
      by_cases first : key = "details"
      · simp [first]
      · by_cases second : key = "errorType" <;> simp [first, second]

theorem isPayload_payload (encode : α → Json) (result : Except ServiceError α) :
    IsPayload encode result (Response.payload encode result) := by
  cases result with
  | ok value => rfl
  | error error => exact exists_isErrorObject_body error

theorem Response.ofResult_eq (encode : α → Json) (result : Except ServiceError α) :
    Response.ofResult encode result =
      { status := plainStatus result, document := some (Response.payload encode result) } := by
  cases result with
  | ok value => rfl
  | error error => rfl

/-! ## Answers that are kept alive -/

theorem withKeepAlive_fast {encode : α → Json} {work : Work α} {session after : Session}
    {result : Except ServiceError α} (ran : work.execute session = (result, after))
    (fast : after.clock < session.clock + keepAlivePeriod) (leavesAt? : Option Nat) :
    withKeepAlive encode work leavesAt? session = (.ofResult encode result, after) := by
  unfold withKeepAlive
  rw [ran]
  exact if_pos fast

theorem withKeepAlive_slow {encode : α → Json} {work : Work α} {session after : Session}
    {result : Except ServiceError α} (ran : work.execute session = (result, after))
    (slow : session.clock + keepAlivePeriod ≤ after.clock) {leavesAt? : Option Nat}
    (stays : ∀ leavesAt ∈ leavesAt?, after.clock < leavesAt) :
    withKeepAlive encode work leavesAt? session =
      ({ status := 200
         newlines := (after.clock - session.clock) / keepAlivePeriod
         document := some (Response.payload encode result) }, after) := by
  have stream : writeStream after.clock leavesAt? (session.clock + keepAlivePeriod) 0 =
      ⟨after.clock, (after.clock - session.clock) / keepAlivePeriod, true⟩ := by
    rw [writeStream_eq]
    dsimp only
    rw [Nat.zero_add, Nat.add_sub_add_right]
    cases leavesAt? with
    | none => rfl
    | some leavesAt =>
        have later := stays leavesAt rfl
        rw [Option.elim_some, Option.all_some, Nat.min_eq_left (Nat.le_of_lt later),
          decide_eq_true later]
  unfold withKeepAlive
  rw [ran]
  dsimp only
  rw [if_neg (Nat.not_lt_of_le slow), stream]
  rfl

theorem withKeepAlive_left {encode : α → Json} {work : Work α} {session after : Session}
    {result : Except ServiceError α} (ran : work.execute session = (result, after))
    {time : Nat} (slow : session.clock + keepAlivePeriod ≤ time) (early : time < after.clock) :
    withKeepAlive encode work (some time) session =
      ({ status := 200
         newlines := (time - session.clock) / keepAlivePeriod
         document := none }, session.stoppedAt after time) := by
  have stream : writeStream after.clock (some time) (session.clock + keepAlivePeriod) 0 =
      ⟨time, (time - session.clock) / keepAlivePeriod, false⟩ := by
    rw [writeStream_eq]
    dsimp only
    rw [Nat.zero_add, Nat.add_sub_add_right, Option.elim_some, Option.all_some,
      Nat.min_eq_right (Nat.le_of_lt early), decide_eq_false (Nat.lt_asymm early)]
  unfold withKeepAlive
  rw [ran]
  dsimp only
  rw [if_neg (Nat.not_lt_of_le (Nat.le_trans slow (Nat.le_of_lt early))), stream]
  rfl

/-! ## Content and timing -/

/-- What keeping the connection alive changes of an answer, and what it does not. -/
structure KeepsContent (encode : α → Json) (work : Work α) : Prop where
  fast : ∀ session result after elapsed, work.execute session = (result, after) →
    after.clock = session.clock + elapsed → elapsed < keepAlivePeriod →
      ∃ document, IsPayload encode result document ∧
        Response.ofResult encode result =
          { status := plainStatus result, newlines := 0, document := some document } ∧
        withKeepAlive encode work none session = (.ofResult encode result, after)
  slow : ∀ session result after elapsed, work.execute session = (result, after) →
    after.clock = session.clock + elapsed → keepAlivePeriod < elapsed →
      ¬ keepAlivePeriod ∣ elapsed →
        ∃ answer document, IsPayload encode result document ∧
          (Response.ofResult encode result).document = some document ∧
          withKeepAlive encode work none session = (answer, after) ∧
          answer.status = 200 ∧
          answer.document = some document ∧
          answer.text.toList =
            List.replicate (elapsed / keepAlivePeriod) '\n' ++ document.write.toList
  /-- A client that leaves after the end had the whole answer. -/
  read : ∀ session time, (work.execute session).2.clock < time →
    withKeepAlive encode work (some time) session = withKeepAlive encode work none session
  /-- When a client leaves before the end, the work goes no further, and nobody gets what it
  would still have come to. -/
  left : ∃ process : Process α, process.Runs work ∧
    ∀ session time, session.clock + keepAlivePeriod ≤ time →
      time < (work.execute session).2.clock →
        ∃ answer rest stopped added, process.runUntil time session = (rest, stopped) ∧
          rest.execute stopped = work.execute session ∧
          withKeepAlive encode work (some time) session = (answer, stopped) ∧
          answer.document = none ∧
          stopped.clock = time ∧
          stopped.issued = session.issued ++ added ∧
          ∀ statement ∈ added, statement.time ≤ time

theorem keepsContent_of_isProcess (encode : α → Json) {work : Work α}
    (isProcess : work.IsProcess) : KeepsContent encode work := by
  constructor
  case fast =>
    intro session result after elapsed ran ended fast
    have early : after.clock < session.clock + keepAlivePeriod := by omega
    exact ⟨_, isPayload_payload encode result, Response.ofResult_eq encode result,
      withKeepAlive_fast ran early none⟩
  case slow =>
    intro session result after elapsed ran ended slow _
    have late : session.clock + keepAlivePeriod ≤ after.clock := by omega
    have counted : after.clock - session.clock = elapsed := by omega
    refine ⟨_, _, isPayload_payload encode result, ?_, withKeepAlive_slow ran late nofun,
      rfl, rfl, ?_⟩
    · rw [Response.ofResult_eq]
    · rw [Response.toList_text, counted, Response.text]
      rfl
  case read =>
    intro session time late
    rcases ran : work.execute session with ⟨result, after⟩
    rw [ran] at late
    rcases Nat.lt_or_ge after.clock (session.clock + keepAlivePeriod) with fast | slow
    · rw [withKeepAlive_fast ran fast, withKeepAlive_fast ran fast]
    · have stays : ∀ leavesAt ∈ some time, after.clock < leavesAt :=
        fun leavesAt same => Option.some.inj same ▸ late
      have alone : ∀ leavesAt ∈ (none : Option Nat), after.clock < leavesAt := nofun
      rw [withKeepAlive_slow ran slow stays, withKeepAlive_slow ran slow alone]
  case left =>
    rcases isProcess with ⟨process, runs⟩
    refine ⟨process, runs, ?_⟩
    intro session time slow early
    have started : session.clock ≤ time := by omega
    rw [runs session] at early ⊢
    have stopped := process.runUntil_eq_stoppedAt started early
    have resumed := process.execute_runUntil started
    rcases process.adds_execute session with ⟨added, adds⟩
    rcases broken : process.runUntil time session with ⟨rest, last⟩
    rw [broken] at stopped resumed
    have stopped : last = session.stoppedAt (process.execute session).2 time := stopped
    have left : withKeepAlive encode work (some time) session = _ :=
      withKeepAlive_left (runs session) slow early
    rw [← stopped] at left
    refine ⟨_, rest, last, added.filter (·.time ≤ time), rfl, resumed, left, rfl, ?_, ?_, ?_⟩
    · rw [stopped, Process.stoppedAt_of_adds adds]
    · rw [stopped, Process.stoppedAt_of_adds adds]
    · intro statement member
      exact of_decide_eq_true (List.mem_filter.mp member).2

theorem isProcess_searchLogs (schema : Schema) (snapshot : FieldSnapshot)
    (request : LogsRequest) : (searchLogs schema snapshot request).IsProcess := by
  unfold searchLogs
  refine (Work.isProcess_ofExcept _).bind fun plan => ?_
  refine Work.IsProcess.bind ?_ fun buckets => ?_
  · refine (Work.isProcess_query _).bind fun stream => ?_
    exact (Work.isProcess_foldRows _ _ _).bind fun _ => Work.isProcess_pure _
  · dsimp only
    split
    · exact Work.isProcess_pure _
    · refine Work.IsProcess.bind ?_ fun found => Work.isProcess_pure _
      refine (Work.isProcess_query _).bind fun stream => ?_
      exact (Work.isProcess_foldRows _ _ _).bind fun _ => Work.isProcess_pure _

/-- Keeping the connection alive changes when an answer is sent, and not what it says. This is
so of all work that is a process, and a search is. -/
theorem withKeepAlive_keepsContent :
    (∀ {α : Type} (encode : α → Json) (work : Work α), work.IsProcess →
      KeepsContent encode work) ∧
    ∀ schema snapshot request,
      KeepsContent LogsAnswer.toJson (searchLogs schema snapshot request) :=
  ⟨fun encode _ => keepsContent_of_isProcess encode,
    fun schema snapshot request =>
      keepsContent_of_isProcess _ (isProcess_searchLogs schema snapshot request)⟩

/-- The store lets the search down after 5 seconds, or after 25. In the second case the client may
leave before. Work that does nothing but wait comes to its result after the same times. -/
theorem withKeepAlive_keepsContent_outcomes :
    let work := searchLogs ⟨"default", []⟩ .empty ⟨"", "", "", 10, ⟨0, 600⟩⟩
    let failing (time : Nat) := Session.start [⟨time, .error .closed⟩]
    let document := "\x7b\"error\":\"clickhouse connection pool is closed\"," ++
      "\"errorType\":\"clickhouse_error\"\x7d"
    let waiting (time : Nat) : Work Nat := Work.waitFor time >>= fun _ => pure 7
    let answer (time : Nat) := (withKeepAlive Json.ofNat (waiting time) none (.start [])).1
    work.IsProcess ∧ KeepsContent LogsAnswer.toJson work ∧
      (∀ time, KeepsContent Json.ofNat (waiting time)) ∧
      (withKeepAlive LogsAnswer.toJson work none (failing 5000)).1.status = 502 ∧
      (withKeepAlive LogsAnswer.toJson work none (failing 5000)).1.text = document ∧
      (withKeepAlive LogsAnswer.toJson work none (failing 25000)).1.status = 200 ∧
      (withKeepAlive LogsAnswer.toJson work none (failing 25000)).1.text = "\n\n" ++ document ∧
      (withKeepAlive LogsAnswer.toJson work none (failing 25000)).2.clock = 25000 ∧
      (withKeepAlive LogsAnswer.toJson work (some 12000) (failing 25000)).1.document.isNone =
        true ∧
      ((answer 5000).status, (answer 5000).text) = (200, "7") ∧
      ((answer 25000).status, (answer 25000).text) = (200, "\n\n7") := by
  intro work failing document waiting answer
  have isProcess : work.IsProcess := isProcess_searchLogs _ _ _
  have waits (time : Nat) : (waiting time).IsProcess :=
    (Work.isProcess_waitFor time).bind fun _ => Work.isProcess_pure 7
  refine ⟨isProcess, withKeepAlive_keepsContent.1 _ work isProcess,
    fun time => withKeepAlive_keepsContent.1 _ (waiting time) (waits time), ?_⟩
  decide +kernel

end LogQuery
