import Mathlib.Data.List.Perm.Basic
import LogQuery.Store.Pool

namespace LogQuery

/-! ## Calls

A client calls the pool again and again. It can ask for a result that is read at once, or open
one in a slot and read it row by row, to its end or not, before it lets it go. -/

inductive PoolCall where
  | query (sql : String)
  | version
  | openSlot (sql slot : String)
  | next (slot : String)
  | drain (slot : String)
  | close (slot : String)
  deriving DecidableEq, Repr

/-- Only a call that sends a statement needs a permit. -/
def PoolCall.sends : PoolCall → Bool
  | .query _ | .version | .openSlot _ _ => true
  | .next _ | .drain _ | .close _ => false

inductive CallEnd where
  | waits
  | fails (error : StoreError)
  | completes

def Pool.CallResult.callEnd : CallResult α → CallEnd
  | .blocked => .waits
  | .failed error => .fails error
  | .done _ => .completes

namespace Pool

def perform (pool : Pool) : PoolCall → CallEnd × Pool
  | .query sql => ((pool.query sql).1.callEnd, (pool.query sql).2)
  | .version => (pool.version.1.callEnd, pool.version.2)
  | .openSlot sql slot => ((pool.openSlot sql slot).1.callEnd, (pool.openSlot sql slot).2)
  | .next slot => (.completes, (pool.nextInSlot slot).2)
  | .drain slot => (.completes, (pool.drainSlot slot).2)
  | .close slot => (.completes, (pool.close slot).2)

def run (pool : Pool) (calls : List PoolCall) : Pool :=
  calls.foldl (fun pool call => (pool.perform call).2) pool

/-- The slots in which results are open. -/
def slots (pool : Pool) : List String :=
  pool.held.map Prod.fst

/-! ## What a call does to the permits -/

/-- The same permits are left and the same results are open. -/
structure KeepsPermits (before after : Pool) : Prop where
  free : after.free = before.free
  slots : after.slots = before.slots

/-- One result more is open, and it has the permit that is missing. -/
structure Opens (before after : Pool) (slot : String) : Prop where
  absent : slot ∉ before.slots
  free : after.free = before.free.map (· - 1)
  slots : after.slots = slot :: before.slots

/-- The result in a slot made way for another one, which was opened before it went. -/
structure Replaces (before after : Pool) (slot : String) : Prop where
  present : slot ∈ before.slots
  free : after.free = before.free
  slots : after.slots = slot :: before.slots.erase slot

/-- A result was let go and its permit is free. -/
structure Closes (before after : Pool) (slot : String) : Prop where
  present : slot ∈ before.slots
  free : after.free = before.free.map (· + 1)
  slots : after.slots = before.slots.erase slot

theorem KeepsPermits.refl (pool : Pool) : pool.KeepsPermits pool :=
  ⟨rfl, rfl⟩

@[simp] theorem free_exchange (pool : Pool) (sql : String) :
    (pool.exchange sql).2.free = pool.free := by
  unfold exchange
  split <;> rfl

@[simp] theorem held_exchange (pool : Pool) (sql : String) :
    (pool.exchange sql).2.held = pool.held := by
  unfold exchange
  split <;> rfl

theorem map_sub_add_of_ready {free : Option Nat} (ready : free ≠ some 0) :
    (free.map (· - 1)).map (· + 1) = free := by
  cases free with
  | none => rfl
  | some permits =>
      have positive : permits ≠ 0 := fun none => ready (congrArg some none)
      simp only [Option.map_some, Option.some.injEq]
      omega

theorem free_ne_of_ready {pool : Pool} (ready : pool.mustWait = false) : pool.free ≠ some 0 :=
  of_decide_eq_false ready

/-- An opened result keeps the permit that was taken, and each way to fail gives it back. -/
theorem openResult_cases {pool : Pool} (ready : pool.mustWait = false) (sql : String) :
    (∃ reader next, pool.openResult sql = (.ok reader, next) ∧
      next.free = pool.free.map (· - 1) ∧ next.held = pool.held) ∨
    ∃ error next, pool.openResult sql = (.error error, next) ∧
      next.free = pool.free ∧ next.held = pool.held := by
  have kept : (pool.takePermit.exchange sql).2.free = pool.free.map (· - 1) := by
    rw [free_exchange]
    rfl
  have held : (pool.takePermit.exchange sql).2.held = pool.held := by
    rw [held_exchange]
    rfl
  rcases exchanged : pool.takePermit.exchange sql with ⟨outcome, next⟩
  rw [exchanged] at kept held
  cases outcome with
  | ok reader =>
      left
      refine ⟨reader, next, ?_, kept, held⟩
      rw [openResult, exchanged]
  | error error =>
      right
      refine ⟨error, next.givePermit, ?_, ?_, held⟩
      · rw [openResult, exchanged]
      · change next.free.map (· + 1) = pool.free
        rw [kept]
        exact map_sub_add_of_ready (free_ne_of_ready ready)

theorem withResult_of_wait {pool : Pool} (full : pool.mustWait = true) (sql : String)
    (use : RowReader → Except StoreError α) : pool.withResult sql use = (.blocked, pool) := by
  rw [withResult, if_pos full]

/-- A result that is used and let go leaves the permits as they were, whether or not it could
be had and used. -/
theorem withResult_of_ready {pool : Pool} (ready : pool.mustWait = false) (sql : String)
    (use : RowReader → Except StoreError α) :
    (pool.withResult sql use).1.callEnd ≠ .waits ∧
      pool.KeepsPermits (pool.withResult sql use).2 := by
  rcases openResult_cases ready sql with ⟨reader, next, opened, free, held⟩ |
    ⟨error, next, failed, free, held⟩
  · have given : (next.free.map (· + 1)) = pool.free := by
      rw [free]
      exact map_sub_add_of_ready (free_ne_of_ready ready)
    have same : pool.KeepsPermits next.givePermit := ⟨given, congrArg (List.map Prod.fst) held⟩
    rw [withResult, ready, if_neg Bool.false_ne_true, opened]
    cases used : use reader with
    | ok value => simpa [used, CallResult.callEnd] using same
    | error error => simpa [used, CallResult.callEnd] using same
  · rw [withResult, ready, if_neg Bool.false_ne_true, failed]
    exact ⟨by simp [CallResult.callEnd], free, congrArg (List.map Prod.fst) held⟩

/-! A slot that is known holds a result. -/

theorem isSome_find?_iff {pool : Pool} {slot : String} :
    (pool.find? slot).isSome = true ↔ slot ∈ pool.slots := by
  simp [find?, slots]

theorem map_fst_eraseP (held : List (String × RowReader)) (slot : String) :
    (held.eraseP (·.1 = slot)).map Prod.fst = (held.map Prod.fst).erase slot := by
  induction held with
  | nil => rfl
  | cons entry held induction =>
      by_cases same : entry.1 = slot
      · simp [same]
      · simp [same, induction]

theorem close_of_mem {pool : Pool} {slot : String} (present : slot ∈ pool.slots) :
    pool.Closes (pool.close slot).2 slot := by
  rw [close, if_pos (isSome_find?_iff.mpr present)]
  exact ⟨present, rfl, map_fst_eraseP pool.held slot⟩

theorem close_of_notMem {pool : Pool} {slot : String} (absent : slot ∉ pool.slots) :
    (pool.close slot).2 = pool := by
  have none : ¬(pool.find? slot).isSome = true := by
    rw [isSome_find?_iff]
    exact absent
  rw [close, if_neg none]

/-- Reading on does not let go of a result, also where nothing is left of it. -/
theorem replace_keepsPermits (pool : Pool) (slot : String) (reader : RowReader) :
    pool.KeepsPermits (pool.replace slot reader) := by
  refine ⟨rfl, ?_⟩
  simp only [slots, replace, List.map_map]
  apply List.map_congr_left
  intro entry _
  by_cases same : entry.1 = slot
  · simp [same]
  · simp [same]

theorem drainSlot_keepsPermits (pool : Pool) (slot : String) :
    pool.KeepsPermits (pool.drainSlot slot).2 := by
  unfold drainSlot
  split
  · exact KeepsPermits.refl pool
  · exact pool.replace_keepsPermits slot _

theorem nextInSlot_keepsPermits (pool : Pool) (slot : String) :
    pool.KeepsPermits (pool.nextInSlot slot).2 := by
  unfold nextInSlot
  split
  · exact KeepsPermits.refl pool
  · exact pool.replace_keepsPermits slot _

/-- A result that is opened in a slot has a permit of its own. Only then is the one before it
let go. -/
theorem openSlot_of_ready {pool : Pool} (ready : pool.mustWait = false) (sql slot : String) :
    ((∃ error, (pool.openSlot sql slot).1 = .failed error) ∧
      pool.KeepsPermits (pool.openSlot sql slot).2) ∨
    ((∃ columns, (pool.openSlot sql slot).1 = .done columns) ∧
      (pool.Opens (pool.openSlot sql slot).2 slot ∨
        pool.Replaces (pool.openSlot sql slot).2 slot)) := by
  rw [openSlot, ready, if_neg Bool.false_ne_true]
  rcases openResult_cases ready sql with ⟨reader, next, opened, free, held⟩ |
    ⟨error, next, failed, free, held⟩
  · right
    rw [opened]
    refine ⟨⟨reader.columns, rfl⟩, ?_⟩
    have slotsKept : next.slots = pool.slots := congrArg (List.map Prod.fst) held
    by_cases present : slot ∈ next.slots
    · right
      have closed := close_of_mem present
      refine ⟨slotsKept ▸ present, ?_, ?_⟩
      · change (next.close slot).2.free = pool.free
        rw [closed.free, free]
        exact map_sub_add_of_ready (free_ne_of_ready ready)
      · change slot :: (next.close slot).2.slots = _
        rw [closed.slots, slotsKept]
    · left
      refine ⟨slotsKept ▸ present, ?_, ?_⟩
      · change (next.close slot).2.free = _
        rw [close_of_notMem present, free]
      · change slot :: (next.close slot).2.slots = _
        rw [close_of_notMem present, slotsKept]
  · left
    rw [failed]
    exact ⟨⟨error, rfl⟩, free, congrArg (List.map Prod.fst) held⟩

/-- All that a call can do: wait, leave the permits as they are, or open, replace or close one
result. A call that fails belongs to the second kind. -/
inductive Performs (before : Pool) (call : PoolCall) : CallEnd → Pool → Prop where
  | waits (sends : call.sends = true) (full : before.mustWait = true) :
      Performs before call .waits before
  | fails (error : StoreError) {after : Pool} (sends : call.sends = true)
      (ready : before.mustWait = false) (kept : before.KeepsPermits after) :
      Performs before call (.fails error) after
  | uses {after : Pool} (ready : call.sends = true → before.mustWait = false)
      (kept : before.KeepsPermits after) : Performs before call .completes after
  | opens {after : Pool} {sql slot : String} (opened : call = .openSlot sql slot)
      (ready : before.mustWait = false) (opens : before.Opens after slot) :
      Performs before call .completes after
  | replaces {after : Pool} {sql slot : String} (opened : call = .openSlot sql slot)
      (ready : before.mustWait = false) (replaces : before.Replaces after slot) :
      Performs before call .completes after
  | closes {after : Pool} {slot : String} (closed : call = .close slot)
      (closes : before.Closes after slot) : Performs before call .completes after

theorem performs_withResult (pool : Pool) {call : PoolCall} (sends : call.sends = true)
    (sql : String) (use : RowReader → Except StoreError α) :
    pool.Performs call (pool.withResult sql use).1.callEnd (pool.withResult sql use).2 := by
  cases waits : pool.mustWait with
  | true =>
      rw [withResult_of_wait waits]
      exact .waits sends waits
  | false =>
      rcases withResult_of_ready waits sql use with ⟨answered, kept⟩
      rcases result : (pool.withResult sql use).1 with _ | error | value
      · rw [result] at answered
        exact absurd rfl answered
      · exact .fails error sends waits kept
      · exact .uses (fun _ => waits) kept

theorem performs (pool : Pool) (call : PoolCall) :
    pool.Performs call (pool.perform call).1 (pool.perform call).2 := by
  cases call with
  | query sql => exact pool.performs_withResult rfl sql _
  | version => exact pool.performs_withResult rfl versionStatement RowReader.version
  | openSlot sql slot =>
      cases waits : pool.mustWait with
      | true =>
          rw [perform, openSlot, if_pos waits]
          exact .waits rfl waits
      | false =>
          rw [perform]
          rcases openSlot_of_ready waits sql slot with ⟨⟨error, failed⟩, kept⟩ |
            ⟨⟨columns, done⟩, opens | replaces⟩
          · rw [failed]
            exact .fails error rfl waits kept
          · rw [done]
            exact .opens rfl waits opens
          · rw [done]
            exact .replaces rfl waits replaces
  | next slot => exact .uses nofun (pool.nextInSlot_keepsPermits slot)
  | drain slot => exact .uses nofun (pool.drainSlot_keepsPermits slot)
  | close slot =>
      by_cases present : slot ∈ pool.slots
      · exact .closes rfl (close_of_mem present)
      · rw [perform, close_of_notMem present]
        exact .uses nofun (KeepsPermits.refl pool)

/-! ## Conservation -/

/-- Each open result has one permit of a pool of a size, and all others are free. A pool without
a size has no permits to count. -/
structure IsBalanced (size : Nat) (pool : Pool) : Prop where
  nodup : pool.slots.Nodup
  conserved : match pool.free with
    | none => size = 0
    | some free => 0 < size ∧ free + pool.slots.length = size

section

variable {size : Nat} {pool after : Pool} {call : PoolCall} {slot : String}

theorem isBalanced_start (client : StoreClient) (answers : List ServerAnswer) :
    IsBalanced client.config.maxOpenConns (start client answers) where
  nodup := List.nodup_nil
  conserved := by
    by_cases unlimited : client.config.maxOpenConns = 0
    · simp [start, unlimited]
    · simp [start, unlimited, slots]
      omega

theorem IsBalanced.keeps (balanced : IsBalanced size pool) (kept : pool.KeepsPermits after) :
    IsBalanced size after := by
  rcases balanced with ⟨nodup, conserved⟩
  rw [← kept.slots] at nodup conserved
  rw [← kept.free] at conserved
  exact ⟨nodup, conserved⟩

theorem IsBalanced.opens (balanced : IsBalanced size pool) (ready : pool.mustWait = false)
    (opens : pool.Opens after slot) : IsBalanced size after where
  nodup := by
    rw [opens.slots]
    exact List.nodup_cons.mpr ⟨opens.absent, balanced.nodup⟩
  conserved := by
    have left := free_ne_of_ready ready
    have conserved := balanced.conserved
    rw [opens.free, opens.slots]
    cases free : pool.free with
    | none => simpa [free] using conserved
    | some permits =>
        have positive : permits ≠ 0 := fun none => left (free.trans (congrArg some none))
        simp only [free] at conserved
        simp only [Option.map_some, List.length_cons]
        omega

theorem IsBalanced.replaces (balanced : IsBalanced size pool)
    (replaces : pool.Replaces after slot) : IsBalanced size after where
  nodup := by
    rw [replaces.slots]
    exact List.nodup_cons.mpr
      ⟨balanced.nodup.not_mem_erase, balanced.nodup.erase slot⟩
  conserved := by
    have conserved := balanced.conserved
    have one := List.length_erase_add_one replaces.present
    rw [replaces.free, replaces.slots, List.length_cons, one]
    exact conserved

theorem IsBalanced.closes (balanced : IsBalanced size pool) (closes : pool.Closes after slot) :
    IsBalanced size after where
  nodup := by
    rw [closes.slots]
    exact balanced.nodup.erase slot
  conserved := by
    have conserved := balanced.conserved
    have one := List.length_erase_add_one closes.present
    rw [closes.free, closes.slots]
    cases free : pool.free with
    | none => simpa [free] using conserved
    | some permits =>
        simp only [free] at conserved
        simp only [Option.map_some]
        omega

theorem IsBalanced.performs {result : CallEnd} (balanced : IsBalanced size pool)
    (performs : pool.Performs call result after) : IsBalanced size after := by
  cases performs with
  | waits => exact balanced
  | fails _ _ _ kept => exact balanced.keeps kept
  | uses _ kept => exact balanced.keeps kept
  | opens _ ready opens => exact balanced.opens ready opens
  | replaces _ _ replaces => exact balanced.replaces replaces
  | closes _ closes => exact balanced.closes closes

theorem isBalanced_run (balanced : IsBalanced size pool) (calls : List PoolCall) :
    IsBalanced size (pool.run calls) := by
  induction calls generalizing pool with
  | nil => exact balanced
  | cons call calls induction => exact induction (balanced.performs (pool.performs call))

theorem IsBalanced.mustWait_iff (balanced : IsBalanced size pool) :
    pool.mustWait = true ↔ 0 < size ∧ pool.slots.length = size := by
  have conserved := balanced.conserved
  cases free : pool.free with
  | none =>
      simp only [free] at conserved
      simp [mustWait, free]
      omega
  | some permits =>
      simp only [free] at conserved
      simp only [mustWait, free, Option.some.injEq, decide_eq_true_eq]
      omega

end

theorem Performs.waits_iff {pool after : Pool} {call : PoolCall} {result : CallEnd}
    (performs : pool.Performs call result after) :
    result = .waits ↔ call.sends = true ∧ pool.mustWait = true := by
  cases performs with
  | waits sends full => simp [sends, full]
  | fails _ _ ready => simp [ready]
  | uses ready =>
      constructor
      · nofun
      · rintro ⟨sends, full⟩
        rw [ready sends] at full
        contradiction
  | opens _ ready => simp [ready]
  | replaces _ ready => simp [ready]
  | closes closed => simp [closed, PoolCall.sends]

theorem Performs.keepsPermits {pool after : Pool} {call : PoolCall} {error : StoreError}
    (performs : pool.Performs call (.fails error) after) : pool.KeepsPermits after := by
  cases performs with
  | fails _ _ _ kept => exact kept

/-- Permits are neither lost nor made up, whatever is called and whatever the server answers: in
a pool with a limit the free permits and the open results add up to the limit. So a statement has
to wait exactly if as many results are open as the limit allows, and without a limit none waits.
A call that fails leaves the permits as they were, a result that is read keeps its permit, also
once it has ended, and gives it back when it is let go. -/
theorem permits_conserved (client : StoreClient) (answers : List ServerAnswer)
    (calls : List PoolCall) :
    let limit := client.config.maxOpenConns
    let pool := (start client answers).run calls
    (0 < limit →
      (∃ free, pool.free = some free ∧ free + pool.held.length = limit) ∧
      ∀ call, (pool.perform call).1 = .waits ↔ call.sends = true ∧ pool.held.length = limit) ∧
    (limit = 0 → ∀ call, (pool.perform call).1 ≠ .waits) ∧
    pool.slots.Nodup ∧
    (∀ call error, (pool.perform call).1 = .fails error →
      pool.KeepsPermits (pool.perform call).2) ∧
    (∀ slot, pool.KeepsPermits (pool.perform (.next slot)).2 ∧
      pool.KeepsPermits (pool.perform (.drain slot)).2) ∧
    ∀ slot ∈ pool.slots, pool.Closes (pool.perform (.close slot)).2 slot := by
  intro limit pool
  have balanced : IsBalanced limit pool := isBalanced_run (isBalanced_start client answers) calls
  have counted : pool.slots.length = pool.held.length := List.length_map _
  refine ⟨?_, ?_, balanced.nodup, ?_, ?_, ?_⟩
  · intro limited
    have conserved := balanced.conserved
    constructor
    · cases free : pool.free with
      | none =>
          simp only [free] at conserved
          omega
      | some permits =>
          simp only [free, counted] at conserved
          exact ⟨permits, rfl, conserved.2⟩
    · intro call
      rw [(pool.performs call).waits_iff, balanced.mustWait_iff, counted]
      simp [limited]
  · intro unlimited call waits
    rw [(pool.performs call).waits_iff, balanced.mustWait_iff] at waits
    omega
  · intro call error failed
    have performs := pool.performs call
    rw [failed] at performs
    exact performs.keepsPermits
  · intro slot
    exact ⟨pool.nextInSlot_keepsPermits slot, pool.drainSlot_keepsPermits slot⟩
  · intro slot present
    exact close_of_mem present

def singleClient : StoreClient where
  config :=
    { address := "http://store", username := "default", password := "", database := "logs",
      materializedColumns := [], dialTimeout := .ofSeconds 10, connMaxLifetime := none,
      maxIdleConns := 5, maxOpenConns := 1, settings := [] }
  endpoint := { scheme := "http", host := some "store", path := "/", query := none }

/-- A refusal, and a result without columns that breaks off after its header. -/
def brokenAnswers : List ServerAnswer :=
  [⟨503, [], false⟩, ⟨200, [[0x5B, 0x5D, 0x0A, 0x5B], [0x5D, 0x0A]], true⟩]

/-- The only permit is had again after a refusal, and then held by a result that was read to its
end, until it is let go. -/
theorem permits_conserved_single :
    let pool := (start singleClient brokenAnswers).run
      [.query "SELECT 1", .openSlot "SELECT 2" "page", .drain "page"]
    0 < singleClient.config.maxOpenConns ∧ pool.slots = ["page"] ∧
      (∃ free, pool.free = some free ∧ free + pool.held.length = 1) ∧
      (pool.perform (.query "SELECT 3")).1 = .waits ∧
      pool.Closes (pool.perform (.close "page")).2 "page" := by
  intro pool
  have limited : 0 < singleClient.config.maxOpenConns := by decide
  have opened : pool.slots = ["page"] := by decide +kernel
  rcases permits_conserved singleClient brokenAnswers
    [.query "SELECT 1", .openSlot "SELECT 2" "page", .drain "page"] with
    ⟨counted, _, _, _, _, closes⟩
  rcases counted limited with ⟨conserved, waits⟩
  have held : pool.held.length = 1 := by
    have length := congrArg List.length opened
    rwa [slots, List.length_map] at length
  refine ⟨limited, opened, conserved, (waits (.query "SELECT 3")).mpr ⟨rfl, held⟩, ?_⟩
  apply closes
  rw [opened]
  exact List.mem_singleton_self "page"

end Pool

end LogQuery
