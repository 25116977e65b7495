import Mathlib.Data.List.Perm.Basic
import LogQuery.Fields.Refresh
import LogQuery.Proofs.Fields.Insertion

namespace LogQuery

/-! ## Snapshots -/

namespace FieldSnapshot

/-- No list has a key twice or the empty text, and the keys known are those listed. -/
structure IsProper (snapshot : FieldSnapshot) : Prop where
  nodup : ∀ kind, (snapshot.keys kind).toList.Nodup
  nonempty : ∀ kind, "" ∉ (snapshot.keys kind).toList
  hasString_iff : ∀ key, snapshot.hasString key = true ↔ key ∈ snapshot.strings.toList
  hasNumber_iff : ∀ key, snapshot.hasNumber key = true ↔ key ∈ snapshot.numbers.toList

def Extends (earlier later : FieldSnapshot) : Prop :=
  ∀ kind, (earlier.keys kind).toList <+: (later.keys kind).toList

theorem Extends.trans {earlier middle later : FieldSnapshot} (first : earlier.Extends middle)
    (second : middle.Extends later) : earlier.Extends later :=
  fun kind => (first kind).trans (second kind)

theorem isProper_of_nonempty {snapshot : FieldSnapshot}
    (nonempty : ∀ kind, "" ∉ (snapshot.keys kind).toList) : snapshot.IsProper where
  nodup kind := (snapshot.keys kind).nodup
  nonempty := nonempty
  hasString_iff _ := hasString_iff_mem
  hasNumber_iff _ := hasNumber_iff_mem

@[simp] theorem keys_empty (kind : FieldKind) : empty.keys kind = .empty := by
  cases kind <;> rfl

theorem ext_keys {one other : FieldSnapshot}
    (same : ∀ kind, one.keys kind = other.keys kind) : one = other := by
  cases one
  cases other
  congr
  · exact same .string
  · exact same .number

end FieldSnapshot

/-! ## Runs of a cache

A snapshot is a value of its own. What the steps of a run gave out is a list to which later
steps only add. -/

inductive CacheStep where
  | merge (strings numbers : List String)
  | snapshot
  deriving DecidableEq, Repr

/-- The keys of one kind that a step adds, in the order in which they are inserted. -/
def CacheStep.offered : CacheStep → FieldKind → List String
  | .merge strings _, .string => strings.filter (· ≠ "")
  | .merge _ numbers, .number => numbers.filter (· ≠ "")
  | .snapshot, _ => []

namespace FieldCache

def step (cache : FieldCache) : CacheStep → FieldCache
  | .merge strings numbers => cache.merge strings numbers
  | .snapshot => cache

def run (cache : FieldCache) (steps : List CacheStep) : FieldCache :=
  steps.foldl step cache

/-- The snapshots that the steps of a run give out, each the one held after the step. -/
def handedOut (cache : FieldCache) : List CacheStep → List FieldSnapshot
  | [] => []
  | first :: rest => (cache.step first).snapshot :: (cache.step first).handedOut rest

/-! One step, and from it a whole run, inserts what is offered and does nothing else. -/

theorem keys_step (cache : FieldCache) (step : CacheStep) (kind : FieldKind) :
    (cache.step step).snapshot.keys kind =
      (cache.snapshot.keys kind).insertMany (step.offered kind) := by
  cases step with
  | merge strings numbers => cases kind <;> rfl
  | snapshot => rfl

theorem session_step (cache : FieldCache) (step : CacheStep) :
    (cache.step step).session = cache.session := by
  cases step <;> rfl

theorem keys_run (cache : FieldCache) (steps : List CacheStep) (kind : FieldKind) :
    ((cache.run steps).snapshot.keys kind) =
      (cache.snapshot.keys kind).insertMany (steps.flatMap (·.offered kind)) := by
  induction steps generalizing cache with
  | nil => rfl
  | cons first rest induction =>
      rw [List.flatMap_cons, KeySet.insertMany_append, ← keys_step]
      exact induction (cache.step first)

theorem handedOut_append (cache : FieldCache) (steps later : List CacheStep) :
    cache.handedOut (steps ++ later) =
      cache.handedOut steps ++ (cache.run steps).handedOut later := by
  induction steps generalizing cache with
  | nil => rfl
  | cons first rest induction =>
      rw [List.cons_append, handedOut, handedOut, induction, List.cons_append]
      rfl

theorem ext_keys {one other : FieldCache} (session : one.session = other.session)
    (same : ∀ kind, one.snapshot.keys kind = other.snapshot.keys kind) : one = other := by
  cases one
  cases other
  congr
  exact FieldSnapshot.ext_keys same

/-! ### Growth -/

theorem extends_run (cache : FieldCache) (steps : List CacheStep) :
    cache.snapshot.Extends (cache.run steps).snapshot := by
  intro kind
  rw [keys_run]
  exact KeySet.prefix_insertMany _ _

theorem extends_of_mem_handedOut {cache : FieldCache} {steps : List CacheStep}
    {snapshot : FieldSnapshot} (member : snapshot ∈ cache.handedOut steps) :
    cache.snapshot.Extends snapshot := by
  induction steps generalizing cache with
  | nil => contradiction
  | cons first rest induction =>
      have grown : cache.snapshot.Extends (cache.step first).snapshot := cache.extends_run [first]
      rcases List.mem_cons.mp member with rfl | later
      · exact grown
      · exact grown.trans (induction later)

theorem pairwise_handedOut (cache : FieldCache) (steps : List CacheStep) :
    (cache.handedOut steps).Pairwise FieldSnapshot.Extends := by
  induction steps generalizing cache with
  | nil => exact .nil
  | cons first rest induction =>
      exact .cons (fun _ member => extends_of_mem_handedOut member) (induction (cache.step first))

/-! ### The keys after a run -/

theorem ne_empty_of_mem_offered {step : CacheStep} {kind : FieldKind} {key : String}
    (member : key ∈ step.offered kind) : key ≠ "" := by
  cases step with
  | merge strings numbers =>
      cases kind with
      | string => exact of_decide_eq_true (List.mem_filter.mp member).2
      | number => exact of_decide_eq_true (List.mem_filter.mp member).2
  | snapshot => contradiction

theorem mem_keys_run {cache : FieldCache} {steps : List CacheStep} {kind : FieldKind}
    {key : String} :
    key ∈ ((cache.run steps).snapshot.keys kind).toList ↔
      key ∈ (cache.snapshot.keys kind).toList ∨ ∃ step ∈ steps, key ∈ step.offered kind := by
  rw [keys_run, KeySet.mem_insertMany, List.mem_flatMap]

theorem isProper_run {cache : FieldCache} (proper : cache.snapshot.IsProper)
    (steps : List CacheStep) : (cache.run steps).snapshot.IsProper := by
  apply FieldSnapshot.isProper_of_nonempty
  intro kind empty
  rcases mem_keys_run.mp empty with before | ⟨step, _, offered⟩
  · exact proper.nonempty kind before
  · exact ne_empty_of_mem_offered offered rfl

theorem isProper_of_mem_handedOut {cache : FieldCache} (proper : cache.snapshot.IsProper)
    {steps : List CacheStep} {snapshot : FieldSnapshot}
    (member : snapshot ∈ cache.handedOut steps) : snapshot.IsProper := by
  induction steps generalizing cache with
  | nil => contradiction
  | cons first rest induction =>
      have next : (cache.step first).snapshot.IsProper := isProper_run proper [first]
      rcases List.mem_cons.mp member with rfl | later
      · exact next
      · exact induction next later

/-! ### Repeated and reordered merges -/

theorem step_run_of_mem {cache : FieldCache} {steps : List CacheStep} {step : CacheStep}
    (done : step ∈ steps) : (cache.run steps).step step = cache.run steps := by
  apply ext_keys
  · exact session_step _ step
  · intro kind
    rw [keys_step]
    apply KeySet.insertMany_of_subset
    intro key offered
    exact mem_keys_run.mpr (.inr ⟨step, done, offered⟩)

theorem merge_merge (cache : FieldCache) (strings numbers moreStrings moreNumbers : List String) :
    (cache.merge strings numbers).merge moreStrings moreNumbers =
      cache.merge (strings ++ moreStrings) (numbers ++ moreNumbers) := by
  simp [merge, FieldSnapshot.merge, KeySet.insertMany_append]

theorem mem_keys_run_perm {cache : FieldCache} {steps others : List CacheStep}
    (reordered : steps.Perm others) (kind : FieldKind) (key : String) :
    key ∈ ((cache.run steps).snapshot.keys kind).toList ↔
      key ∈ ((cache.run others).snapshot.keys kind).toList := by
  simp only [mem_keys_run, reordered.mem_iff]

/-! ### All runs of a new cache -/

def new (session : Session) : FieldCache :=
  ⟨session, .empty⟩

theorem isProper_new (session : Session) : (new session).snapshot.IsProper :=
  FieldSnapshot.isProper_of_nonempty fun kind => by simp [new]

/-- A cache only grows. Each snapshot given out is extended by those that come after it, has
each of its keys once, and stays as it was. The keys are all that were merged and were not the
empty text, however often and in whatever order; in one merge or in several they come to the
same lists. -/
theorem handedOut_grows (session : Session) (steps : List CacheStep) :
    ((new session).handedOut steps).Pairwise FieldSnapshot.Extends ∧
    (∀ snapshot ∈ (new session).handedOut steps, snapshot.IsProper) ∧
    (∀ later, (new session).handedOut steps <+: (new session).handedOut (steps ++ later)) ∧
    (∀ strings numbers, .merge strings numbers ∈ steps →
      ((new session).run steps).merge strings numbers = (new session).run steps) ∧
    (∀ strings numbers moreStrings moreNumbers,
      (((new session).run steps).merge strings numbers).merge moreStrings moreNumbers =
        ((new session).run steps).merge (strings ++ moreStrings) (numbers ++ moreNumbers)) ∧
    (∀ kind key, key ∈ (((new session).run steps).snapshot.keys kind).toList ↔
      ∃ step ∈ steps, key ∈ step.offered kind) ∧
    ∀ others, steps.Perm others → ∀ kind key,
      key ∈ (((new session).run steps).snapshot.keys kind).toList ↔
        key ∈ (((new session).run others).snapshot.keys kind).toList := by
  refine ⟨pairwise_handedOut _ steps, ?_, ?_, ?_, ?_, ?_, ?_⟩
  · intro snapshot member
    exact isProper_of_mem_handedOut (isProper_new session) member
  · intro later
    rw [handedOut_append]
    exact List.prefix_append _ _
  · intro strings numbers done
    exact step_run_of_mem done
  · exact merge_merge _
  · intro kind key
    rw [mem_keys_run]
    simp [new]
  · intro others reordered
    exact mem_keys_run_perm reordered

/-- Two merges in either order: the lists differ, the keys do not. -/
theorem handedOut_grows_reordered :
    let cache := new (Session.start [])
    let first := CacheStep.merge ["level", "", "app"] ["took"]
    let second := CacheStep.merge ["user", "app"] []
    first ∈ [first, .snapshot, second] ∧
      List.Perm [first, .snapshot, second] [second, first, .snapshot] ∧
      (cache.run [first, .snapshot, second]).snapshot.strings.toList = ["level", "app", "user"] ∧
      (cache.run [second, first, .snapshot]).snapshot.strings.toList = ["user", "app", "level"] ∧
      (cache.run [first, .snapshot, second]).merge ["level", "", "app"] ["took"] =
        cache.run [first, .snapshot, second] ∧
      (cache.run [first]).snapshot.IsProper ∧
      ("level" ∈ ((cache.run [first, .snapshot, second]).snapshot.keys .string).toList ↔
        "level" ∈ ((cache.run [second, first, .snapshot]).snapshot.keys .string).toList) := by
  intro cache first second
  have reordered : List.Perm [first, .snapshot, second] [second, first, .snapshot] :=
    @List.perm_append_comm _ [first, .snapshot] [second]
  rcases handedOut_grows (Session.start []) [first, .snapshot, second] with
    ⟨_, proper, _, again, _, _, anyOrder⟩
  refine ⟨List.mem_cons_self, reordered, ?_, ?_, ?_, ?_, ?_⟩
  · simp [cache, first, second, new, run, step, merge, FieldSnapshot.merge,
      FieldSnapshot.empty, KeySet.toList_insert]
  · simp [cache, first, second, new, run, step, merge, FieldSnapshot.merge,
      FieldSnapshot.empty, KeySet.toList_insert]
  · exact again _ _ List.mem_cons_self
  · exact proper _ List.mem_cons_self
  · exact anyOrder _ reordered .string "level"

end FieldCache

end LogQuery
