import Mathlib.Algebra.Ring.Int.Defs
import LogQuery.Logs.TimePredicate

namespace LogQuery

/-! ## Saturation

A sum that stays within 64 bits is not cut. -/

theorem saturate_eq_self {seconds : Int} (above : Cell.minInteger ≤ seconds)
    (below : seconds ≤ Cell.maxInteger) : saturate seconds = seconds := by
  unfold saturate
  omega

theorem le_saturate {bound seconds : Int} (fits : bound ≤ Cell.maxInteger)
    (below : bound ≤ seconds) : bound ≤ saturate seconds := by
  unfold saturate
  omega

/-! ## The order by time

Only an order by the timestamp column writes a clause that starts with it. -/

theorem timeDirection_of_clause {schema : Schema} {order : LogsOrder}
    {direction : SortDirection}
    (ordered : order.clause schema = "timestamp " ++ direction.keyword) :
    order.timeDirection? = some direction := by
  rcases order with ⟨field, chosen⟩
  unfold LogsOrder.clause Schema.orderClause at ordered
  dsimp only at ordered
  split at ordered
  · -- The last letters of the two keywords differ, so the texts are compared backwards.
    have reversed := congrArg (fun text => text.toList.reverse) ordered
    cases chosen <;> cases direction <;>
      simp [SortDirection.keyword, String.toList_append] at reversed
    · have named : field = "timestamp" := String.toList_injective reversed
      rw [LogsOrder.timeDirection?, if_pos named]
    · have named : field = "timestamp" := String.toList_injective reversed
      rw [LogsOrder.timeDirection?, if_pos named]
  · have started := congrArg String.toList ordered
    simp [FieldKind.reference, FieldKind.mapColumn, String.toList_append] at started

/-! ## The buckets that are walked -/

def totalOf (buckets : List Bucket) : Int :=
  (buckets.map Bucket.count).sum

theorem totalOf_cons (bucket : Bucket) (buckets : List Bucket) :
    totalOf (bucket :: buckets) = bucket.count + totalOf buckets := by
  rw [totalOf, List.map_cons, List.sum_cons, totalOf]

theorem totalOf_nonneg {buckets : List Bucket}
    (nonneg : ∀ bucket ∈ buckets, 0 ≤ bucket.count) : 0 ≤ totalOf buckets := by
  induction buckets with
  | nil => exact Int.le_refl 0
  | cons bucket buckets induction =>
      rcases List.forall_mem_cons.mp nonneg with ⟨first, rest⟩
      have later := induction rest
      rw [totalOf_cons]
      omega

theorem totalOf_append (left right : List Bucket) :
    totalOf (left ++ right) = totalOf left + totalOf right := by
  rw [totalOf, List.map_append, List.sum_append_int, totalOf, totalOf]

theorem count_le_totalOf {buckets : List Bucket}
    (nonneg : ∀ bucket ∈ buckets, 0 ≤ bucket.count) :
    ∀ bucket ∈ buckets, bucket.count ≤ totalOf buckets := by
  intro bucket member
  rcases List.append_of_mem member with ⟨before, after, rfl⟩
  rcases List.forall_mem_append.mp nonneg with ⟨beforeNonneg, restNonneg⟩
  have beforeTotal := totalOf_nonneg beforeNonneg
  have afterTotal := totalOf_nonneg (List.forall_mem_cons.mp restNonneg).2
  rw [totalOf_append, totalOf_cons]
  omega

variable {order : LogsOrder} {direction : SortDirection}

theorem isNeeded_eq (timed : order.timeDirection? = some direction) (limit : Nat)
    (counted : Int) (bucket : Bucket) :
    isNeeded order limit counted bucket =
      (0 < bucket.count && counted < rowLimit limit) := by
  rw [isNeeded, timed, Option.isNone_some, Bool.false_or]

/-- Once enough rows are counted, no bucket is needed any more. -/
theorem neededBuckets_eq_nil (timed : order.timeDirection? = some direction) {limit : Nat}
    {counted : Int} {buckets : List Bucket}
    (nonneg : ∀ bucket ∈ buckets, 0 ≤ bucket.count) (enough : rowLimit limit ≤ counted) :
    neededBuckets order limit counted buckets = [] := by
  induction buckets generalizing counted with
  | nil => rfl
  | cons bucket buckets induction =>
      rcases List.forall_mem_cons.mp nonneg with ⟨first, rest⟩
      have fits : rowLimit limit ≤ Cell.maxInteger := by
        apply Int.min_le_right
      have enoughLater : rowLimit limit ≤ addCount counted bucket := by
        apply le_saturate fits
        omega
      rw [neededBuckets, isNeeded_eq timed, induction rest enoughLater]
      simp [Int.not_lt.mpr enough]

/-- Counts that are not negative can be cut at each sum or once at the end. -/
theorem addCount_saturate {counted : Int} (above : 0 ≤ counted) {bucket : Bucket}
    (nonneg : 0 ≤ bucket.count) :
    addCount (saturate counted) bucket = saturate (counted + bucket.count) := by
  have negative : Cell.minInteger < 0 := by decide
  have positive : 0 < Cell.maxInteger := by decide
  unfold addCount saturate
  omega

theorem rowLimit_le_saturate_iff {limit : Nat} {counted : Int} :
    rowLimit limit ≤ saturate counted ↔ rowLimit limit ≤ counted := by
  have negative : Cell.minInteger < 0 := by decide
  have positive : 0 < Cell.maxInteger := by decide
  unfold rowLimit saturate
  omega

/-- The walk takes the buckets with rows up to the first bucket with which it has enough
rows. -/
theorem neededBuckets_stop (timed : order.timeDirection? = some direction) (limit : Nat)
    {counted : Int} (above : 0 ≤ counted) {buckets : List Bucket}
    (nonneg : ∀ bucket ∈ buckets, 0 ≤ bucket.count) :
    ∃ front back, buckets = front ++ back ∧
      neededBuckets order limit (saturate counted) buckets =
        front.filter (fun bucket => 0 < bucket.count) ∧
      (back = [] ∨ rowLimit limit ≤ counted + totalOf front) ∧
      ∀ shorter, shorter <+: front → shorter.length < front.length →
        counted + totalOf shorter < rowLimit limit := by
  induction buckets generalizing counted with
  | nil =>
      refine ⟨[], [], rfl, rfl, .inl rfl, ?_⟩
      intro shorter _ less
      contradiction
  | cons bucket buckets induction =>
      by_cases enough : rowLimit limit ≤ counted
      · refine ⟨[], bucket :: buckets, rfl, ?_, .inr ?_, ?_⟩
        · exact neededBuckets_eq_nil timed nonneg (rowLimit_le_saturate_iff.mpr enough)
        · simpa [totalOf] using enough
        · intro shorter _ less
          contradiction
      · rcases List.forall_mem_cons.mp nonneg with ⟨first, rest⟩
        have aboveLater : 0 ≤ counted + bucket.count := by omega
        rcases induction aboveLater rest with ⟨front, back, split, needed, stops, shortest⟩
        have few : ¬rowLimit limit ≤ saturate counted := by
          rw [rowLimit_le_saturate_iff]
          exact enough
        refine ⟨bucket :: front, back, ?_, ?_, ?_, ?_⟩
        · rw [split, List.cons_append]
        · rw [neededBuckets, isNeeded_eq timed, addCount_saturate above first, needed,
            List.filter_cons]
          simp [Int.not_le.mp few]
        · rw [totalOf_cons]
          apply stops.imp id
          omega
        · intro shorter isPrefix less
          cases shorter with
          | nil =>
              simp [totalOf]
              omega
          | cons head shorter =>
              rcases List.cons_prefix_cons.mp isPrefix with ⟨rfl, later⟩
              have bound := shortest shorter later (Nat.lt_of_succ_lt_succ less)
              rw [totalOf_cons]
              omega

theorem neededBuckets_split (timed : order.timeDirection? = some direction) (limit : Nat)
    {counted : Int} {buckets : List Bucket}
    (nonneg : ∀ bucket ∈ buckets, 0 ≤ bucket.count)
    (fits : counted + totalOf buckets ≤ Cell.maxInteger)
    (above : 0 ≤ counted) :
    ∃ front back, buckets = front ++ back ∧
      neededBuckets order limit counted buckets =
        front.filter (fun bucket => 0 < bucket.count) ∧
      (back = [] ∨ rowLimit limit ≤ counted + totalOf front) := by
  have negative : Cell.minInteger < 0 := by decide
  have total := totalOf_nonneg nonneg
  have kept : saturate counted = counted := by
    apply saturate_eq_self <;> omega
  rcases neededBuckets_stop timed limit above nonneg with ⟨front, back, split, needed, stops, _⟩
  rw [kept] at needed
  exact ⟨front, back, split, needed, stops⟩

/-- Every needed bucket is one of those that were walked, and has rows. -/
theorem mem_of_mem_neededBuckets {limit : Nat} {counted : Int} {buckets : List Bucket}
    {bucket : Bucket} (needed : bucket ∈ neededBuckets order limit counted buckets) :
    bucket ∈ buckets ∧ 0 < bucket.count := by
  induction buckets generalizing counted with
  | nil => contradiction
  | cons first buckets induction =>
      rw [neededBuckets] at needed
      have later (found : bucket ∈ neededBuckets order limit (addCount counted first) buckets) :
          bucket ∈ first :: buckets ∧ 0 < bucket.count :=
        ⟨List.mem_cons_of_mem first (induction found).1, (induction found).2⟩
      split at needed
      · next isNeededFirst =>
          rcases List.mem_cons.mp needed with rfl | found
          · rw [isNeeded, Bool.and_eq_true, decide_eq_true_eq] at isNeededFirst
            exact ⟨List.mem_cons_self, isNeededFirst.1⟩
          · exact later found
      · exact later needed

/-! In an order that is not by time nothing is left out but buckets without rows. -/

theorem timeDirection?_eq_none (untimed : order.field ≠ "timestamp") :
    order.timeDirection? = none :=
  if_neg untimed

theorem neededBuckets_eq_filter (untimed : order.timeDirection? = none) (limit : Nat)
    (counted : Int) (buckets : List Bucket) :
    neededBuckets order limit counted buckets =
      buckets.filter fun bucket => 0 < bucket.count := by
  induction buckets generalizing counted with
  | nil => rfl
  | cons bucket buckets induction =>
      rw [neededBuckets, isNeeded, untimed, induction, List.filter_cons]
      simp

/-! A walk takes a bucket as soon as one has rows: what was counted before it cannot be
enough, since only counts that are not positive were added. -/

theorem neededBuckets_eq_nil_iff {limit : Nat} (limited : limit ≠ 0) {counted : Int}
    (none : counted ≤ 0) (buckets : List Bucket) :
    neededBuckets order limit counted buckets = [] ↔ ∀ bucket ∈ buckets, bucket.count ≤ 0 := by
  induction buckets generalizing counted with
  | nil => simp [neededBuckets]
  | cons bucket buckets induction =>
      rw [neededBuckets, List.forall_mem_cons]
      by_cases rows : bucket.count ≤ 0
      · have unneeded : isNeeded order limit counted bucket = false := by
          simp [isNeeded, Int.not_lt.mpr rows]
        have noneLater : addCount counted bucket ≤ 0 := by
          have negative : Cell.minInteger < 0 := by decide
          unfold addCount saturate
          omega
        rw [unneeded, if_neg Bool.false_ne_true, induction noneLater]
        simp [rows]
      · have few : counted < rowLimit limit := by
          have positive : 0 < Cell.maxInteger := by decide
          unfold rowLimit
          omega
        have needed : isNeeded order limit counted bucket = true := by
          simp [isNeeded, Int.not_le.mp rows, few]
        simp [needed, rows]

theorem neededRanges_eq_nil_iff (order : LogsOrder) {limit : Nat} (limited : limit ≠ 0)
    (interval : Int) (range : TimeRange) (buckets : List Bucket) :
    neededRanges order limit interval range buckets = [] ↔
      ∀ bucket ∈ buckets, bucket.count ≤ 0 := by
  have walked : ∀ bucket, bucket ∈ walk order buckets ↔ bucket ∈ buckets := by
    intro bucket
    unfold walk
    split
    · exact List.mem_reverse
    · exact Iff.rfl
  rw [neededRanges, List.map_eq_nil_iff, neededBuckets_eq_nil_iff limited (Int.le_refl 0)]
  simp only [walked]

end LogQuery
