import LogQuery.Proofs.Logs.FirstPage

namespace LogQuery

/-! ## The shortest sufficient walk

Counts may add up to more than 64 bits hold. What was counted is then cut, but no limit lies
above the cut, so a walk still ends with the bucket that brings the last row it has to. -/

/-- The buckets, which come oldest first, in the order in which their rows are listed. -/
def SortDirection.walked : SortDirection → List Bucket → List Bucket
  | .ascending, buckets => buckets
  | .descending, buckets => buckets.reverse

/-- The shortest start of a walk whose buckets have as many rows as the limit allows. -/
structure IsShortest (limit : Nat) (walked front : List Bucket) : Prop where
  start : front <+: walked
  enough : limit ≤ totalOf front
  shortest : ∀ other, other <+: walked → limit ≤ totalOf other → front.length ≤ other.length

/-- The ranges of the buckets with rows, each cut to the requested range. -/
def cutRanges (interval : Int) (range : TimeRange) (buckets : List Bucket) : List TimeRange :=
  (buckets.filter fun bucket => 0 < bucket.count).map fun bucket =>
    bucketTimes interval bucket.start range

theorem walk_eq_walked {order : LogsOrder} {direction : SortDirection}
    (timed : order.timeDirection? = some direction) (buckets : List Bucket) :
    walk order buckets = direction.walked buckets := by
  cases direction with
  | ascending => exact walk_ascending timed buckets
  | descending => exact walk_descending timed buckets

theorem SortDirection.walked_perm (direction : SortDirection) (buckets : List Bucket) :
    (direction.walked buckets).Perm buckets := by
  cases direction with
  | ascending => exact List.Perm.refl buckets
  | descending => exact buckets.reverse_perm

theorem rowLimit_eq {limit : Nat} (fits : limit ≤ Cell.maxInteger) : rowLimit limit = limit :=
  Int.min_eq_left fits

section

variable {order : LogsOrder} {direction : SortDirection} {limit : Nat}
  {buckets : List Bucket} (interval : Int) (range : TimeRange)

/-- What a walk stops at is all of it, or is enough and was not enough any earlier. -/
theorem exists_walked_front (timed : order.timeDirection? = some direction)
    (fits : limit ≤ Cell.maxInteger) (nonneg : ∀ bucket ∈ buckets, 0 ≤ bucket.count) :
    ∃ front back, direction.walked buckets = front ++ back ∧
      neededRanges order limit interval range buckets = cutRanges interval range front ∧
      (back = [] ∨ limit ≤ totalOf front) ∧
      ∀ shorter, shorter <+: front → shorter.length < front.length → totalOf shorter < limit := by
  have walkedNonneg : ∀ bucket ∈ direction.walked buckets, 0 ≤ bucket.count := by
    intro bucket member
    exact nonneg bucket ((direction.walked_perm buckets).mem_iff.mp member)
  have none : saturate 0 = 0 := by decide
  rcases neededBuckets_stop timed limit (Int.le_refl 0) walkedNonneg with
    ⟨front, back, split, needed, stops, few⟩
  simp only [Int.zero_add, rowLimit_eq fits] at stops few
  refine ⟨front, back, split, ?_, stops, few⟩
  rw [neededRanges, walk_eq_walked timed, ← none, needed, cutRanges]

theorem neededRanges_of_few (timed : order.timeDirection? = some direction)
    (fits : limit ≤ Cell.maxInteger) (nonneg : ∀ bucket ∈ buckets, 0 ≤ bucket.count)
    (few : totalOf buckets < limit) :
    neededRanges order limit interval range buckets =
      cutRanges interval range (direction.walked buckets) := by
  rcases exists_walked_front interval range timed fits nonneg with
    ⟨front, back, split, needed, stops, _⟩
  have total := totalOf_perm (direction.walked_perm buckets)
  rcases stops with last | enough
  · rw [needed, split, last, List.append_nil]
  · have behind : 0 ≤ totalOf back := by
      apply totalOf_nonneg
      intro bucket member
      apply nonneg bucket
      apply (direction.walked_perm buckets).mem_iff.mp
      rw [split]
      exact List.mem_append_right front member
    rw [split, totalOf_append] at total
    omega

theorem neededRanges_of_enough (timed : order.timeDirection? = some direction)
    (fits : limit ≤ Cell.maxInteger) (nonneg : ∀ bucket ∈ buckets, 0 ≤ bucket.count)
    (enough : limit ≤ totalOf buckets) :
    ∃ front, IsShortest limit (direction.walked buckets) front ∧
      neededRanges order limit interval range buckets = cutRanges interval range front := by
  rcases exists_walked_front interval range timed fits nonneg with
    ⟨front, back, split, needed, stops, few⟩
  have isPrefix : front <+: direction.walked buckets := by
    rw [split]
    exact List.prefix_append front back
  refine ⟨front, ⟨isPrefix, ?_, ?_⟩, needed⟩
  · rcases stops with last | reached
    · rw [last, List.append_nil] at split
      rw [← split, totalOf_perm (direction.walked_perm buckets)]
      exact enough
    · exact reached
  · intro other otherPrefix otherEnough
    by_contra shorter
    have less : other.length < front.length := Nat.not_le.mp shorter
    have within : other <+: front :=
      List.prefix_of_prefix_length_le otherPrefix isPrefix less.le
    have tooFew := few other within less
    omega

/-- Both directions need the same buckets of one walk. -/
theorem neededBuckets_congr {one other : LogsOrder}
    (same : one.timeDirection?.isNone = other.timeDirection?.isNone) (limit : Nat)
    (counted : Int) (buckets : List Bucket) :
    neededBuckets one limit counted buckets = neededBuckets other limit counted buckets := by
  induction buckets generalizing counted with
  | nil => rfl
  | cons bucket buckets induction =>
      rw [neededBuckets, neededBuckets, isNeeded, isNeeded, same, induction]

end

/-- In an order by time the page asks for the buckets with rows of the shortest part of the
walk that fills it, or of the whole walk if that has too few rows. The walk that starts with
the newest bucket does on a list what the other one does on the reversed list. In any other
order all buckets with rows are asked for, the oldest first. -/
theorem neededRanges_shortest {limit : Nat} (fits : limit ≤ Cell.maxInteger)
    {buckets : List Bucket} (nonneg : ∀ bucket ∈ buckets, 0 ≤ bucket.count) (interval : Int)
    (range : TimeRange) :
    (∀ direction,
      (totalOf buckets < limit →
        neededRanges ⟨"timestamp", direction⟩ limit interval range buckets =
          cutRanges interval range (direction.walked buckets)) ∧
      (limit ≤ totalOf buckets →
        ∃ front, IsShortest limit (direction.walked buckets) front ∧
          neededRanges ⟨"timestamp", direction⟩ limit interval range buckets =
            cutRanges interval range front)) ∧
    neededRanges ⟨"timestamp", .descending⟩ limit interval range buckets =
      neededRanges ⟨"timestamp", .ascending⟩ limit interval range buckets.reverse ∧
    ∀ order : LogsOrder, order.field ≠ "timestamp" →
      neededRanges order limit interval range buckets = cutRanges interval range buckets := by
  refine ⟨?_, ?_, ?_⟩
  · intro direction
    have timed : (⟨"timestamp", direction⟩ : LogsOrder).timeDirection? = some direction := rfl
    constructor
    · exact neededRanges_of_few interval range timed fits nonneg
    · exact neededRanges_of_enough interval range timed fits nonneg
  · have bothTimed : (⟨"timestamp", .descending⟩ : LogsOrder).timeDirection?.isNone =
        (⟨"timestamp", .ascending⟩ : LogsOrder).timeDirection?.isNone := rfl
    rw [neededRanges, neededBuckets_congr bothTimed]
    rfl
  · intro order untimed
    have unordered := timeDirection?_eq_none untimed
    rw [neededRanges, walk, unordered, neededBuckets_eq_filter unordered, cutRanges]

/-- Sixteen rows are enough with the newest bucket, and seventeen take one more that has
rows. -/
theorem neededRanges_shortest_hour :
    (17 : Nat) ≤ Cell.maxInteger ∧
      (∀ bucket ∈ [(⟨0, 5⟩ : Bucket), ⟨120, 16⟩, ⟨240, 0⟩, ⟨360, 16⟩], 0 ≤ bucket.count) ∧
      neededRanges ⟨"timestamp", .descending⟩ 17 120 ⟨60, 420⟩
          [⟨0, 5⟩, ⟨120, 16⟩, ⟨240, 0⟩, ⟨360, 16⟩] =
        neededRanges ⟨"timestamp", .ascending⟩ 17 120 ⟨60, 420⟩
          [⟨360, 16⟩, ⟨240, 0⟩, ⟨120, 16⟩, ⟨0, 5⟩] ∧
      neededRanges ⟨"timestamp", .descending⟩ 17 120 ⟨60, 420⟩
          [⟨0, 5⟩, ⟨120, 16⟩, ⟨240, 0⟩, ⟨360, 16⟩] = [⟨360, 420⟩, ⟨120, 240⟩] ∧
      ∃ front, IsShortest 17 [⟨360, 16⟩, ⟨240, 0⟩, ⟨120, 16⟩, ⟨0, 5⟩] front ∧
        neededRanges ⟨"timestamp", .descending⟩ 17 120 ⟨60, 420⟩
            [⟨0, 5⟩, ⟨120, 16⟩, ⟨240, 0⟩, ⟨360, 16⟩] =
          cutRanges 120 ⟨60, 420⟩ front := by
  have fits : (17 : Nat) ≤ Cell.maxInteger := by decide
  have nonneg : ∀ bucket ∈ [(⟨0, 5⟩ : Bucket), ⟨120, 16⟩, ⟨240, 0⟩, ⟨360, 16⟩],
      0 ≤ bucket.count := by decide
  rcases neededRanges_shortest fits nonneg 120 ⟨60, 420⟩ with ⟨timed, reversed, _⟩
  exact ⟨fits, nonneg, reversed, by decide, (timed .descending).2 (by decide)⟩

end LogQuery
