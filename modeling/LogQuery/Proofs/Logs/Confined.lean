import LogQuery.Proofs.Logs.FirstPage

namespace LogQuery

/-! ## Exact counts

A response may have a bucket twice, and its buckets need not lie on one grid: what
confines the page to the range is only that no bucket is wider than the range, and that
a bucket without rows of the range has the count zero. -/

section

variable (times : Multiset ℚ) (range : TimeRange) (interval : Int) (buckets : List Bucket)

def CountsRows : Prop :=
  ∀ bucket ∈ buckets, bucket.count = (bucket.rowsIn interval range times).card

/-- Only a bucket without rows may be missing. -/
def CoversRows : Prop :=
  ∀ time ∈ times, range.Holds time → ∃ bucket ∈ buckets, bucket.Holds interval time

end

section

variable {times : Multiset ℚ} {range : TimeRange} {interval : Int} {buckets other : List Bucket}

theorem CountsRows.perm (counts : CountsRows times range interval buckets)
    (same : buckets.Perm other) : CountsRows times range interval other :=
  fun bucket member => counts bucket (same.mem_iff.mpr member)

theorem CoversRows.perm (covers : CoversRows times range interval buckets)
    (same : buckets.Perm other) : CoversRows times range interval other := by
  intro time member inRange
  rcases covers time member inRange with ⟨bucket, found, inBucket⟩
  exact ⟨bucket, same.mem_iff.mp found, inBucket⟩

/-- A bucket with a positive count meets the range. -/
theorem CountsRows.exists_row (counts : CountsRows times range interval buckets)
    {bucket : Bucket} (member : bucket ∈ buckets) (positive : 0 < bucket.count) :
    ∃ time, range.Holds time ∧ bucket.Holds interval time := by
  rw [counts bucket member] at positive
  rcases Multiset.card_pos_iff_exists_mem.mp (Int.natCast_pos.mp positive) with ⟨time, inRows⟩
  exact ⟨time, (Multiset.mem_filter.mp inRows).2⟩

end

/-! ## The ranges of the page -/

theorem bucketTimes_ordered {range : TimeRange} {interval : Int} {bucket : Bucket}
    (positive : 0 < interval) (representable : range.last ≤ Cell.maxInteger)
    (nonempty : range.first ≤ range.last) {time : ℚ} (inRange : range.Holds time)
    (inBucket : bucket.Holds interval time) :
    (bucketTimes interval bucket.start range).first ≤
      (bucketTimes interval bucket.start range).last := by
  have startsBefore : bucket.start ≤ range.last :=
    Rat.intCast_le_intCast.mp (inBucket.1.trans inRange.2)
  have endsAfter : range.first < bucket.start + interval :=
    Rat.intCast_lt_intCast.mp (inRange.1.trans_lt inBucket.2)
  have rangeStops : range.first ≤ saturate (bucket.start + interval) :=
    le_saturate (nonempty.trans representable) endsAfter.le
  have bucketStops : bucket.start ≤ saturate (bucket.start + interval) :=
    le_saturate (startsBefore.trans representable) (by omega)
  unfold bucketTimes
  dsimp only
  split
  · exact rangeStops
  · split
    · exact startsBefore
    · exact bucketStops

theorem neededRanges_ordered {range : TimeRange} {interval : Int} (positive : 0 < interval)
    (representable : range.last ≤ Cell.maxInteger) (nonempty : range.first ≤ range.last)
    {times : Multiset ℚ} {buckets : List Bucket}
    (counts : CountsRows times range interval buckets) (order : LogsOrder) (limit : Nat) :
    ∀ cut ∈ neededRanges order limit interval range buckets, cut.first ≤ cut.last := by
  intro cut member
  rcases List.mem_map.mp member with ⟨bucket, needed, rfl⟩
  rcases mem_of_mem_neededBuckets needed with ⟨walked, counted⟩
  have inBuckets := (walk_perm order buckets).mem_iff.mp walked
  rcases counts.exists_row inBuckets counted with ⟨time, inRange, inBucket⟩
  exact bucketTimes_ordered positive representable nonempty inRange inBucket

theorem isShown_neededRanges_untimed {range : TimeRange} {interval : Int}
    (representable : range.last ≤ Cell.maxInteger) {times : Multiset ℚ} {buckets : List Bucket}
    (counts : CountsRows times range interval buckets)
    (covers : CoversRows times range interval buckets) {order : LogsOrder}
    (untimed : order.timeDirection? = none) (limit : Nat) {time : ℚ} (member : time ∈ times)
    (inRange : range.Holds time) :
    IsShown (neededRanges order limit interval range buckets) time := by
  have walked := (walk_perm order buckets).symm
  have taken : IsTaken range interval (walk order buckets) time :=
    ⟨inRange, covers.perm walked time member inRange⟩
  unfold neededRanges
  rw [neededBuckets_eq_filter untimed]
  exact isShown_of_isTaken representable (counts.perm walked) member taken

/-- The page asks for no row outside the requested range and for no range that ends before
it starts; in an order that is not by time it asks for every row of the range. -/
theorem neededRanges_within_range {range : TimeRange} {span : Int}
    (spanned : range.span = .ok span) (firstFits : Cell.minInteger ≤ range.first)
    (lastFits : range.last ≤ Cell.maxInteger) {times : Multiset ℚ} {response : List Bucket}
    (counts : CountsRows times range (bucketInterval span) response) (order : LogsOrder)
    (limit : Nat) :
    (∀ time, IsShown (neededRanges order limit (bucketInterval span) range
        (sortBuckets response)) time → range.Holds time) ∧
      (∀ cut ∈ neededRanges order limit (bucketInterval span) range (sortBuckets response),
        cut.first ≤ cut.last) ∧
      (order.field ≠ "timestamp" → CoversRows times range (bucketInterval span) response →
        times.filter (IsShown (neededRanges order limit (bucketInterval span) range
          (sortBuckets response))) = times.filter range.Holds) := by
  rcases span_parts spanned with ⟨spanEq, positive⟩
  rcases bucketInterval_bounds positive with ⟨wide, noWider⟩
  have narrow : bucketInterval span ≤ range.last - range.first := by omega
  have nonempty : range.first ≤ range.last := by omega
  have sorted := (sortBuckets_perm response).symm
  have confined : ∀ time, IsShown (neededRanges order limit (bucketInterval span) range
      (sortBuckets response)) time → range.Holds time :=
    fun time shown => holds_of_isShown narrow firstFits nonempty shown
  refine ⟨confined, neededRanges_ordered wide lastFits nonempty (counts.perm sorted) order limit,
    ?_⟩
  intro untimed covers
  apply Multiset.filter_congr
  intro time member
  exact ⟨confined time, isShown_neededRanges_untimed lastFits (counts.perm sorted)
    (covers.perm sorted) (timeDirection?_eq_none untimed) limit member⟩

/-- An order by a dynamic field over a minute, with a bucket cut at either end. -/
theorem neededRanges_within_minute :
    (⟨1, 62⟩ : TimeRange).span = .ok 61 ∧
      CountsRows {3 / 2, 3, 62} ⟨1, 62⟩ (bucketInterval 61)
        [⟨62, 1⟩, ⟨0, 1⟩, ⟨4, 0⟩, ⟨2, 1⟩] ∧
      CoversRows {3 / 2, 3, 62} ⟨1, 62⟩ (bucketInterval 61)
        [⟨62, 1⟩, ⟨0, 1⟩, ⟨4, 0⟩, ⟨2, 1⟩] ∧
      (∀ time, IsShown (neededRanges ⟨"duration", .descending⟩ 1 (bucketInterval 61) ⟨1, 62⟩
          (sortBuckets [⟨62, 1⟩, ⟨0, 1⟩, ⟨4, 0⟩, ⟨2, 1⟩])) time →
        (⟨1, 62⟩ : TimeRange).Holds time) ∧
      (∀ cut ∈ neededRanges ⟨"duration", .descending⟩ 1 (bucketInterval 61) ⟨1, 62⟩
          (sortBuckets [⟨62, 1⟩, ⟨0, 1⟩, ⟨4, 0⟩, ⟨2, 1⟩]), cut.first ≤ cut.last) ∧
      Multiset.filter (IsShown (neededRanges ⟨"duration", .descending⟩ 1 (bucketInterval 61)
          ⟨1, 62⟩ (sortBuckets [⟨62, 1⟩, ⟨0, 1⟩, ⟨4, 0⟩, ⟨2, 1⟩]))) {3 / 2, 3, 62} =
        Multiset.filter (⟨1, 62⟩ : TimeRange).Holds {3 / 2, 3, 62} := by
  have spanned : (⟨1, 62⟩ : TimeRange).span = .ok 61 := by rfl
  have counts : CountsRows {3 / 2, 3, 62} ⟨1, 62⟩ (bucketInterval 61)
      [⟨62, 1⟩, ⟨0, 1⟩, ⟨4, 0⟩, ⟨2, 1⟩] := by
    unfold CountsRows
    decide +kernel
  have covers : CoversRows {3 / 2, 3, 62} ⟨1, 62⟩ (bucketInterval 61)
      [⟨62, 1⟩, ⟨0, 1⟩, ⟨4, 0⟩, ⟨2, 1⟩] := by
    unfold CoversRows
    decide +kernel
  have within := neededRanges_within_range spanned (by decide) (by decide) counts
    ⟨"duration", .descending⟩ 1
  exact ⟨spanned, counts, covers, within.1, within.2.1, within.2.2 (by decide) covers⟩

end LogQuery
