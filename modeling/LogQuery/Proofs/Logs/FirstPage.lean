import Mathlib.Algebra.BigOperators.Group.List.Basic
import Mathlib.Data.Rat.Cast.Order
import Mathlib.Tactic.Linarith
import LogQuery.Proofs.Logs.Page
import LogQuery.Proofs.Logs.Walk

namespace LogQuery

/-! ## Histograms

Both ends of a range belong to it. Of a bucket only the start does. -/

def TimeRange.Holds (range : TimeRange) (time : ℚ) : Prop :=
  (range.first : ℚ) ≤ time ∧ time ≤ (range.last : ℚ)

def Bucket.Holds (interval : Int) (bucket : Bucket) (time : ℚ) : Prop :=
  (bucket.start : ℚ) ≤ time ∧ time < ((bucket.start + interval : Int) : ℚ)

instance (range : TimeRange) : DecidablePred range.Holds :=
  fun time => inferInstanceAs (Decidable ((range.first : ℚ) ≤ time ∧ time ≤ (range.last : ℚ)))

instance (interval : Int) (bucket : Bucket) : DecidablePred (bucket.Holds interval) :=
  fun time => inferInstanceAs (Decidable
    ((bucket.start : ℚ) ≤ time ∧ time < ((bucket.start + interval : Int) : ℚ)))

/-- The rows of a bucket that lie in the range. -/
def Bucket.rowsIn (interval : Int) (bucket : Bucket) (range : TimeRange)
    (times : Multiset ℚ) : Multiset ℚ :=
  times.filter fun time => range.Holds time ∧ bucket.Holds interval time

/-- The buckets lie on one grid, each at most once, and count the rows in the range
exactly. Only a bucket without rows may be missing. -/
structure IsHistogram (times : Multiset ℚ) (range : TimeRange) (interval : Int)
    (buckets : List Bucket) : Prop where
  distinct : (buckets.map Bucket.start).Nodup
  onGrid : ∃ origin, ∀ bucket ∈ buckets, interval ∣ bucket.start - origin
  exact : ∀ bucket ∈ buckets, bucket.count = (bucket.rowsIn interval range times).card
  complete : ∀ time ∈ times, range.Holds time → ∃ bucket ∈ buckets, bucket.Holds interval time
  total : totalOf buckets ≤ Cell.maxInteger

namespace IsHistogram

variable {times : Multiset ℚ} {range : TimeRange} {interval : Int}
  {buckets other : List Bucket}

/-- The order in which the buckets come does not matter. -/
theorem perm (histogram : IsHistogram times range interval buckets)
    (same : buckets.Perm other) : IsHistogram times range interval other where
  distinct := (same.map Bucket.start).nodup_iff.mp histogram.distinct
  onGrid := by
    rcases histogram.onGrid with ⟨origin, aligned⟩
    exact ⟨origin, fun bucket member => aligned bucket (same.mem_iff.mpr member)⟩
  exact bucket member := histogram.exact bucket (same.mem_iff.mpr member)
  complete time member held := by
    rcases histogram.complete time member held with ⟨bucket, found, holds⟩
    exact ⟨bucket, same.mem_iff.mp found, holds⟩
  total := by
    have sameTotal : totalOf buckets = totalOf other := (same.map Bucket.count).sum_eq
    rw [← sameTotal]
    exact histogram.total

theorem count_nonneg (histogram : IsHistogram times range interval buckets) :
    ∀ bucket ∈ buckets, 0 ≤ bucket.count := by
  intro bucket member
  rw [histogram.exact bucket member]
  exact Int.natCast_nonneg _

/-- Of two buckets one ends before the other starts. -/
theorem gap (histogram : IsHistogram times range interval buckets) {one later : Bucket}
    (oneMember : one ∈ buckets) (laterMember : later ∈ buckets)
    (ordered : one.start < later.start) : one.start + interval ≤ later.start := by
  rcases histogram.onGrid with ⟨origin, aligned⟩
  have divides : interval ∣ later.start - one.start := by
    have difference := Int.dvd_sub (aligned later laterMember) (aligned one oneMember)
    rw [show later.start - origin - (one.start - origin) = later.start - one.start by omega]
      at difference
    exact difference
  have bound := Int.le_of_dvd (by omega) divides
  omega

end IsHistogram

/-- The first bucket of two is passed before the second one is entered. -/
def Bucket.Precedes (direction : SortDirection) (interval : Int) (one other : Bucket) :
    Prop :=
  match direction with
  | .ascending => one.start + interval ≤ other.start
  | .descending => other.start + interval ≤ one.start

theorem Bucket.Precedes.ordered {direction : SortDirection} {interval : Int}
    {one other : Bucket} (precedes : one.Precedes direction interval other) {first last : ℚ}
    (inOne : one.Holds interval first) (inOther : other.Holds interval last) :
    direction.Orders first last := by
  rcases inOne with ⟨oneStarts, oneEnds⟩
  rcases inOther with ⟨otherStarts, otherEnds⟩
  cases direction with
  | ascending =>
      have bound : ((one.start + interval : Int) : ℚ) ≤ (other.start : ℚ) :=
        Rat.intCast_le_intCast.mpr precedes
      exact (oneEnds.le.trans bound).trans otherStarts
  | descending =>
      have bound : ((other.start + interval : Int) : ℚ) ≤ (one.start : ℚ) :=
        Rat.intCast_le_intCast.mpr precedes
      exact (otherEnds.le.trans bound).trans oneStarts

theorem Bucket.Precedes.disjoint {direction : SortDirection} {interval : Int}
    {one other : Bucket} (precedes : one.Precedes direction interval other) {time : ℚ}
    (inOne : one.Holds interval time) : ¬other.Holds interval time := by
  intro inOther
  rcases inOne with ⟨oneStarts, oneEnds⟩
  rcases inOther with ⟨otherStarts, otherEnds⟩
  cases direction with
  | ascending =>
      have bound : ((one.start + interval : Int) : ℚ) ≤ (other.start : ℚ) :=
        Rat.intCast_le_intCast.mpr precedes
      linarith
  | descending =>
      have bound : ((other.start + interval : Int) : ℚ) ≤ (one.start : ℚ) :=
        Rat.intCast_le_intCast.mpr precedes
      linarith

/-! ## The walk over a histogram -/

theorem totalOf_perm {buckets other : List Bucket} (same : buckets.Perm other) :
    totalOf buckets = totalOf other :=
  (same.map Bucket.count).sum_eq

theorem sortBuckets_perm (buckets : List Bucket) : (sortBuckets buckets).Perm buckets :=
  List.mergeSort_perm buckets _

theorem startsBefore_trans (one middle other : Bucket)
    (first : decide (one.start ≤ middle.start) = true)
    (second : decide (middle.start ≤ other.start) = true) :
    decide (one.start ≤ other.start) = true := by
  rw [decide_eq_true_eq] at first second ⊢
  exact first.trans second

theorem startsBefore_total (one other : Bucket) :
    (decide (one.start ≤ other.start) || decide (other.start ≤ one.start)) = true := by
  rw [Bool.or_eq_true, decide_eq_true_eq, decide_eq_true_eq]
  exact Int.le_total one.start other.start

theorem pairwise_sortBuckets (buckets : List Bucket) :
    (sortBuckets buckets).Pairwise fun one other => one.start ≤ other.start := by
  have sorted : (sortBuckets buckets).Pairwise fun one other =>
      decide (one.start ≤ other.start) = true :=
    List.pairwise_mergeSort startsBefore_trans startsBefore_total buckets
  apply sorted.imp
  intro one other ordered
  exact of_decide_eq_true ordered

theorem walk_ascending {order : LogsOrder} (timed : order.timeDirection? = some .ascending)
    (buckets : List Bucket) : walk order buckets = buckets := by
  rw [walk, timed]

theorem walk_descending {order : LogsOrder} (timed : order.timeDirection? = some .descending)
    (buckets : List Bucket) : walk order buckets = buckets.reverse := by
  rw [walk, timed]

theorem walk_perm (order : LogsOrder) (buckets : List Bucket) :
    (walk order buckets).Perm buckets := by
  unfold walk
  split
  · exact buckets.reverse_perm
  · exact List.Perm.refl buckets

/-- The walk passes the buckets of a histogram one after the other. -/
theorem pairwise_walk {times : Multiset ℚ} {range : TimeRange} {interval : Int}
    {response : List Bucket} (histogram : IsHistogram times range interval response)
    {order : LogsOrder} {direction : SortDirection}
    (timed : order.timeDirection? = some direction) :
    (walk order (sortBuckets response)).Pairwise (Bucket.Precedes direction interval) := by
  have sorted := histogram.perm (sortBuckets_perm response).symm
  have apart : (sortBuckets response).Pairwise fun one other => one.start ≠ other.start :=
    List.pairwise_map.mp sorted.distinct
  have gaps : (sortBuckets response).Pairwise fun one other =>
      one.start + interval ≤ other.start := by
    have ordered := (pairwise_sortBuckets response).and apart
    apply ordered.imp_of_mem
    intro one other oneMember otherMember both
    exact sorted.gap oneMember otherMember (lt_of_le_of_ne both.1 both.2)
  cases direction with
  | ascending =>
      rw [walk_ascending timed]
      exact gaps
  | descending =>
      rw [walk_descending timed]
      exact List.pairwise_reverse.mpr gaps

/-! ## The rows of the needed buckets -/

/-- A row of the range that lies in one of the buckets. -/
def IsTaken (range : TimeRange) (interval : Int) (buckets : List Bucket) (time : ℚ) : Prop :=
  range.Holds time ∧ ∃ bucket ∈ buckets, bucket.Holds interval time

instance (range : TimeRange) (interval : Int) (buckets : List Bucket) :
    DecidablePred (IsTaken range interval buckets) :=
  fun time => inferInstanceAs (Decidable
    (range.Holds time ∧ ∃ bucket ∈ buckets, bucket.Holds interval time))

theorem isTaken_cons {range : TimeRange} {interval : Int} {bucket : Bucket}
    {buckets : List Bucket} {time : ℚ} :
    IsTaken range interval (bucket :: buckets) time ↔
      (range.Holds time ∧ bucket.Holds interval time) ∨ IsTaken range interval buckets time := by
  unfold IsTaken
  rw [List.exists_mem_cons_iff]
  tauto

/-- Buckets that share no row have as many rows as their counts say. -/
theorem card_isTaken {times : Multiset ℚ} {range : TimeRange} {interval : Int}
    {direction : SortDirection} {buckets : List Bucket}
    (exact : ∀ bucket ∈ buckets, bucket.count = (bucket.rowsIn interval range times).card)
    (ordered : buckets.Pairwise (Bucket.Precedes direction interval)) :
    ((times.filter (IsTaken range interval buckets)).card : Int) = totalOf buckets := by
  induction buckets with
  | nil => simp [IsTaken, totalOf]
  | cons bucket buckets induction =>
      rcases List.forall_mem_cons.mp exact with ⟨bucketExact, restExact⟩
      rcases List.pairwise_cons.mp ordered with ⟨first, rest⟩
      have disjoint : (times.filter fun time =>
          (range.Holds time ∧ bucket.Holds interval time) ∧
            IsTaken range interval buckets time) = 0 := by
        apply Multiset.filter_eq_nil.mpr
        rintro time _ ⟨⟨_, inBucket⟩, _, other, member, inOther⟩
        exact (first other member).disjoint inBucket inOther
      have joined := Multiset.filter_add_filter
        (fun time => range.Holds time ∧ bucket.Holds interval time)
        (IsTaken range interval buckets) times
      rw [disjoint, Multiset.add_zero] at joined
      have same : times.filter (IsTaken range interval (bucket :: buckets)) =
          times.filter fun time => (range.Holds time ∧ bucket.Holds interval time) ∨
            IsTaken range interval buckets time :=
        Multiset.filter_congr fun time _ => isTaken_cons
      rw [same, ← joined, Multiset.card_add, Nat.cast_add, induction restExact rest,
        totalOf_cons, bucketExact]
      rfl

/-! ## The ranges of the needed buckets -/

theorem span_parts {range : TimeRange} {span : Int} (spanned : range.span = .ok span) :
    span = range.last - range.first ∧ 0 < span := by
  unfold TimeRange.span at spanned
  split at spanned
  · contradiction
  · split at spanned
    · cases spanned
      omega
    · contradiction

theorem bucketInterval_bounds {span : Int} (positive : 0 < span) :
    0 < bucketInterval span ∧ bucketInterval span ≤ span := by
  unfold bucketInterval bucketCount
  rw [Int.tdiv_eq_ediv_of_nonneg positive.le]
  omega

/-- A bucket is cut to times of the range, also where its last second is the first one
of the next bucket. -/
theorem bucketTimes_within {range : TimeRange} {interval start : Int}
    (narrow : interval ≤ range.last - range.first)
    (representable : Cell.minInteger ≤ range.first) (nonempty : range.first ≤ range.last) :
    range.first ≤ (bucketTimes interval start range).first ∧
      (bucketTimes interval start range).last ≤ range.last := by
  unfold bucketTimes saturate
  dsimp only
  split
  · constructor
    · exact Int.le_refl range.first
    · dsimp only
      omega
  · split
    · exact ⟨by dsimp only; omega, Int.le_refl range.last⟩
    · exact ⟨by dsimp only; omega, by dsimp only; omega⟩

theorem holds_bucketTimes {range : TimeRange} {interval : Int} {bucket : Bucket} {time : ℚ}
    (representable : range.last ≤ Cell.maxInteger) (inRange : range.Holds time)
    (inBucket : bucket.Holds interval time) :
    (bucketTimes interval bucket.start range).Holds time := by
  rcases inRange with ⟨starts, ends⟩
  rcases inBucket with ⟨bucketStarts, bucketEnds⟩
  have stops : time ≤ ((saturate (bucket.start + interval) : Int) : ℚ) := by
    by_cases fits : bucket.start + interval ≤ Cell.maxInteger
    · have kept := le_saturate fits (Int.le_refl (bucket.start + interval))
      exact bucketEnds.le.trans (Rat.intCast_le_intCast.mpr kept)
    · have cut := le_saturate (Int.le_refl Cell.maxInteger) (by omega : _ ≤ bucket.start + interval)
      exact ends.trans (Rat.intCast_le_intCast.mpr (representable.trans cut))
  unfold bucketTimes
  dsimp only
  split
  · exact ⟨starts, stops⟩
  · split
    · exact ⟨bucketStarts, ends⟩
    · exact ⟨bucketStarts, stops⟩

/-- A row that the page statement asks for. -/
def IsShown (ranges : List TimeRange) (time : ℚ) : Prop :=
  ∃ range ∈ ranges, range.Holds time

instance (ranges : List TimeRange) : DecidablePred (IsShown ranges) :=
  fun time => inferInstanceAs (Decidable (∃ range ∈ ranges, range.Holds time))

/-! ## The shortcut -/

section

variable {times : Multiset ℚ} {range : TimeRange} {interval : Int} {front back : List Bucket}

theorem isShown_of_isTaken (lastFits : range.last ≤ Cell.maxInteger)
    (exact : ∀ bucket ∈ front, bucket.count = (bucket.rowsIn interval range times).card)
    {time : ℚ} (member : time ∈ times) (taken : IsTaken range interval front time) :
    IsShown ((front.filter fun bucket => 0 < bucket.count).map fun bucket =>
      bucketTimes interval bucket.start range) time := by
  rcases taken with ⟨inRange, bucket, inFront, inBucket⟩
  have counted : 0 < bucket.count := by
    have inRows : time ∈ bucket.rowsIn interval range times :=
      Multiset.mem_filter.mpr ⟨member, inRange, inBucket⟩
    have someRow : 0 < (bucket.rowsIn interval range times).card :=
      Multiset.card_pos_iff_exists_mem.mpr ⟨time, inRows⟩
    rw [exact bucket inFront]
    omega
  refine ⟨_, List.mem_map_of_mem (List.mem_filter.mpr ⟨inFront, decide_eq_true counted⟩), ?_⟩
  exact holds_bucketTimes lastFits inRange inBucket

theorem holds_of_isShown (narrow : interval ≤ range.last - range.first)
    (firstFits : Cell.minInteger ≤ range.first) (nonempty : range.first ≤ range.last)
    {needed : List Bucket} {time : ℚ}
    (shown : IsShown (needed.map fun bucket => bucketTimes interval bucket.start range) time) :
    range.Holds time := by
  rcases shown with ⟨cut, member, starts, ends⟩
  rcases List.mem_map.mp member with ⟨bucket, _, rfl⟩
  rcases bucketTimes_within narrow firstFits nonempty with ⟨above, below⟩
  exact ⟨(Rat.intCast_le_intCast.mpr above).trans starts,
    ends.trans (Rat.intCast_le_intCast.mpr below)⟩

/-- When the walk stops, it has all rows of the range or enough of them. -/
theorem isTaken_or_enough (histogram : IsHistogram times range interval (front ++ back))
    {direction : SortDirection}
    (passed : (front ++ back).Pairwise (Bucket.Precedes direction interval)) {limit : Nat}
    (stops : back = [] ∨ rowLimit limit ≤ totalOf front) :
    (∀ time ∈ times, range.Holds time → IsTaken range interval front time) ∨
      limit ≤ (times.filter (IsTaken range interval front)).card := by
  have allTaken (empty : ∀ bucket ∈ back, bucket.count ≤ 0) :
      ∀ time ∈ times, range.Holds time → IsTaken range interval front time := by
    intro time member inRange
    rcases histogram.complete time member inRange with ⟨bucket, found, inBucket⟩
    rcases List.mem_append.mp found with inFront | inBack
    · exact ⟨inRange, bucket, inFront, inBucket⟩
    · have counted := histogram.exact bucket found
      have inRows : time ∈ bucket.rowsIn interval range times :=
        Multiset.mem_filter.mpr ⟨member, inRange, inBucket⟩
      have someRow : 0 < (bucket.rowsIn interval range times).card :=
        Multiset.card_pos_iff_exists_mem.mpr ⟨time, inRows⟩
      have noRow := empty bucket inBack
      omega
  rcases stops with rfl | reached
  · left
    apply allTaken
    intro bucket member
    contradiction
  · have frontExact : ∀ bucket ∈ front,
        bucket.count = (bucket.rowsIn interval range times).card :=
      fun bucket member => histogram.exact bucket (List.mem_append_left back member)
    have counted := card_isTaken frontExact (List.pairwise_append.mp passed).1
    by_cases fits : (limit : Int) ≤ Cell.maxInteger
    · right
      unfold rowLimit at reached
      omega
    · -- The count is full, so no bucket behind has a row.
      left
      apply allTaken
      intro bucket member
      have backNonneg : ∀ bucket ∈ back, 0 ≤ bucket.count := fun bucket member =>
        histogram.count_nonneg bucket (List.mem_append_right front member)
      have below := count_le_totalOf backNonneg bucket member
      have total := histogram.total
      rw [totalOf_append] at total
      unfold rowLimit at reached
      omega

theorem separated_of_passed (histogram : IsHistogram times range interval (front ++ back))
    {direction : SortDirection}
    (passed : (front ++ back).Pairwise (Bucket.Precedes direction interval)) {one other : ℚ}
    (taken : IsTaken range interval front one) (inRange : range.Holds other)
    (member : other ∈ times) (notTaken : ¬IsTaken range interval front other) :
    direction.Orders one other := by
  rcases taken with ⟨_, bucket, inFront, inBucket⟩
  rcases histogram.complete other member inRange with ⟨later, found, inLater⟩
  rcases List.mem_append.mp found with alsoFront | inBack
  · exact absurd ⟨inRange, later, alsoFront, inLater⟩ notTaken
  · have precedes := (List.pairwise_append.mp passed).2.2 bucket inFront later inBack
    exact precedes.ordered inBucket inLater

end

/-- The page found with the shortcut is the page of all rows: whatever the rows are, in
both directions, and for every limit. -/
theorem page_neededRanges {schema : Schema} {order : LogsOrder} {direction : SortDirection}
    (ordered : order.clause schema = "timestamp " ++ direction.keyword)
    {range : TimeRange} {span : Int} (spanned : range.span = .ok span)
    (firstFits : Cell.minInteger ≤ range.first) (lastFits : range.last ≤ Cell.maxInteger)
    {times : Multiset ℚ} {response : List Bucket}
    (histogram : IsHistogram times range (bucketInterval span) response) (limit : Nat) :
    page direction limit (times.filter (IsShown
        (neededRanges order limit (bucketInterval span) range (sortBuckets response)))) =
      page direction limit (times.filter range.Holds) := by
  have timed := timeDirection_of_clause ordered
  rcases span_parts spanned with ⟨spanEq, positive⟩
  have narrow : bucketInterval span ≤ range.last - range.first := by
    rw [← spanEq]
    exact (bucketInterval_bounds positive).2
  have walked : (walk order (sortBuckets response)).Perm response :=
    (walk_perm order _).trans (sortBuckets_perm response)
  have walkHistogram := histogram.perm walked.symm
  have passed := pairwise_walk histogram timed
  have fits : 0 + totalOf (walk order (sortBuckets response)) ≤ Cell.maxInteger := by
    rw [Int.zero_add]
    exact walkHistogram.total
  rcases neededBuckets_split timed limit walkHistogram.count_nonneg fits (by decide) with
    ⟨front, back, split, needed, stops⟩
  rw [Int.zero_add] at stops
  rw [split] at walkHistogram passed
  have finds : ∀ time ∈ times, IsTaken range (bucketInterval span) front time →
      IsShown (neededRanges order limit (bucketInterval span) range (sortBuckets response))
        time := by
    intro time member taken
    unfold neededRanges
    rw [needed]
    refine isShown_of_isTaken lastFits ?_ member taken
    intro bucket inFront
    exact walkHistogram.exact bucket (List.mem_append_left back inFront)
  have sound : ∀ time, IsShown
      (neededRanges order limit (bucketInterval span) range (sortBuckets response)) time →
        range.Holds time := by
    intro time shown
    exact holds_of_isShown narrow firstFits (by omega) shown
  have separated : ∀ one other, IsTaken range (bucketInterval span) front one →
      range.Holds other → other ∈ times →
        ¬IsTaken range (bucketInterval span) front other → direction.Orders one other := by
    intro one other taken inRange member notTaken
    exact separated_of_passed walkHistogram passed taken inRange member notTaken
  exact page_filter_eq finds sound separated (isTaken_or_enough walkHistogram passed stops)

/-- Three rows over a minute, in a response that is out of order. -/
theorem page_neededRanges_minute :
    (⟨"timestamp", .descending⟩ : LogsOrder).clause ⟨"default", []⟩ =
        "timestamp " ++ SortDirection.descending.keyword ∧
      (⟨0, 60⟩ : TimeRange).span = .ok 60 ∧
      IsHistogram {1 / 2, 3, 117 / 2} ⟨0, 60⟩ (bucketInterval 60)
        [⟨2, 1⟩, ⟨0, 1⟩, ⟨58, 1⟩, ⟨60, 0⟩] ∧
      page .descending 2 (Multiset.filter (IsShown (neededRanges ⟨"timestamp", .descending⟩ 2
          (bucketInterval 60) ⟨0, 60⟩ (sortBuckets [⟨2, 1⟩, ⟨0, 1⟩, ⟨58, 1⟩, ⟨60, 0⟩])))
          {1 / 2, 3, 117 / 2}) =
        page .descending 2 (Multiset.filter (⟨0, 60⟩ : TimeRange).Holds {1 / 2, 3, 117 / 2}) := by
  have ordered : (⟨"timestamp", .descending⟩ : LogsOrder).clause ⟨"default", []⟩ =
      "timestamp " ++ SortDirection.descending.keyword := by rfl
  have spanned : (⟨0, 60⟩ : TimeRange).span = .ok 60 := by rfl
  have histogram : IsHistogram {1 / 2, 3, 117 / 2} ⟨0, 60⟩ (bucketInterval 60)
      [⟨2, 1⟩, ⟨0, 1⟩, ⟨58, 1⟩, ⟨60, 0⟩] := {
    distinct := by decide
    onGrid := ⟨0, by decide⟩
    exact := by decide +kernel
    complete := by decide +kernel
    total := by decide }
  exact ⟨ordered, spanned, histogram,
    page_neededRanges ordered spanned (by decide) (by decide) histogram 2⟩

end LogQuery
