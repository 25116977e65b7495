import Mathlib.Data.Int.Interval
import Mathlib.Data.Rat.Floor
import Mathlib.Data.Set.Card
import Mathlib.Tactic.SplitIfs
import LogQuery.Aggregation.Plan
import LogQuery.Proofs.Logs.FirstPage

namespace LogQuery

/-! ## Buckets of a grid

A grid cuts time into buckets of one width, from any origin on and in both directions. Of a
bucket only the start belongs to it. -/

namespace TimeRange

/-- Whether the range and the bucket at a place of the grid have a time in common. -/
def Meets (range : TimeRange) (origin : ℚ) (width place : Int) : Prop :=
  ∃ time, range.Holds time ∧ origin + place * width ≤ time ∧ time < origin + (place + 1) * width

variable {range : TimeRange} {width : Int}

/-- The first bucket that is met is the one with the first second of the range, and a range that
is shorter than `count` buckets ends at most that many buckets later. -/
theorem encard_meets_le {count : Nat} (short : range.last - range.first < count * width)
    (positive : 1 ≤ width) (origin : ℚ) :
    {place | range.Meets origin width place}.encard ≤ count + 1 := by
  have wide : (0 : ℚ) < width := by exact_mod_cast positive
  have shortTime : (range.last : ℚ) - range.first < count * width := by exact_mod_cast short
  let least : Int := ⌊((range.first : ℚ) - origin) / width⌋
  have near : {place | range.Meets origin width place} ⊆
      (Finset.Icc least (least + count) : Set Int) := by
    intro place met
    rcases met with ⟨time, ⟨started, ended⟩, above, below⟩
    have after : ((range.first : ℚ) - origin) / width < place + 1 := by
      rw [div_lt_iff₀ wide]
      linarith
    have before : (place : ℚ) - count ≤ ((range.first : ℚ) - origin) / width := by
      rw [le_div_iff₀ wide]
      linarith
    have atLeast : least < place + 1 := Int.floor_lt.mpr (by exact_mod_cast after)
    have atMost : place - count ≤ least := Int.le_floor.mpr (by exact_mod_cast before)
    rw [Finset.coe_Icc, Set.mem_Icc]
    omega
  calc {place | range.Meets origin width place}.encard
      _ ≤ (Finset.Icc least (least + count) : Set Int).encard := Set.encard_le_encard near
      _ = ((count + 1 : Nat) : ℕ∞) := by
          rw [Set.encard_coe_eq_coe_finsetCard, Int.card_Icc]
          congr
          omega
      _ = count + 1 := Nat.cast_succ count

/-- A width between a second and the whole span, of which `count` are more than the span. -/
structure SuitsWidth (range : TimeRange) (span width : Int) (count : Nat) : Prop where
  positive : 1 ≤ width
  within : width ≤ span
  covered : span < count * width
  few : ∀ origin, {place | range.Meets origin width place}.encard ≤ count + 1

/-! ## Spans -/

theorem span_eq_ok_iff {span : Int} :
    range.span = .ok span ↔ range.first < range.last ∧
      range.last - range.first ≤ Cell.maxInteger ∧ span = range.last - range.first := by
  unfold TimeRange.span
  split
  · next empty => simp [Int.not_lt.mpr empty]
  · next ordered =>
      rw [Int.not_le] at ordered
      split
      · next fits => simp [ordered, fits, eq_comm]
      · next tooLarge => simp [tooLarge]

theorem span_eq_invalidTimeRange_iff :
    range.span = .error .invalidTimeRange ↔ range.last ≤ range.first := by
  unfold TimeRange.span
  split
  · next empty => simp [empty]
  · next ordered =>
      split
      · simp [ordered]
      · simp [ordered]

theorem span_eq_timeRangeTooLarge_iff :
    range.span = .error (.badRequest .timeRangeTooLarge) ↔
      range.first < range.last ∧ Cell.maxInteger < range.last - range.first := by
  unfold TimeRange.span
  split
  · next empty => simp [Int.not_lt.mpr empty]
  · next ordered =>
      rw [Int.not_le] at ordered
      split
      · next fits => simp [Int.not_lt.mpr fits]
      · next tooLarge => simp [ordered, Int.not_le.mp tooLarge]

end TimeRange

/-- A difference that fits in 64 bits is the one that words of 64 bits give. -/
theorem toInt_sub_of_fits {first last : Int64} (ordered : first.toInt < last.toInt)
    (fits : last.toInt - first.toInt ≤ Cell.maxInteger) :
    (last - first).toInt = last.toInt - first.toInt := by
  have greatest : Cell.maxInteger = 9223372036854775807 := rfl
  rw [Int64.toInt_sub]
  apply Int.bmod_eq_of_le
  · omega
  · omega

/-! ## Widths of buckets -/

theorem lt_bucketInterval {span : Int} (positive : 0 < span) : span < 60 * bucketInterval span := by
  unfold bucketInterval bucketCount
  rw [Int.tdiv_eq_ediv_of_nonneg positive.le]
  omega

/-- The widths of the table are not in the order of the spans, so each row is looked at. -/
theorem timeInterval_bounds {span : Int} (positive : 0 < span) :
    1 ≤ timeInterval span ∧ timeInterval span ≤ span ∧ span < 200 * timeInterval span := by
  unfold timeInterval
  simp only [Int.tdiv_eq_ediv_of_nonneg positive.le]
  split_ifs
  all_goals omega

/-- The span of a range is its exact length, also in words of 64 bits, or the range is refused.
The histogram of a search and the chart of a time series get buckets that are neither empty nor
longer than the range, and however the grid lies the range meets but few of them. -/
theorem span_suitsWidths (range : TimeRange) :
    (∀ span, range.span = .ok span ↔ range.first < range.last ∧
      range.last - range.first ≤ Cell.maxInteger ∧ span = range.last - range.first) ∧
    (range.span = .error .invalidTimeRange ↔ range.last ≤ range.first) ∧
    (range.span = .error (.badRequest .timeRangeTooLarge) ↔
      range.first < range.last ∧ Cell.maxInteger < range.last - range.first) ∧
    ∀ span, range.span = .ok span →
      (∀ first last : Int64, range = ⟨first.toInt, last.toInt⟩ → (last - first).toInt = span) ∧
      range.SuitsWidth span (bucketInterval span) 60 ∧
      range.SuitsWidth span (timeInterval span) 200 := by
  refine ⟨fun span => TimeRange.span_eq_ok_iff, TimeRange.span_eq_invalidTimeRange_iff,
    TimeRange.span_eq_timeRangeTooLarge_iff, ?_⟩
  intro span spanned
  rcases TimeRange.span_eq_ok_iff.mp spanned with ⟨ordered, fits, same⟩
  have positive : 0 < span := by omega
  have suits {width : Int} {count : Nat} (bounds : 1 ≤ width ∧ width ≤ span)
      (covered : span < count * width) : range.SuitsWidth span width count :=
    ⟨bounds.1, bounds.2, covered, TimeRange.encard_meets_le (same ▸ covered) bounds.1⟩
  refine ⟨?_, suits (bucketInterval_bounds positive) (lt_bucketInterval positive), ?_⟩
  · intro first last words
    rw [words] at ordered fits same
    rw [same]
    exact toInt_sub_of_fits ordered fits
  · rcases timeInterval_bounds positive with ⟨wide, within, covered⟩
    exact suits ⟨wide, within⟩ covered

/-- The longest range that there is. -/
theorem span_suitsWidths_longest :
    (⟨-1, 9223372036854775806⟩ : TimeRange).span = .ok 9223372036854775807 ∧
      (⟨-1, 9223372036854775806⟩ : TimeRange) =
        ⟨(-1 : Int64).toInt, (9223372036854775806 : Int64).toInt⟩ ∧
      ((9223372036854775806 : Int64) - (-1)).toInt = 9223372036854775807 ∧
      (⟨-1, 9223372036854775806⟩ : TimeRange).SuitsWidth 9223372036854775807
        307445734561825860 60 ∧
      (⟨-1, 9223372036854775806⟩ : TimeRange).SuitsWidth 9223372036854775807
        92233720368547758 200 := by
  have spanned : (⟨-1, 9223372036854775806⟩ : TimeRange).span = .ok 9223372036854775807 := by rfl
  have words : (⟨-1, 9223372036854775806⟩ : TimeRange) =
      ⟨(-1 : Int64).toInt, (9223372036854775806 : Int64).toInt⟩ := by decide
  rcases (span_suitsWidths ⟨-1, 9223372036854775806⟩).2.2.2 _ spanned with ⟨exact, few, fewTimes⟩
  exact ⟨spanned, words, exact _ _ words, few, fewTimes⟩

end LogQuery
