import Mathlib.Data.Multiset.Sort
import Mathlib.Algebra.Order.Field.Rat
import LogQuery.Schema

namespace LogQuery

/-! ## Pages

A page is the start of the rows in their order. A row is known by its time, which may
be any fraction of a second. -/

def page (direction : SortDirection) (limit : Nat) (times : Multiset ℚ) : List ℚ :=
  match direction with
  | .ascending => (times.sort (· ≤ ·)).take limit
  | .descending => (times.sort (· ≥ ·)).take limit

section

variable {α : Type} (before : α → α → Prop) [DecidableRel before] [IsTrans α before]
  [Std.Antisymm before] [Std.Total before]

theorem sort_add {first rest : Multiset α}
    (separated : ∀ one ∈ first, ∀ other ∈ rest, before one other) :
    (first + rest).sort before = first.sort before ++ rest.sort before := by
  have ordered : (first.sort before ++ rest.sort before).Pairwise before := by
    apply List.pairwise_append.mpr
    refine ⟨first.pairwise_sort before, rest.pairwise_sort before, ?_⟩
    intro one inFirst other inRest
    exact separated one ((Multiset.mem_sort before).mp inFirst) other
      ((Multiset.mem_sort before).mp inRest)
  have same : List.Perm ((first + rest).sort before)
      (first.sort before ++ rest.sort before) := by
    apply Multiset.coe_eq_coe.mp
    rw [← Multiset.coe_add, Multiset.sort_eq, Multiset.sort_eq, Multiset.sort_eq]
  exact same.eq_of_pairwise' ((first + rest).pairwise_sort before) ordered

variable {times : Multiset α} {taken shown : α → Prop} [DecidablePred taken]
  [DecidablePred shown]

/-- Rows that come after enough others do not show on the page. -/
theorem take_sort_filter {limit : Nat} (includes : ∀ time ∈ times, taken time → shown time)
    (separated : ∀ one ∈ times, ∀ other ∈ times, taken one → shown other → ¬taken other →
      before one other)
    (enough : limit ≤ (times.filter taken).card) :
    ((times.filter shown).sort before).take limit =
      ((times.filter taken).sort before).take limit := by
  have split : times.filter shown =
      times.filter taken + (times.filter shown).filter fun time => ¬taken time := by
    have common : (times.filter shown).filter taken = times.filter taken := by
      rw [Multiset.filter_filter]
      apply Multiset.filter_congr
      intro time member
      exact ⟨fun both => both.1, fun isTaken => ⟨isTaken, includes time member isTaken⟩⟩
    rw [← common, Multiset.filter_add_not]
  have ordered : ∀ one ∈ times.filter taken,
      ∀ other ∈ (times.filter shown).filter fun time => ¬taken time, before one other := by
    intro one isTaken other isLater
    rw [Multiset.mem_filter] at isTaken isLater
    rcases isLater with ⟨isShown, notTaken⟩
    rw [Multiset.mem_filter] at isShown
    exact separated one isTaken.1 other isShown.1 isTaken.2 isShown.2 notTaken
  rw [split, sort_add before ordered]
  apply List.take_append_of_le_length
  rw [Multiset.length_sort]
  exact enough

end

/-- A row of the first time may stand before a row of the other. -/
def SortDirection.Orders (direction : SortDirection) (one other : ℚ) : Prop :=
  match direction with
  | .ascending => one ≤ other
  | .descending => other ≤ one

namespace SortDirection

instance (direction : SortDirection) : DecidableRel direction.Orders :=
  match direction with
  | .ascending => fun one other => inferInstanceAs (Decidable (one ≤ other))
  | .descending => fun one other => inferInstanceAs (Decidable (other ≤ one))

instance (direction : SortDirection) : IsTrans ℚ direction.Orders where
  trans one middle other first second := by
    cases direction with
    | ascending => exact le_trans first second
    | descending => exact le_trans second first

instance (direction : SortDirection) : Std.Antisymm direction.Orders where
  antisymm one other first second := by
    cases direction with
    | ascending => exact le_antisymm first second
    | descending => exact le_antisymm second first

instance (direction : SortDirection) : Std.Total direction.Orders where
  total one other := by
    cases direction with
    | ascending => exact le_total one other
    | descending => exact le_total other one

end SortDirection

theorem page_eq_take_sort (direction : SortDirection) (limit : Nat) (times : Multiset ℚ) :
    page direction limit times = (times.sort direction.Orders).take limit := by
  cases direction with
  | ascending => rfl
  | descending => rfl

/-- Two searches show the same page if both find the rows that were taken, and these are
enough and come first. -/
theorem page_filter_eq {direction : SortDirection} {limit : Nat} {times : Multiset ℚ}
    {taken shown wanted : ℚ → Prop} [DecidablePred taken] [DecidablePred shown]
    [DecidablePred wanted] (finds : ∀ time ∈ times, taken time → shown time)
    (sound : ∀ time, shown time → wanted time)
    (separated : ∀ one other, taken one → wanted other → other ∈ times → ¬taken other →
      direction.Orders one other)
    (enough : (∀ time ∈ times, wanted time → taken time) ∨
      limit ≤ (times.filter taken).card) :
    page direction limit (times.filter shown) = page direction limit (times.filter wanted) := by
  rcases enough with all | enough
  · have same : times.filter shown = times.filter wanted := by
      apply Multiset.filter_congr
      intro time member
      exact ⟨sound time, fun isWanted => finds time member (all time member isWanted)⟩
    rw [same]
  · have findsWanted : ∀ time ∈ times, taken time → wanted time :=
      fun time member isTaken => sound time (finds time member isTaken)
    have shownPage := take_sort_filter direction.Orders finds
      (fun one _ other member isTaken isShown notTaken =>
        separated one other isTaken (sound other isShown) member notTaken) enough
    have wantedPage := take_sort_filter direction.Orders findsWanted
      (fun one _ other member isTaken isWanted notTaken =>
        separated one other isTaken isWanted member notTaken) enough
    rw [page_eq_take_sort, page_eq_take_sort, shownPage, wantedPage]

end LogQuery
