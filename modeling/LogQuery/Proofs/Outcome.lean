import Mathlib.Data.List.Forall2
import LogQuery.Error

namespace LogQuery

/-! A computation that may fail succeeds only if each of its steps does. -/

theorem bind_eq_ok_iff {computation : Except ε α} {next : α → Except ε β} {value : β} :
    (computation >>= next) = .ok value ↔
      ∃ first, computation = .ok first ∧ next first = .ok value := by
  cases computation with
  | error error =>
      constructor
      · intro impossible
        contradiction
      · rintro ⟨first, impossible, _⟩
        contradiction
  | ok first =>
      constructor
      · intro finished
        exact ⟨first, rfl, finished⟩
      · rintro ⟨_, same, finished⟩
        cases same
        exact finished

theorem eq_ok_of_toOption {computation : Except ε α} {value : α}
    (found : computation.toOption = some value) : computation = .ok value := by
  cases computation with
  | error error => contradiction
  | ok first =>
      cases found
      rfl

theorem mapError_eq_ok_iff {computation : Except ε α} {convert : ε → δ} {value : α} :
    computation.mapError convert = .ok value ↔ computation = .ok value := by
  cases computation with
  | error error => constructor <;> nofun
  | ok first =>
      constructor
      · rintro ⟨⟩
        rfl
      · rintro ⟨⟩
        rfl

theorem map_eq_ok_iff {computation : Except ε α} {convert : α → β} {value : β} :
    computation.map convert = .ok value ↔
      ∃ first, computation = .ok first ∧ convert first = value := by
  cases computation with
  | error error => simp [Except.map]
  | ok first => simp [Except.map]

theorem mapM_congr {compute same : α → Except ε β} {items : List α}
    (equal : ∀ item ∈ items, compute item = same item) :
    items.mapM compute = items.mapM same := by
  induction items with
  | nil => rfl
  | cons item items induction =>
      rcases List.forall_mem_cons.mp equal with ⟨first, rest⟩
      rw [List.mapM_cons, List.mapM_cons, first, induction rest]

theorem mapM_eq_ok_iff {compute : α → Except ε β} {items : List α} {values : List β} :
    items.mapM compute = .ok values ↔
      List.Forall₂ (fun item value => compute item = .ok value) items values := by
  induction items generalizing values with
  | nil =>
      rw [List.forall₂_nil_left_iff]
      constructor
      · rintro ⟨⟩
        rfl
      · rintro rfl
        rfl
  | cons item items induction =>
      rw [List.mapM_cons, List.forall₂_cons_left_iff, bind_eq_ok_iff]
      constructor
      · rintro ⟨first, computed, mappedRest⟩
        rcases bind_eq_ok_iff.mp mappedRest with ⟨rest, computedRest, joined⟩
        cases joined
        exact ⟨first, rest, computed, induction.mp computedRest, rfl⟩
      · rintro ⟨first, rest, computed, computedRest, rfl⟩
        exact ⟨first, computed, bind_eq_ok_iff.mpr ⟨rest, induction.mpr computedRest, rfl⟩⟩

/-- What is seen of each value can be told from its item. -/
theorem map_of_mapM {compute : α → Except ε β} {observe : β → δ} {expected : α → δ}
    {items : List α} {values : List β} (mapped : items.mapM compute = .ok values)
    (each : ∀ item value, compute item = .ok value → observe value = expected item) :
    values.map observe = items.map expected := by
  have related := mapM_eq_ok_iff.mp mapped
  clear mapped
  induction related with
  | nil => rfl
  | cons computed _ induction =>
      rw [List.map_cons, List.map_cons, each _ _ computed, induction]

theorem exists_of_mem_mapM {compute : α → Except ε β} {items : List α} {values : List β}
    (mapped : items.mapM compute = .ok values) {value : β} (member : value ∈ values) :
    ∃ item ∈ items, compute item = .ok value := by
  have related := mapM_eq_ok_iff.mp mapped
  clear mapped
  induction related with
  | nil => contradiction
  | cons computed _ induction =>
      rcases List.mem_cons.mp member with rfl | later
      · exact ⟨_, List.mem_cons_self, computed⟩
      · rcases induction later with ⟨item, inItems, found⟩
        exact ⟨item, List.mem_cons_of_mem _ inItems, found⟩

/-- A list has partners throughout if each of its items has one. -/
theorem exists_forall₂_iff {related : α → β → Prop} {items : List α} :
    (∃ values, List.Forall₂ related items values) ↔ ∀ item ∈ items, ∃ value, related item value := by
  induction items with
  | nil => simp
  | cons item items induction =>
      simp only [List.forall₂_cons_left_iff, List.forall_mem_cons, ← induction]
      constructor
      · intro ⟨_, value, values, first, rest, _⟩
        exact ⟨⟨value, first⟩, ⟨values, rest⟩⟩
      · intro ⟨⟨value, first⟩, ⟨values, rest⟩⟩
        exact ⟨_, value, values, first, rest, rfl⟩

/-! What a computation accepts, and how each of its errors is accounted for. -/

structure Decides (accepted : Prop) (explained : ε → Prop) (computation : Except ε α) : Prop where
  accepts : (∃ value, computation = .ok value) ↔ accepted
  explains : ∀ error, computation = .error error → explained error

namespace Decides

variable {accepted rest : Prop} {explained : ε → Prop}

theorem ok (value : α) : Decides True explained (.ok value : Except ε α) where
  accepts := iff_true_intro ⟨value, rfl⟩
  explains := nofun

theorem error {error : ε} (known : explained error) :
    Decides False explained (.error error : Except ε α) where
  accepts := iff_false_intro nofun
  explains := by
    rintro _ ⟨⟩
    exact known

theorem congr {same : Prop} {computation : Except ε α}
    (decides : Decides accepted explained computation) (equivalent : accepted ↔ same) :
    Decides same explained computation :=
  ⟨decides.accepts.trans equivalent, decides.explains⟩

theorem guard {fault : Prop} [Decidable fault] {error : ε} {next : Except ε α}
    (known : fault → explained error) (continues : ¬fault → Decides rest explained next) :
    Decides (¬fault ∧ rest) explained (if fault then .error error else next) := by
  split
  · next bad => exact (Decides.error (known bad)).congr (by simp [bad])
  · next good => exact (continues good).congr (by simp [good])

theorem bind {first : Except ε α} {next : α → Except ε β}
    (decides : Decides accepted explained first)
    (continues : ∀ value, first = .ok value → Decides rest explained (next value)) :
    Decides (accepted ∧ rest) explained (first >>= next) := by
  cases found : first with
  | error fault =>
      have refused : ¬accepted := by
        rw [← decides.accepts, found]
        nofun
      have known := decides.explains fault found
      exact (Decides.error known).congr (by simp [refused])
  | ok value =>
      have taken := decides.accepts.mp ⟨value, found⟩
      exact (continues value found).congr (by simp [taken])

theorem map {computation : Except ε α} {convert : α → β}
    (decides : Decides accepted explained computation) :
    Decides accepted explained (computation.map convert) := by
  cases computation with
  | error fault =>
      have refused : ¬accepted := by
        rw [← decides.accepts]
        nofun
      exact (Decides.error (decides.explains fault rfl)).congr (by simp [refused])
  | ok value =>
      have taken := decides.accepts.mp ⟨value, rfl⟩
      exact (Decides.ok (convert value)).congr (by simp [taken])

theorem mapM {acceptedItem : α → Prop} {compute : α → Except ε β} {items : List α}
    (decides : ∀ item ∈ items, Decides (acceptedItem item) explained (compute item)) :
    Decides (∀ item ∈ items, acceptedItem item) explained (items.mapM compute) := by
  induction items with
  | nil => exact (Decides.ok []).congr (by simp)
  | cons item items induction =>
      rcases List.forall_mem_cons.mp decides with ⟨first, others⟩
      rw [List.mapM_cons]
      have joined := first.bind fun value _ =>
        (induction others).bind fun values _ => Decides.ok (value :: values)
      exact joined.congr (by simp)

end Decides

end LogQuery
