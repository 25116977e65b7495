import LogQuery.Aggregation.Plan
import LogQuery.Proofs.Query.Lexemes

namespace LogQuery

/-! ## Reserved names

The name of a result column is taken apart from the left, and at each place there is only one
way to go on. So the check finds a name reserved exactly if it is put together like one. -/

/-- The operations as requests name them. -/
def operationNames : List String :=
  ["count", "min", "max", "sum", "avg"]

theorem mem_operationNames_iff {name : String} :
    name ∈ operationNames ↔ ∃ operation : Operation, name = operation.name := by
  constructor
  · intro known
    simp only [operationNames, List.mem_cons, List.not_mem_nil, or_false] at known
    rcases known with rfl | rfl | rfl | rfl | rfl
    · exact ⟨.count, rfl⟩
    · exact ⟨.min, rfl⟩
    · exact ⟨.max, rfl⟩
    · exact ⟨.sum, rfl⟩
    · exact ⟨.avg, rfl⟩
  · rintro ⟨operation, rfl⟩
    cases operation <;> decide

/-- Time, or the data of an operation, of all rows or of one filter. -/
inductive IsReservedName : String → Prop
  | time : IsReservedName "time"
  | data {operation : String} (known : operation ∈ operationNames) :
      IsReservedName (operation ++ "_data")
  | filter {operation : String} {digits : List Char} (known : operation ∈ operationNames)
      (number : Query.IsDigits digits) :
      IsReservedName (operation ++ "_data_filter" ++ String.ofList digits)

theorem afterStart?_eq_some_iff {start text rest : List Char} :
    afterStart? start text = some rest ↔ text = start ++ rest := by
  unfold afterStart?
  constructor
  · intro found
    split at found
    · next starts =>
        rcases List.isPrefixOf_iff_prefix.mp starts with ⟨after, rfl⟩
        simpa using found
    · contradiction
  · rintro rfl
    simp

theorem afterStart?_eq_none_iff {start text : List Char} :
    afterStart? start text = none ↔ ∀ rest, text ≠ start ++ rest := by
  simp only [Option.eq_none_iff_forall_ne_some, ne_eq, afterStart?_eq_some_iff]

theorem isReservedBy_iff {operation : Operation} {name : List Char} :
    isReservedBy operation name = true ↔
      name = operation.dataAlias.toList ∨
        ∃ digits, Query.IsDigits digits ∧
          name = operation.dataAlias.toList ++ ("_filter".toList ++ digits) := by
  unfold isReservedBy
  split
  · next other =>
      have differs := afterStart?_eq_none_iff.mp other
      constructor
      · intro impossible
        contradiction
      · rintro (rfl | ⟨digits, _, rfl⟩)
        · exact absurd (List.append_nil _).symm (differs [])
        · exact absurd rfl (differs _)
  · next rest found =>
      cases afterStart?_eq_some_iff.mp found
      simp only [List.append_cancel_left_eq, List.append_right_eq_self]
      split
      · next index indexed =>
          cases afterStart?_eq_some_iff.mp indexed
          simp [Query.IsDigits]
      · next other =>
          have differs := afterStart?_eq_none_iff.mp other
          have unfiltered :
              ¬∃ digits, Query.IsDigits digits ∧ rest = "_filter".toList ++ digits := by
            rintro ⟨digits, _, same⟩
            exact differs digits same
          rw [or_iff_left unfiltered, decide_eq_true_iff]

theorem toList_filterName (operation : Operation) (digits : List Char) :
    (operation.name ++ "_data_filter" ++ String.ofList digits).toList =
      operation.dataAlias.toList ++ ("_filter".toList ++ digits) := by
  simp [Operation.dataAlias]

theorem isReserved_iff {name : String} : isReserved name = true ↔ IsReservedName name := by
  constructor
  · intro reserved
    simp only [isReserved, Bool.or_eq_true, decide_eq_true_eq, List.any_eq_true] at reserved
    rcases reserved with rfl | ⟨operation, _, reserved⟩
    · exact .time
    · have known := mem_operationNames_iff.mpr ⟨operation, rfl⟩
      rcases isReservedBy_iff.mp reserved with same | ⟨digits, number, same⟩
      · cases String.toList_inj.mp same
        exact .data known
      · rw [← toList_filterName] at same
        cases String.toList_inj.mp same
        exact .filter known number
  · have covered (operation : Operation) : operation ∈ Operation.all := by
      cases operation <;> decide
    have reservedBy {operation : Operation} {name : String}
        (found : isReservedBy operation name.toList = true) : isReserved name = true := by
      simp only [isReserved, Bool.or_eq_true, List.any_eq_true]
      exact .inr ⟨operation, covered operation, found⟩
    intro reserved
    cases reserved with
    | time => rfl
    | data known =>
        rcases mem_operationNames_iff.mp known with ⟨operation, rfl⟩
        exact reservedBy (isReservedBy_iff.mpr (.inl rfl))
    | filter known number =>
        rcases mem_operationNames_iff.mp known with ⟨operation, rfl⟩
        exact reservedBy
          (isReservedBy_iff.mpr (.inr ⟨_, number, toList_filterName operation _⟩))

end LogQuery
