import Mathlib.Data.List.Infix
import LogQuery.Fields.Autocomplete
import LogQuery.Proofs.Fields.History

namespace LogQuery

/-! ## Inserting what a filter leaves -/

namespace KeySet

/-- A filter may be applied to the keys before they are inserted or to the list afterwards. -/
theorem toList_insertMany_filter (keep : String → Bool) {set kept : KeySet}
    (same : kept.toList = set.toList.filter keep) (keys : List String) :
    (kept.insertMany (keys.filter keep)).toList = (set.insertMany keys).toList.filter keep := by
  induction keys generalizing set kept with
  | nil => exact same
  | cons key keys induction =>
      by_cases passes : keep key = true
      · rw [List.filter_cons_of_pos passes, insertMany_cons, insertMany_cons]
        apply induction
        have known : key ∈ kept.toList ↔ key ∈ set.toList := by
          rw [same, List.mem_filter, and_iff_left passes]
        rw [toList_insert, toList_insert]
        by_cases member : key ∈ set.toList
        · rw [if_pos (known.mpr member), if_pos member, same]
        · rw [if_neg (mt known.mp member), if_neg member, same, List.filter_append,
            List.filter_cons_of_pos passes, List.filter_nil]
      · -- The key is left out of both, so the filtered list stays as it is.
        rw [List.filter_cons_of_neg passes, insertMany_cons]
        apply induction
        rw [toList_insert, same]
        split
        · rfl
        · rw [List.filter_append, List.filter_cons_of_neg passes, List.filter_nil,
            List.append_nil]

theorem toList_ofList_filter (keep : String → Bool) (keys : List String) :
    (ofList (keys.filter keep)).toList = (ofList keys).toList.filter keep :=
  toList_insertMany_filter keep rfl keys

/-- Of two rows of keys the second adds those that the first has not. -/
theorem toList_ofList_append (first second : List String) :
    (ofList (first ++ second)).toList =
      (ofList first).toList ++
        (ofList second).toList.filter (· ∉ (ofList first).toList) := by
  rw [ofList, insertMany_append, toList_insertMany, ← toList_ofList, toList_ofList_filter]
  rfl

end KeySet

/-! ## The names that are offered -/

theorem containsText_iff {pattern text : List Char} :
    containsText pattern text = true ↔ pattern <:+: text := by
  induction text with
  | nil => rw [containsText, List.isEmpty_iff, List.infix_nil]
  | cons first rest induction =>
      rw [containsText, Bool.or_eq_true, List.isPrefixOf_iff_prefix, induction,
        List.infix_cons_iff]

def IsStringName (schema : Schema) (snapshot : FieldSnapshot) (name : String) : Prop :=
  name ∈ snapshot.strings.toList ∨ name ∈ fixedColumns ∨ name ∈ schema.materializedColumns

def IsNumberName (snapshot : FieldSnapshot) (name : String) : Prop :=
  name ∈ snapshot.numbers.toList

def IsOffered (schema : Schema) (snapshot : FieldSnapshot) (name : String) : FieldType → Prop
  | .string => IsStringName schema snapshot name
  | .number => IsNumberName snapshot name
  | .all => IsStringName schema snapshot name ∨ IsNumberName snapshot name

variable {schema : Schema} {snapshot : FieldSnapshot} {name : String}

theorem mem_stringNames_iff :
    name ∈ stringNames schema snapshot ↔ IsStringName schema snapshot name := by
  rw [stringNames, List.mem_append, List.mem_append, or_assoc, IsStringName]

theorem mem_namesOfType_iff {type : FieldType} :
    name ∈ namesOfType schema snapshot type ↔ IsOffered schema snapshot name type := by
  cases type with
  | string => exact mem_stringNames_iff
  | number => rfl
  | all => exact List.mem_append.trans (or_congr_left mem_stringNames_iff)

theorem findFields_eq_filter (schema : Schema) (snapshot : FieldSnapshot) (filter : String)
    (type : FieldType) :
    findFields schema snapshot filter type =
      (KeySet.ofList (namesOfType schema snapshot type)).toList.filter
        (filter.toList <:+: ·.toList) := by
  rw [findFields, KeySet.toList_ofList_filter]
  apply List.filter_congr
  intro name _
  rw [Bool.eq_iff_iff, containsText_iff, decide_eq_true_eq]

theorem findFields_empty (schema : Schema) (snapshot : FieldSnapshot) (type : FieldType) :
    findFields schema snapshot "" type =
      (KeySet.ofList (namesOfType schema snapshot type)).toList := by
  rw [findFields_eq_filter, List.filter_eq_self]
  intro name _
  exact decide_eq_true List.nil_infix

theorem mem_findFields_iff {filter : String} {type : FieldType} :
    name ∈ findFields schema snapshot filter type ↔
      IsOffered schema snapshot name type ∧ filter.toList <:+: name.toList := by
  rw [findFields_eq_filter, List.mem_filter, KeySet.mem_ofList, mem_namesOfType_iff,
    decide_eq_true_eq]

theorem findFields_all (schema : Schema) (snapshot : FieldSnapshot) (filter : String) :
    findFields schema snapshot filter .all =
      findFields schema snapshot filter .string ++
        (findFields schema snapshot filter .number).filter
          (· ∉ findFields schema snapshot filter .string) := by
  rw [findFields, namesOfType, List.filter_append, KeySet.toList_ofList_append]
  rfl

theorem IsOffered.of_extends {later : FieldSnapshot} (grown : snapshot.Extends later)
    {type : FieldType} (offered : IsOffered schema snapshot name type) :
    IsOffered schema later name type := by
  have strings : IsStringName schema snapshot name → IsStringName schema later name :=
    Or.imp_left fun known => (grown .string).subset known
  have numbers : IsNumberName snapshot name → IsNumberName later name :=
    fun known => (grown .number).subset known
  cases type with
  | string => exact strings offered
  | number => exact numbers offered
  | all => exact Or.imp strings numbers offered

theorem findFields_subset {later : FieldSnapshot} (grown : snapshot.Extends later)
    (filter : String) (type : FieldType) :
    findFields schema snapshot filter type ⊆ findFields schema later filter type := by
  intro name found
  rcases mem_findFields_iff.mp found with ⟨offered, contains⟩
  exact mem_findFields_iff.mpr ⟨offered.of_extends grown, contains⟩

theorem FieldSnapshot.extends_merge (snapshot : FieldSnapshot) (strings numbers : List String) :
    snapshot.Extends (snapshot.merge strings numbers) := by
  intro kind
  cases kind with
  | string => exact KeySet.prefix_insertMany _ _
  | number => exact KeySet.prefix_insertMany _ _

/-- A field is offered once however many sources know it. The filter only leaves names out:
those that stay keep the order that they have without a filter. Names of numbers come after the
others, and what is offered stays on offer when more keys become known. -/
theorem findFields_filters (schema : Schema) (snapshot : FieldSnapshot) (filter : String)
    (type : FieldType) :
    (findFields schema snapshot filter type).Nodup ∧
    findFields schema snapshot filter type =
      (findFields schema snapshot "" type).filter (filter.toList <:+: ·.toList) ∧
    (∀ name, name ∈ findFields schema snapshot "" type ↔ IsOffered schema snapshot name type) ∧
    findFields schema snapshot filter .all =
      findFields schema snapshot filter .string ++
        (findFields schema snapshot filter .number).filter
          (· ∉ findFields schema snapshot filter .string) ∧
    ∀ strings numbers, findFields schema snapshot filter type ⊆
      findFields schema (snapshot.merge strings numbers) filter type := by
  refine ⟨KeySet.nodup _, ?_, ?_, findFields_all schema snapshot filter, ?_⟩
  · rw [findFields_empty, findFields_eq_filter]
  · intro name
    rw [mem_findFields_iff, and_iff_left]
    exact List.nil_infix
  · intro strings numbers
    exact findFields_subset (snapshot.extends_merge strings numbers) filter type

end LogQuery
