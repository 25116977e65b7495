import LogQuery.Json.Value

namespace LogQuery.Json

/-! ## Fields of an object

A value that is put under a key is the one that is found there, and what is found under any
other key stays as it was. The keys stay in order, so that each occurs once. -/

def keysOf (fields : List (String × α)) : List String :=
  fields.map (·.1)

theorem lookup_cons_eq_ite (key other : String) (value : α) (fields : List (String × α)) :
    List.lookup key ((other, value) :: fields) =
      if key = other then some value else fields.lookup key := by
  rw [List.lookup_cons]
  by_cases same : key = other
  · rw [if_pos same, beq_iff_eq.mpr same]
  · rw [if_neg same, beq_eq_false_iff_ne.mpr same]

theorem mem_keysOf_iff {fields : List (String × α)} {key : String} :
    key ∈ keysOf fields ↔ ∃ value, fields.lookup key = some value := by
  rw [← Option.isSome_iff_exists, List.lookup_isSome_iff, keysOf, List.mem_map]
  constructor
  · rintro ⟨field, member, rfl⟩
    exact ⟨field, member, beq_self_eq_true field.1⟩
  · rintro ⟨field, member, same⟩
    exact ⟨field, member, (beq_iff_eq.mp same).symm⟩

/-- Where each key occurs once, what is found under it is all that there is. -/
theorem lookup_eq_some_iff_mem {fields : List (String × α)} (distinct : (keysOf fields).Nodup)
    {key : String} {value : α} :
    fields.lookup key = some value ↔ (key, value) ∈ fields := by
  induction fields with
  | nil => simp
  | cons field fields induction =>
      rcases List.nodup_cons.mp distinct with ⟨first, rest⟩
      rcases field with ⟨other, held⟩
      rw [lookup_cons_eq_ite, List.mem_cons, Prod.mk.injEq, ← induction rest]
      by_cases same : key = other
      · subst same
        have absent : fields.lookup key ≠ some value := fun found =>
          first (mem_keysOf_iff.mpr ⟨value, found⟩)
        simp [absent, eq_comm]
      · simp [same]

theorem lookup_reverse {fields : List (String × α)} (distinct : (keysOf fields).Nodup)
    (key : String) : fields.reverse.lookup key = fields.lookup key := by
  have reversed : (keysOf fields.reverse).Nodup := by
    rw [keysOf, List.map_reverse]
    exact List.pairwise_reverse.mpr (distinct.imp Ne.symm)
  apply Option.ext
  intro value
  rw [lookup_eq_some_iff_mem reversed, lookup_eq_some_iff_mem distinct, List.mem_reverse]

theorem lookup_insertField (key other : String) (value : α) (fields : List (String × α)) :
    (insertField key value fields).lookup other =
      if other = key then some value else fields.lookup other := by
  induction fields with
  | nil => exact lookup_cons_eq_ite other key value []
  | cons field fields induction =>
      rcases field with ⟨head, held⟩
      rw [insertField]
      split
      · exact lookup_cons_eq_ite other key value _
      · split
        · next replaced =>
            subst replaced
            simp only [lookup_cons_eq_ite]
            split <;> rfl
        · next different =>
            rw [lookup_cons_eq_ite, lookup_cons_eq_ite, induction]
            by_cases same : other = key
            · subst same
              rw [if_neg different, if_pos rfl, if_pos rfl]
            · rw [if_neg same, if_neg same]

theorem mem_keysOf_insertField {key other : String} {value : α} {fields : List (String × α)} :
    other ∈ keysOf (insertField key value fields) ↔ other = key ∨ other ∈ keysOf fields := by
  rw [mem_keysOf_iff, mem_keysOf_iff, lookup_insertField]
  by_cases same : other = key
  · simp [same]
  · simp [same]

theorem pairwise_insertField {fields : List (String × α)}
    (sorted : (keysOf fields).Pairwise (· < ·)) (key : String) (value : α) :
    (keysOf (insertField key value fields)).Pairwise (· < ·) := by
  induction fields with
  | nil => exact List.pairwise_singleton _ _
  | cons field fields induction =>
      rcases field with ⟨head, held⟩
      rcases List.pairwise_cons.mp sorted with ⟨first, rest⟩
      rw [insertField]
      split
      · next before =>
          refine .cons ?_ sorted
          intro other member
          rcases List.mem_cons.mp member with rfl | later
          · exact before
          · exact String.lt_trans before (first other later)
      · next notBefore =>
          split
          · next replaced =>
              subst replaced
              exact sorted
          · next different =>
              refine .cons ?_ (induction rest)
              intro other member
              rcases mem_keysOf_insertField.mp member with rfl | later
              · exact Std.lt_of_le_of_ne (String.not_lt.mp notBefore) (Ne.symm different)
              · exact first other later

/-! Fields that are in order already are taken over as they are: each goes to the end. -/

theorem insertField_of_lt {key : String} {fields : List (String × α)}
    (before : ∀ other ∈ keysOf fields, other < key) (value : α) :
    insertField key value fields = fields ++ [(key, value)] := by
  induction fields with
  | nil => rfl
  | cons field fields induction =>
      rcases field with ⟨head, held⟩
      rcases List.forall_mem_cons.mp before with ⟨first, rest⟩
      rw [insertField, if_neg (String.lt_asymm first), if_neg (String.ne_of_lt first).symm,
        induction rest, List.cons_append]

theorem foldl_insertField_of_pairwise {front fields : List (String × α)}
    (sorted : (keysOf (front ++ fields)).Pairwise (· < ·)) :
    fields.foldl (fun sorted field => insertField field.1 field.2 sorted) front =
      front ++ fields := by
  induction fields generalizing front with
  | nil => rw [List.foldl_nil, List.append_nil]
  | cons field fields induction =>
      have split : (keysOf front ++ keysOf (field :: fields)).Pairwise (· < ·) := by
        rwa [keysOf, List.map_append] at sorted
      have before : ∀ other ∈ keysOf front, other < field.1 := fun other member =>
        (List.pairwise_append.mp split).2.2 other member field.1 List.mem_cons_self
      rw [List.append_cons] at sorted ⊢
      rw [List.foldl_cons, insertField_of_lt before, induction sorted]

theorem ofFields_of_pairwise {fields : List (String × Json)}
    (sorted : (keysOf fields).Pairwise (· < ·)) : ofFields fields = .object fields := by
  have nothing : (keysOf ([] ++ fields)).Pairwise (· < ·) := sorted
  rw [ofFields, foldl_insertField_of_pairwise nothing, List.nil_append]

end LogQuery.Json
