import Std.Data.HashSet.Lemmas

namespace LogQuery

/-! A key set remembers which keys were seen and in which order they were seen
first. The array keeps the order and the hash set answers membership; the two
always hold the same keys, each once. -/

structure KeySet where
  keys : Array String
  members : Std.HashSet String
  mem_members_iff : ∀ key, key ∈ members ↔ key ∈ keys.toList
  nodup : keys.toList.Nodup

namespace KeySet

def empty : KeySet where
  keys := #[]
  members := {}
  mem_members_iff := by simp
  nodup := by simp

instance : Inhabited KeySet := ⟨empty⟩

def toList (set : KeySet) : List String :=
  set.keys.toList

def contains (set : KeySet) (key : String) : Bool :=
  set.members.contains key

theorem contains_iff_mem_toList {set : KeySet} {key : String} :
    set.contains key = true ↔ key ∈ set.toList := by
  rw [contains, Std.HashSet.contains_iff_mem, set.mem_members_iff, toList]

/-! `tryInsert` also tells whether the key was new. -/

def tryInsert (set : KeySet) (key : String) : Bool × KeySet :=
  if present : set.members.contains key then (false, set)
  else
    (true,
      { keys := set.keys.push key
        members := set.members.insert key
        mem_members_iff := fun other => by
          have agree := set.mem_members_iff other
          simp only [Std.HashSet.mem_insert, beq_iff_eq, Array.toList_push,
            List.mem_append, List.mem_singleton]
          constructor
          · rintro (rfl | member)
            · exact .inr rfl
            · exact .inl (agree.mp member)
          · rintro (member | rfl)
            · exact .inr (agree.mpr member)
            · exact .inl rfl
        nodup := by
          rw [Array.toList_push, List.nodup_append]
          refine ⟨set.nodup, by simp, ?_⟩
          rintro other member added added_eq rfl
          rw [List.mem_singleton] at added_eq
          subst added_eq
          exact present (Std.HashSet.contains_iff_mem.mpr
            ((set.mem_members_iff other).mpr member)) })

def insert (set : KeySet) (key : String) : KeySet :=
  (set.tryInsert key).2

def insertMany (set : KeySet) (keys : List String) : KeySet :=
  keys.foldl insert set

def ofList (keys : List String) : KeySet :=
  empty.insertMany keys

@[simp] theorem toList_empty : empty.toList = [] := rfl

theorem fst_tryInsert (set : KeySet) (key : String) :
    (set.tryInsert key).1 = !set.contains key := by
  unfold tryInsert contains
  split <;> simp_all

theorem toList_insert (set : KeySet) (key : String) :
    (set.insert key).toList =
      if key ∈ set.toList then set.toList else set.toList ++ [key] := by
  unfold insert tryInsert
  split
  · next present =>
      rw [if_pos (contains_iff_mem_toList.mp present)]
  · next absent =>
      rw [if_neg fun member => absent (contains_iff_mem_toList.mpr member)]
      simp [toList]

end KeySet

end LogQuery
