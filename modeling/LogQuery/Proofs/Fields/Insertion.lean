import LogQuery.Fields.KeySet

namespace LogQuery.KeySet

/-! ## Keys that are inserted

Keys are put behind those that are there, and a key that is there stays in its place. What
was inserted can so be told from the keys alone, whatever the calls were. -/

theorem insert_of_mem {set : KeySet} {key : String} (member : key ∈ set.toList) :
    set.insert key = set := by
  have present : set.members.contains key = true := contains_iff_mem_toList.mpr member
  simp [insert, tryInsert, present]

@[simp] theorem insertMany_nil (set : KeySet) : set.insertMany [] = set := rfl

@[simp] theorem insertMany_cons (set : KeySet) (key : String) (keys : List String) :
    set.insertMany (key :: keys) = (set.insert key).insertMany keys := rfl

theorem insertMany_append (set : KeySet) (first second : List String) :
    set.insertMany (first ++ second) = (set.insertMany first).insertMany second :=
  List.foldl_append

theorem foldl_insertMany {α : Type} (set : KeySet) (given : α → List String) (items : List α) :
    items.foldl (fun found item => found.insertMany (given item)) set =
      set.insertMany (items.flatMap given) :=
  List.foldl_flatMap.symm

theorem prefix_insert (set : KeySet) (key : String) :
    set.toList <+: (set.insert key).toList := by
  rw [toList_insert]
  split
  · exact List.prefix_rfl
  · exact List.prefix_append set.toList [key]

theorem prefix_insertMany (set : KeySet) (keys : List String) :
    set.toList <+: (set.insertMany keys).toList := by
  induction keys generalizing set with
  | nil => exact List.prefix_rfl
  | cons key keys induction => exact (set.prefix_insert key).trans (induction (set.insert key))

theorem mem_insert {set : KeySet} {key other : String} :
    other ∈ (set.insert key).toList ↔ other ∈ set.toList ∨ other = key := by
  rw [toList_insert]
  split
  · next member =>
      constructor
      · exact .inl
      · rintro (inSet | rfl)
        · exact inSet
        · exact member
  · simp

theorem mem_insertMany {set : KeySet} {keys : List String} {key : String} :
    key ∈ (set.insertMany keys).toList ↔ key ∈ set.toList ∨ key ∈ keys := by
  induction keys generalizing set with
  | nil => simp
  | cons first keys induction => simp [induction, mem_insert, or_assoc]

theorem insertMany_of_subset {set : KeySet} {keys : List String}
    (known : ∀ key ∈ keys, key ∈ set.toList) : set.insertMany keys = set := by
  induction keys with
  | nil => rfl
  | cons key keys induction =>
      rcases List.forall_mem_cons.mp known with ⟨first, rest⟩
      rw [insertMany_cons, insert_of_mem first, induction rest]

/-- What is inserted comes behind what is there: each new key once, at its first place. -/
theorem toList_insertMany (set : KeySet) (keys : List String) :
    (set.insertMany keys).toList =
      set.toList ++ (keys.filter (· ∉ set.toList)).eraseDups := by
  induction keys generalizing set with
  | nil => simp
  | cons key keys induction =>
      by_cases member : key ∈ set.toList
      · rw [insertMany_cons, insert_of_mem member, induction,
          List.filter_cons_of_neg (by simpa using member)]
      · have later : keys.filter (· ∉ set.toList ++ [key]) =
            (keys.filter (· ∉ set.toList)).filter fun other => !other == key := by
          rw [List.filter_filter]
          apply List.filter_congr
          intro other _
          by_cases same : other = key
          · simp [same]
          · simp [same]
        rw [insertMany_cons, induction, toList_insert, if_neg member, later,
          List.filter_cons_of_pos (by simpa using member), List.eraseDups_cons,
          List.append_assoc, List.singleton_append]

/-! ### Sets of a list -/

theorem mem_ofList {keys : List String} {key : String} :
    key ∈ (ofList keys).toList ↔ key ∈ keys := by
  rw [ofList, mem_insertMany, toList_empty]
  simp

theorem toList_ofList (keys : List String) : (ofList keys).toList = keys.eraseDups := by
  have all : keys.filter (· ∉ empty.toList) = keys := List.filter_eq_self.mpr (by simp)
  rw [ofList, toList_insertMany, all, toList_empty, List.nil_append]

theorem eraseDups_of_nodup {keys : List String} (distinct : keys.Nodup) :
    keys.eraseDups = keys := by
  induction keys with
  | nil => rfl
  | cons key keys induction =>
      rcases List.nodup_cons.mp distinct with ⟨absent, rest⟩
      have others : keys.filter (fun other => !other == key) = keys := by
        apply List.filter_eq_self.mpr
        intro other member
        have different : other ≠ key := fun same => absent (same ▸ member)
        simp [different]
      rw [List.eraseDups_cons, others, induction rest]

/-! ## Runs of insertions

A set is built by insertions of one key and of many. That of one key answers whether the key is
new. What the array shows, what the hash set knows and what was answered all follow from the
keys that were given, one after the other. -/

inductive Insertion where
  | one (key : String)
  | many (keys : List String)
  deriving DecidableEq, Repr

def Insertion.given : Insertion → List String
  | .one key => [key]
  | .many keys => keys

def step (set : KeySet) : Insertion → KeySet
  | .one key => (set.tryInsert key).2
  | .many keys => set.insertMany keys

def run (set : KeySet) (insertions : List Insertion) : KeySet :=
  insertions.foldl step set

def answer? (set : KeySet) : Insertion → Option Bool
  | .one key => some (set.tryInsert key).1
  | .many _ => none

/-- The answers of a run, each from the set that the insertions before it left. -/
def answers (set : KeySet) : List Insertion → List (Option Bool)
  | [] => []
  | first :: rest => set.answer? first :: (set.step first).answers rest

theorem step_eq (set : KeySet) (insertion : Insertion) :
    set.step insertion = set.insertMany insertion.given := by
  cases insertion with
  | one key => rfl
  | many keys => rfl

theorem run_eq (set : KeySet) (insertions : List Insertion) :
    set.run insertions = set.insertMany (insertions.flatMap Insertion.given) := by
  have each : step = fun found insertion => found.insertMany insertion.given := by
    funext found insertion
    exact step_eq found insertion
  rw [run, each, foldl_insertMany]

theorem run_empty (insertions : List Insertion) :
    empty.run insertions = ofList (insertions.flatMap Insertion.given) :=
  run_eq empty insertions

theorem getElem?_answers (set : KeySet) (insertions : List Insertion) (place : Nat) :
    (set.answers insertions)[place]? =
      insertions[place]?.map (set.run (insertions.take place)).answer? := by
  induction insertions generalizing set place with
  | nil => rfl
  | cons first rest induction =>
      cases place with
      | zero => rfl
      | succ place => exact induction (set.step first) place

theorem fst_tryInsert_ofList (keys : List String) (key : String) :
    ((ofList keys).tryInsert key).1 = decide (key ∉ keys) := by
  have known : (ofList keys).contains key = decide (key ∈ keys) := by
    rw [Bool.eq_iff_iff, contains_iff_mem_toList, mem_ofList, decide_eq_true_eq]
  rw [fst_tryInsert, known, decide_not]

/-- The array shows the keys given, each at its first place. The hash set knows those that the
array shows, and an insertion answers that its key is new if no insertion before it gave it. -/
theorem insertions_keepFirst (insertions : List Insertion) :
    (empty.run insertions).toList = (insertions.flatMap Insertion.given).eraseDups ∧
    (∀ key, (empty.run insertions).contains key = true ↔
      key ∈ (empty.run insertions).toList) ∧
    ∀ place key, insertions[place]? = some (.one key) →
      (empty.answers insertions)[place]? =
        some (some (decide (key ∉ (insertions.take place).flatMap Insertion.given))) := by
  refine ⟨?_, fun key => contains_iff_mem_toList, ?_⟩
  · rw [run_empty, toList_ofList]
  · intro place key inserted
    rw [getElem?_answers, inserted, Option.map_some, run_empty]
    exact congrArg (some ∘ some) (fst_tryInsert_ofList _ key)

/-- A key that was given among many is not new when it comes alone. -/
theorem insertions_keepFirst_repeated :
    let insertions : List Insertion := [.one "b", .many ["a", "c", "a"], .one "c", .one "d"]
    insertions[2]? = some (.one "c") ∧ insertions[3]? = some (.one "d") ∧
      (empty.run insertions).toList = ["b", "a", "c", "d"] ∧
      (empty.run insertions).contains "c" = true ∧
      (empty.answers insertions)[2]? = some (some false) ∧
      (empty.answers insertions)[3]? = some (some true) := by
  intro insertions
  rcases insertions_keepFirst insertions with ⟨shown, known, answered⟩
  have order : (empty.run insertions).toList = ["b", "a", "c", "d"] := shown.trans (by decide)
  refine ⟨rfl, rfl, order, ?_, ?_, ?_⟩
  · rw [known, order]
    decide
  · exact (answered 2 "c" rfl).trans (by decide)
  · exact (answered 3 "d" rfl).trans (by decide)

end LogQuery.KeySet
