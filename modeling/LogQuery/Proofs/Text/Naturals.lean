import LogQuery.Text.Integer

namespace LogQuery.Text

/-! ## Naturals of 64 bits

Digits are read from the left, and a value only grows with each digit. So the value of all
digits stays within the range exactly if no value on the way leaves it. -/

/-- The digits of a natural that fits in 64 bits, with or without a plus sign. -/
structure DenotesNatural (text : List Char) (value : Nat) : Prop where
  digits : ∃ digits, (text = digits ∨ text = '+' :: digits) ∧ digits ≠ [] ∧
    (∀ digit ∈ digits, digit.isDigit = true) ∧ digitsValue digits = value
  fits : value < Nat.pow 2 64

/-- The value after more digits have been read. -/
def valueAfter (value : Nat) (digits : List Char) : Nat :=
  digits.foldl (fun value character => 10 * value + digitValue character) value

theorem valueAfter_cons (value : Nat) (character : Char) (digits : List Char) :
    valueAfter value (character :: digits) =
      valueAfter (10 * value + digitValue character) digits := by
  simp [valueAfter]

theorem le_valueAfter (value : Nat) (digits : List Char) : value ≤ valueAfter value digits := by
  induction digits generalizing value with
  | nil => exact Nat.le_refl value
  | cons character digits induction =>
      have grown := induction (10 * value + digitValue character)
      rw [valueAfter_cons]
      omega

section

variable {limit : Nat} {overflow : IntegerFault}

theorem readDigits_eq_ok_iff {value final : Nat} (within : value ≤ limit) {digits : List Char} :
    readDigits limit overflow value digits = .ok final ↔
      (∀ digit ∈ digits, digit.isDigit = true) ∧ valueAfter value digits = final ∧
        final ≤ limit := by
  induction digits generalizing value with
  | nil =>
      constructor
      · rintro ⟨⟩
        exact ⟨List.forall_mem_nil _, rfl, within⟩
      · rintro ⟨_, rfl, _⟩
        rfl
  | cons character digits induction =>
      rw [readDigits, List.forall_mem_cons, valueAfter_cons]
      cases character.isDigit with
      | false => simp
      | true =>
          rw [if_pos rfl]
          dsimp only
          split
          · next tooLarge =>
              have grown := le_valueAfter (10 * value + digitValue character) digits
              constructor
              · intro impossible
                contradiction
              · rintro ⟨_, reached, fits⟩
                omega
          · next under => simp [induction (Nat.le_of_not_lt under)]

theorem readMagnitude_eq_ok_iff {digits : List Char} {final : Nat} :
    readMagnitude limit overflow digits = .ok final ↔
      digits ≠ [] ∧ (∀ digit ∈ digits, digit.isDigit = true) ∧ digitsValue digits = final ∧
        final ≤ limit := by
  cases digits with
  | nil => simp [readMagnitude]
  | cons character digits =>
      rw [readMagnitude, readDigits_eq_ok_iff (Nat.zero_le limit)]
      · simp [valueAfter, digitsValue]
      · simp

end

theorem le_maxNatural64_iff {value : Nat} : value ≤ maxNatural64 ↔ value < Nat.pow 2 64 :=
  Nat.le_sub_one_iff_lt (Nat.two_pow_pos 64)

theorem readNaturalUpTo_eq_ok_iff {text : List Char} {value : Nat} :
    readNaturalUpTo maxNatural64 text = .ok value ↔ DenotesNatural text value := by
  unfold readNaturalUpTo
  split
  · constructor
    · intro impossible
      contradiction
    · rintro ⟨⟨digits, written | written, nonempty, _⟩, _⟩
      · exact absurd written.symm nonempty
      · contradiction
  · next rest =>
      rw [readMagnitude_eq_ok_iff, le_maxNatural64_iff]
      constructor
      · rintro ⟨nonempty, all, same, fits⟩
        exact ⟨⟨rest, .inr rfl, nonempty, all, same⟩, fits⟩
      · rintro ⟨⟨digits, written | written, nonempty, all, same⟩, fits⟩
        · have impossible := all '+' (written ▸ List.mem_cons_self)
          contradiction
        · cases written
          exact ⟨nonempty, all, same, fits⟩
  · next unsigned =>
      rw [readMagnitude_eq_ok_iff, le_maxNatural64_iff]
      constructor
      · rintro ⟨nonempty, all, same, fits⟩
        exact ⟨⟨text, .inl rfl, nonempty, all, same⟩, fits⟩
      · rintro ⟨⟨digits, written | written, nonempty, all, same⟩, fits⟩
        · rw [written]
          exact ⟨nonempty, all, same, fits⟩
        · exact absurd written (unsigned digits)

theorem readNatural64_eq_ok_iff {text : String} {value : Nat} :
    readNatural64 text = .ok value ↔ DenotesNatural text.toList value :=
  readNaturalUpTo_eq_ok_iff

/-- A text denotes one natural at most. -/
theorem DenotesNatural.unique {text : List Char} {one other : Nat}
    (first : DenotesNatural text one) (second : DenotesNatural text other) : one = other := by
  have same := (readNaturalUpTo_eq_ok_iff.mpr first).symm.trans
    (readNaturalUpTo_eq_ok_iff.mpr second)
  exact Except.ok.inj same

end LogQuery.Text
