import LogQuery.Proofs.Outcome
import LogQuery.Proofs.Text.Naturals

namespace LogQuery.Text

/-! ## Whole numbers with a sign

What number a text denotes is one question, and whether that number fits in 64 bits is another.
The digits may be any number of them. -/

/-- One digit or more, and their value. -/
def DigitsDenote (digits : List Char) (value : Nat) : Prop :=
  digits ≠ [] ∧ (∀ digit ∈ digits, digit.isDigit = true) ∧ digitsValue digits = value

/-- Digits with a sign or none. Only a signed number may have a minus. -/
inductive DenotesInteger (signed : Bool) : List Char → Int → Prop where
  | plain {digits : List Char} {value : Nat} (denote : DigitsDenote digits value) :
      DenotesInteger signed digits value
  | plus {digits : List Char} {value : Nat} (denote : DigitsDenote digits value) :
      DenotesInteger signed ('+' :: digits) value
  | minus {digits : List Char} {value : Nat} (isSigned : signed = true)
      (denote : DigitsDenote digits value) : DenotesInteger signed ('-' :: digits) (-(value : Int))

/-- The numbers of 64 bits. -/
def Fits64 : (signed : Bool) → Int → Prop
  | true, value => -(minInteger64 : Int) ≤ value ∧ value ≤ maxInteger64
  | false, value => 0 ≤ value ∧ value ≤ maxNatural64

section

variable {signed : Bool} {text : List Char} {value : Int}

theorem not_digitsDenote_sign {sign : Char} (noDigit : sign.isDigit = false) {value : Nat} :
    ¬ DigitsDenote (sign :: text) value := by
  intro ⟨_, digits, _⟩
  have digit := digits sign List.mem_cons_self
  rw [noDigit] at digit
  contradiction

theorem not_denotesInteger_nil : ¬ DenotesInteger signed [] value := by
  intro denotes
  cases denotes with
  | plain denote => exact denote.1 rfl

theorem denotesInteger_plus_iff :
    DenotesInteger signed ('+' :: text) value ↔
      ∃ size, DigitsDenote text size ∧ value = (size : Int) := by
  constructor
  · intro denotes
    cases denotes with
    | plain denote => exact absurd denote (not_digitsDenote_sign (by decide))
    | plus denote => exact ⟨_, denote, rfl⟩
  · intro ⟨size, denote, same⟩
    rw [same]
    exact .plus denote

theorem denotesInteger_minus_iff :
    DenotesInteger signed ('-' :: text) value ↔
      signed = true ∧ ∃ size, DigitsDenote text size ∧ value = -(size : Int) := by
  constructor
  · intro denotes
    cases denotes with
    | plain denote => exact absurd denote (not_digitsDenote_sign (by decide))
    | minus isSigned denote => exact ⟨isSigned, _, denote, rfl⟩
  · intro ⟨isSigned, size, denote, same⟩
    rw [same]
    exact .minus isSigned denote

theorem denotesInteger_unsigned_iff (noPlus : ∀ rest, text ≠ '+' :: rest)
    (noMinus : ∀ rest, text ≠ '-' :: rest) :
    DenotesInteger signed text value ↔ ∃ size, DigitsDenote text size ∧ value = (size : Int) := by
  constructor
  · intro denotes
    cases denotes with
    | plain denote => exact ⟨_, denote, rfl⟩
    | plus => exact absurd rfl (noPlus _)
    | minus => exact absurd rfl (noMinus _)
  · intro ⟨size, denote, same⟩
    rw [same]
    exact .plain denote

theorem DigitsDenote.unique {one other : Nat} (first : DigitsDenote text one)
    (second : DigitsDenote text other) : one = other :=
  first.2.2.symm.trans second.2.2

/-- A text denotes one number at most. -/
theorem DenotesInteger.unique {other : Int} (first : DenotesInteger signed text value)
    (second : DenotesInteger signed text other) : value = other := by
  cases first with
  | plain denote =>
      cases second with
      | plain again => rw [denote.unique again]
      | plus => exact absurd denote (not_digitsDenote_sign (by decide))
      | minus => exact absurd denote (not_digitsDenote_sign (by decide))
  | plus denote =>
      rcases denotesInteger_plus_iff.mp second with ⟨size, again, same⟩
      rw [same, denote.unique again]
  | minus isSigned denote =>
      rcases denotesInteger_minus_iff.mp second with ⟨_, size, again, same⟩
      rw [same, denote.unique again]

/-- Only digits and signs stand in the text of a whole number. -/
theorem DenotesInteger.isDigit_or_isSign (denotes : DenotesInteger signed text value) :
    ∀ character ∈ text, character.isDigit = true ∨ character = '+' ∨ character = '-' := by
  intro character member
  cases denotes with
  | plain denote => exact .inl (denote.2.1 character member)
  | plus denote =>
      rcases List.mem_cons.mp member with sign | digit
      · exact .inr (.inl sign)
      · exact .inl (denote.2.1 character digit)
  | minus isSigned denote =>
      rcases List.mem_cons.mp member with sign | digit
      · exact .inr (.inr sign)
      · exact .inl (denote.2.1 character digit)

end

/-! ## Reading

The readers give the number of a text if it fits, and an error otherwise. -/

theorem readMagnitude_eq_ok_iff_denote {limit size : Nat} {overflow : IntegerFault}
    {digits : List Char} :
    readMagnitude limit overflow digits = .ok size ↔ DigitsDenote digits size ∧ size ≤ limit := by
  rw [readMagnitude_eq_ok_iff, DigitsDenote]
  simp only [and_assoc]

theorem readNatural64_eq_ok_iff_denotes {text : String} {value : Nat} :
    readNatural64 text = .ok value ↔
      DenotesInteger false text.toList value ∧ Fits64 false value := by
  rw [readNatural64_eq_ok_iff]
  constructor
  · intro ⟨⟨digits, written, nonempty, all, same⟩, small⟩
    have denote : DigitsDenote digits value := ⟨nonempty, all, same⟩
    have fits : Fits64 false value :=
      ⟨Int.natCast_nonneg value, Int.ofNat_le.mpr (le_maxNatural64_iff.mpr small)⟩
    refine ⟨?_, fits⟩
    rcases written with written | written
    · rw [written]
      exact .plain denote
    · rw [written]
      exact .plus denote
  · intro ⟨denotes, _, fits⟩
    have small : value < Nat.pow 2 64 := le_maxNatural64_iff.mp (Int.ofNat_le.mp fits)
    refine ⟨?_, small⟩
    generalize text.toList = characters at denotes ⊢
    generalize same : (value : Int) = whole at denotes
    cases denotes with
    | plain denote =>
        cases Int.ofNat_inj.mp same
        exact ⟨characters, .inl rfl, denote⟩
    | plus denote =>
        cases Int.ofNat_inj.mp same
        exact ⟨_, .inr rfl, denote⟩
    | minus isSigned => contradiction

theorem readInteger64_eq_ok_iff {text : String} {value : Int} :
    readInteger64 text = .ok value ↔
      DenotesInteger true text.toList value ∧ Fits64 true value := by
  have positive {digits : List Char} :
      (readMagnitude maxInteger64 .tooLarge digits).map Int.ofNat = .ok value ↔
        (∃ size : Nat, DigitsDenote digits size ∧ value = size) ∧ Fits64 true value := by
    simp only [map_eq_ok_iff, readMagnitude_eq_ok_iff_denote, Fits64]
    constructor
    · intro ⟨size, ⟨denote, fits⟩, same⟩
      have same : (size : Int) = value := same
      refine ⟨⟨size, denote, same.symm⟩, ?_, ?_⟩ <;> omega
    · intro ⟨⟨size, denote, same⟩, _, fits⟩
      exact ⟨size, ⟨denote, by omega⟩, same.symm⟩
  have negative {digits : List Char} :
      (readMagnitude minInteger64 .tooSmall digits).map (fun size : Nat => -(size : Int)) = .ok value ↔
        (∃ size : Nat, DigitsDenote digits size ∧ value = -(size : Int)) ∧ Fits64 true value := by
    simp only [map_eq_ok_iff, readMagnitude_eq_ok_iff_denote, Fits64]
    constructor
    · intro ⟨size, ⟨denote, fits⟩, same⟩
      refine ⟨⟨size, denote, same.symm⟩, ?_, ?_⟩ <;> omega
    · intro ⟨⟨size, denote, same⟩, fits, _⟩
      exact ⟨size, ⟨denote, by omega⟩, same.symm⟩
  unfold readInteger64 readInteger64Chars
  split
  · next empty => simp [empty, not_denotesInteger_nil]
  · next rest plus => rw [plus, denotesInteger_plus_iff, positive]
  · next rest minus =>
      rw [minus, denotesInteger_minus_iff]
      simp only [true_and]
      rw [← negative]
      cases readMagnitude minInteger64 .tooSmall rest <;> exact Iff.rfl
  · next noPlus noMinus => rw [denotesInteger_unsigned_iff noPlus noMinus, positive]

/-! ## Writing -/

theorem digitsDenote_repr (natural : Nat) : DigitsDenote natural.repr.toList natural := by
  rw [Nat.repr_eq_ofList_toDigits, String.toList_ofList]
  exact ⟨Nat.toDigits_ne_nil, fun _ => Nat.isDigit_of_mem_toDigits (by decide) (by decide),
    Nat.ofDigitChars_ten_toDigits⟩

/-- The text of a negative number is that of a number only where a minus is allowed. -/
theorem denotesInteger_toString_iff {signed : Bool} {written value : Int} :
    DenotesInteger signed (toString written).toList value ↔
      value = written ∧ (signed = true ∨ 0 ≤ written) := by
  cases written with
  | ofNat natural =>
      have denotes : DenotesInteger signed natural.repr.toList natural :=
        .plain (digitsDenote_repr natural)
      constructor
      · intro same
        exact ⟨same.unique denotes, .inr (Int.natCast_nonneg natural)⟩
      · intro ⟨same, _⟩
        rw [same]
        exact denotes
  | negSucc natural =>
      have written : (toString (Int.negSucc natural)).toList = '-' :: natural.succ.repr.toList :=
        String.toList_append
      have denote := digitsDenote_repr natural.succ
      rw [written, denotesInteger_minus_iff]
      constructor
      · intro ⟨isSigned, size, other, same⟩
        rw [same, other.unique denote]
        exact ⟨rfl, .inl isSigned⟩
      · intro ⟨same, allowed⟩
        have isSigned := allowed.resolve_right (by simp)
        exact ⟨isSigned, _, denote, same⟩

end LogQuery.Text
