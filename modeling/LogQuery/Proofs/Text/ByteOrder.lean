import Mathlib.Tactic.SplitIfs
import LogQuery.Text.Utf8

namespace LogQuery.Text

/-! ## The order of bytes

Texts stand in the order of their characters, and written as UTF-8 in that of their bytes: the
first byte of a character grows with the number of its bytes, and where that number is the same
the bytes are digits of the code, the highest first. -/

/-- A code in digits of six bits. The highest digit has all bits that are left, and a mark that
tells how many digits follow. -/
def codeBytes (mark : Nat) : Nat → Nat → List Nat
  | 0, code => [mark + code]
  | following + 1, code => codeBytes mark following (code / 64) ++ [0x80 + code % 64]

def charBytes (code : Nat) : List Nat :=
  if code ≤ 0x7f then codeBytes 0 0 code
  else if code ≤ 0x7ff then codeBytes 0xc0 1 code
  else if code ≤ 0xffff then codeBytes 0xe0 2 code
  else codeBytes 0xf0 3 code

theorem map_toNat_utf8EncodeChar (character : Char) :
    (String.utf8EncodeChar character).map UInt8.toNat = charBytes character.toNat := by
  have bounded : character.val.toNat < 0x110000 := by
    rcases character.valid with low | high
    · exact Nat.lt_trans low (by decide)
    · exact high.2
  change _ = charBytes character.val.toNat
  unfold String.utf8EncodeChar charBytes
  generalize character.val.toNat = code at bounded ⊢
  dsimp only
  split_ifs
  all_goals
    simp [codeBytes]
    omega

theorem codeBytes_append_lt (mark following : Nat) {one other : Nat} (before : one < other)
    (rest later : List Nat) :
    codeBytes mark following one ++ rest < codeBytes mark following other ++ later := by
  induction following generalizing one other rest later with
  | zero => exact .rel (Nat.add_lt_add_left before mark)
  | succ following induction =>
      rw [codeBytes, codeBytes, List.append_assoc, List.append_assoc]
      have digits : one / 64 < other / 64 ∨ one / 64 = other / 64 ∧ one % 64 < other % 64 := by
        omega
      rcases digits with high | ⟨high, low⟩
      · exact induction high _ _
      · rw [high]
        exact List.append_left_lt (.rel (Nat.add_lt_add_left low 0x80))

/-- What is left of a code above the digits that follow. -/
def highDigit : Nat → Nat → Nat
  | 0, code => code
  | following + 1, code => highDigit following (code / 64)

theorem codeBytes_eq_cons (mark following code : Nat) :
    ∃ tail, codeBytes mark following code = (mark + highDigit following code) :: tail := by
  induction following generalizing code with
  | zero => exact ⟨[], rfl⟩
  | succ following induction =>
      rcases induction (code / 64) with ⟨tail, first⟩
      refine ⟨tail ++ [0x80 + code % 64], ?_⟩
      rw [codeBytes, first, highDigit, List.cons_append]

/-- Between codes of different width the first byte decides. -/
theorem codeBytes_append_lt_of_first {mark following otherMark otherFollowing one other : Nat}
    (first : mark + highDigit following one < otherMark + highDigit otherFollowing other)
    (rest later : List Nat) :
    codeBytes mark following one ++ rest <
      codeBytes otherMark otherFollowing other ++ later := by
  rcases codeBytes_eq_cons mark following one with ⟨tail, bytes⟩
  rcases codeBytes_eq_cons otherMark otherFollowing other with ⟨otherTail, otherBytes⟩
  rw [bytes, otherBytes]
  exact .rel first

theorem charBytes_append_lt {one other : Nat} (before : one < other) (rest later : List Nat) :
    charBytes one ++ rest < charBytes other ++ later := by
  unfold charBytes
  -- The smaller code is not the wider one. Of one width the digits decide, else the first byte.
  split_ifs
  all_goals first
    | omega
    | exact codeBytes_append_lt _ _ before rest later
    | exact codeBytes_append_lt_of_first (by simp only [highDigit]; omega) rest later

theorem lt_of_map_toNat_lt {one other : List UInt8}
    (before : one.map UInt8.toNat < other.map UInt8.toNat) : one < other := by
  induction one generalizing other with
  | nil =>
      cases other with
      | nil => contradiction
      | cons => exact List.nil_lt_cons _ _
  | cons byte one induction =>
      cases other with
      | nil => contradiction
      | cons otherByte other =>
          rw [List.map_cons, List.map_cons, List.cons_lt_cons_iff, UInt8.toNat_inj] at before
          rcases before with smaller | ⟨same, rest⟩
          · exact .rel smaller
          · exact List.cons_lt_cons_iff.mpr (.inr ⟨same, induction rest⟩)

theorem utf8EncodeChar_append_lt {one other : Char} (before : one < other)
    (rest later : List UInt8) :
    String.utf8EncodeChar one ++ rest < String.utf8EncodeChar other ++ later := by
  apply lt_of_map_toNat_lt
  rw [List.map_append, List.map_append, map_toNat_utf8EncodeChar, map_toNat_utf8EncodeChar]
  exact charBytes_append_lt before _ _

theorem utf8Bytes_lt {one other : List Char} (before : one < other) :
    utf8Bytes one < utf8Bytes other := by
  induction before with
  | @nil character rest =>
      have nonempty : String.utf8EncodeChar character ≠ [] := String.utf8EncodeChar_ne_nil
      rcases List.exists_cons_of_ne_nil nonempty with ⟨byte, bytes, encoded⟩
      rw [utf8Bytes, utf8Bytes, List.flatMap_nil, List.flatMap_cons, encoded, List.cons_append]
      exact List.nil_lt_cons _ _
  | rel smaller => exact utf8EncodeChar_append_lt smaller _ _
  | cons _ induction => exact List.append_left_lt induction

end LogQuery.Text
