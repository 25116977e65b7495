import Mathlib.Data.List.DropRight
import Mathlib.Data.List.TakeWhile
import LogQuery.Text.Blank

namespace LogQuery.Text

/-! ## Trimmed texts

Blanks at the ends make no difference to a trimmed text, and a character that is no blank
keeps what lies beyond it. -/

def AreBlank (text : List Char) : Prop :=
  ∀ character ∈ text, isBlank character = true

instance (text : List Char) : Decidable (AreBlank text) :=
  decidable_of_iff (text.all isBlank = true) List.all_eq_true

variable {character : Char}

theorem trimStart_append_cons (nonblank : isBlank character = false) (front rest : List Char) :
    trimStart (front ++ character :: rest) = trimStart front ++ character :: rest := by
  induction front with
  | nil => simp [trimStart, nonblank]
  | cons first front induction =>
      cases blank : isBlank first with
      | true => simpa [trimStart, blank] using induction
      | false => simp [trimStart, blank]

theorem trimEnd_append_cons (nonblank : isBlank character = false) (front rest : List Char) :
    trimEnd (front ++ character :: rest) = front ++ character :: trimEnd rest := by
  have mirrored := trimStart_append_cons nonblank rest.reverse front.reverse
  rw [trimStart, trimStart] at mirrored
  simp [trimEnd, mirrored]

theorem trimBlanks_append_cons (nonblank : isBlank character = false)
    (front rest : List Char) :
    trimBlanks (front ++ character :: rest) =
      trimStart front ++ character :: trimEnd rest := by
  rw [trimBlanks, trimStart_append_cons nonblank, trimEnd_append_cons nonblank]

/-! ### Blanks at the ends -/

theorem trimStart_append_of_areBlank {before : List Char} (blank : AreBlank before)
    (text : List Char) : trimStart (before ++ text) = trimStart text :=
  List.dropWhile_append_of_pos blank

theorem trimEnd_append_of_areBlank (text : List Char) {after : List Char}
    (blank : AreBlank after) : trimEnd (text ++ after) = trimEnd text := by
  have mirrored : AreBlank after.reverse := by
    intro character member
    exact blank character (List.mem_reverse.mp member)
  rw [trimEnd, List.reverse_append, List.dropWhile_append_of_pos mirrored, trimEnd]

theorem trimBlanks_append_of_areBlank (text : List Char) {after : List Char}
    (blank : AreBlank after) : trimBlanks (text ++ after) = trimBlanks text := by
  rw [trimBlanks, trimBlanks, trimStart, trimStart, List.dropWhile_append]
  split
  · next empty =>
    -- `text` is blank as well, so nothing is left of either.
    have nothing : after.dropWhile isBlank = [] := List.dropWhile_eq_nil_iff.mpr blank
    rw [nothing, List.isEmpty_iff.mp empty]
  · exact trimEnd_append_of_areBlank _ blank

/-- Blanks around a text are trimmed with it. -/
theorem trimBlanks_spaced {before after : List Char} (blankBefore : AreBlank before)
    (text : List Char) (blankAfter : AreBlank after) :
    trimBlanks (before ++ text ++ after) = trimBlanks text := by
  rw [trimBlanks_append_of_areBlank _ blankAfter, trimBlanks,
    trimStart_append_of_areBlank blankBefore, trimBlanks]

theorem exists_eq_trimEnd_append (text : List Char) :
    ∃ after, AreBlank after ∧ text = trimEnd text ++ after := by
  refine ⟨(text.reverse.takeWhile isBlank).reverse, ?_, ?_⟩
  · intro character member
    exact List.mem_takeWhile_imp (List.mem_reverse.mp member)
  · rw [trimEnd, ← List.reverse_append, List.takeWhile_append_dropWhile, List.reverse_reverse]

/-- A text already trimmed at its end is trimmed to the same. -/
theorem trimBlanks_trimEnd (text : List Char) :
    trimBlanks (trimEnd text) = trimBlanks text := by
  obtain ⟨after, blank, split⟩ := exists_eq_trimEnd_append text
  calc trimBlanks (trimEnd text)
      _ = trimBlanks (trimEnd text ++ after) := (trimBlanks_append_of_areBlank _ blank).symm
      _ = trimBlanks text := by rw [← split]

theorem trimBlanks_trimBlanks (text : List Char) :
    trimBlanks (trimBlanks text) = trimBlanks text := by
  calc trimBlanks (trimBlanks text)
      _ = trimBlanks (trimStart text) := trimBlanks_trimEnd (trimStart text)
      _ = trimEnd (trimStart text) :=
          congrArg trimEnd (List.dropWhile_idempotent isBlank text)

theorem trim_trim (text : String) : trim (trim text) = trim text := by
  apply String.toList_injective
  rw [toList_trim, toList_trim, trimBlanks_trimBlanks]

theorem trimEnd_eq_nil_iff {text : List Char} : trimEnd text = [] ↔ AreBlank text := by
  simp [trimEnd, AreBlank]

theorem trimBlanks_eq_nil_iff {text : List Char} : trimBlanks text = [] ↔ AreBlank text := by
  rw [trimBlanks, trimEnd_eq_nil_iff]
  constructor
  · intro blank
    rw [← List.takeWhile_append_dropWhile (p := isBlank) (l := text)]
    exact List.forall_mem_append.mpr ⟨fun _ member => List.mem_takeWhile_imp member, blank⟩
  · intro blank character member
    exact blank character ((List.dropWhile_sublist isBlank).subset member)

theorem trim_eq_empty_iff {text : String} : trim text = "" ↔ isBlankText text = true := by
  rw [← String.toList_eq_nil_iff, toList_trim, trimBlanks_eq_nil_iff, isBlankText,
    List.all_eq_true]
  rfl

end LogQuery.Text
