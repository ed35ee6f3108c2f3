import Playback.Text.Number
import Mathlib.Data.Nat.Digits.Defs

set_option autoImplicit false

namespace Playback

namespace Number

/-- A text is a way to write a word. -/
def Writes (text : String) (word : UInt32) : Prop :=
  ∃ sign digits : List Char, text.toList = sign ++ digits ∧ (sign = [] ∨ sign = ['+']) ∧
    digits ≠ [] ∧ (∀ digit ∈ digits, digit.isDigit = true) ∧
    Nat.ofDigits 10 (digits.map fun digit => digit.toNat - '0'.toNat).reverse = word.toNat

/-- The first digit is the highest one. -/
theorem value_eq (digits : List Char) :
    value digits =
      Nat.ofDigits 10 (digits.map fun digit => digit.toNat - '0'.toNat).reverse := by
  rw [Nat.ofDigits_eq_foldr, List.foldr_reverse, List.foldl_map, value]
  congr 1
  funext total digit
  rw [Nat.cast_id, Nat.mul_comm, Nat.add_comm]

theorem not_isDigit_plus : '+'.isDigit = false := rfl

theorem unsigned_of_digits {digits : List Char} (some : digits ≠ [])
    (all : ∀ digit ∈ digits, digit.isDigit = true) :
    unsigned digits = digits ∧ unsigned ('+' :: digits) = digits := by
  refine ⟨?_, rfl⟩
  unfold unsigned
  split
  · have plus := all '+' List.mem_cons_self
    rw [not_isDigit_plus] at plus
    cases plus
  · rfl

/-- Without its sign, a text is what stands behind the sign. -/
theorem eq_append_unsigned (chars : List Char) :
    ∃ sign, chars = sign ++ unsigned chars ∧ (sign = [] ∨ sign = ['+']) := by
  unfold unsigned
  split
  · exact ⟨['+'], rfl, .inr rfl⟩
  · exact ⟨[], rfl, .inl rfl⟩

theorem word32?_eq_some_iff {text : String} {word : UInt32} :
    word32? text = some word ↔ Writes text word := by
  constructor
  · intro read
    simp only [word32?, Bool.or_eq_true, Bool.not_eq_true', ite_eq_iff, reduceCtorEq, and_false,
      false_or, not_or, Bool.not_eq_true, Bool.not_eq_false, List.isEmpty_eq_false_iff,
      List.all_eq_true, or_false, Option.some.injEq] at read
    obtain ⟨⟨some, all⟩, small, same⟩ := read
    obtain ⟨sign, split, form⟩ := eq_append_unsigned text.toList
    refine ⟨sign, unsigned text.toList, split, form, some, all, ?_⟩
    rw [← value_eq, ← same]
    exact (UInt32.toNat_ofNat_of_lt' small).symm
  · rintro ⟨sign, digits, split, form, some, all, number⟩
    have bare : unsigned text.toList = digits := by
      obtain ⟨without, behind⟩ := unsigned_of_digits some all
      rcases form with rfl | rfl
      · rw [split]
        exact without
      · rw [split]
        exact behind
    have digital : (digits.isEmpty || !digits.all isDigit) = false := by
      rw [Bool.or_eq_false_iff, List.isEmpty_eq_false_iff, Bool.not_eq_false', List.all_eq_true]
      exact ⟨some, all⟩
    rw [← value_eq] at number
    rw [word32?]
    simp only [bare, digital, number]
    rw [if_neg Bool.false_ne_true, if_pos word.toNat_lt, UInt32.ofNat_toNat]

/-- A text with a sign and leading zeros, and the first number that is too large. -/
example : word32? "+0004294967295" = some 0xFFFFFFFF ∧ word32? "4294967296" = none := by
  decide +kernel

end Number

end Playback
