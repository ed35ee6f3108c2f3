import Playback.Message.Frame
import Mathlib.Algebra.BigOperators.Fin
import Mathlib.Data.List.Induction
import Mathlib.Data.Nat.ModEq

set_option autoImplicit false

namespace Playback

/-- The value of bytes as digits to the base of 31, of which the first is the highest. -/
def polynomial (bytes : Bytes) : Nat :=
  ∑ place : Fin bytes.length, bytes[place].toNat * 31 ^ (bytes.length - 1 - place)

theorem polynomial_nil : polynomial [] = 0 := rfl

theorem polynomial_cons (byte : UInt8) (bytes : Bytes) :
    polynomial (byte :: bytes) = byte.toNat * 31 ^ bytes.length + polynomial bytes := by
  refine (Fin.sum_univ_succ _).trans ?_
  refine congrArg _ (Finset.sum_congr rfl fun place _ => ?_)
  have lower : bytes.length + 1 - 1 - (place.val + 1) = bytes.length - 1 - place.val := by omega
  exact congrArg (fun power => bytes[place].toNat * 31 ^ power) lower

theorem polynomial_append (first second : Bytes) :
    polynomial (first ++ second) = polynomial first * 31 ^ second.length + polynomial second := by
  induction first with
  | nil => rw [polynomial_nil, List.nil_append, Nat.zero_mul, Nat.zero_add]
  | cons byte rest ih =>
    rw [List.cons_append, polynomial_cons, polynomial_cons, ih, List.length_append, pow_add,
      Nat.add_mul, Nat.mul_assoc, Nat.add_assoc]

theorem polynomial_middle (before after : Bytes) (byte : UInt8) :
    polynomial (before ++ byte :: after) =
      polynomial before * 31 ^ (after.length + 1) + polynomial after +
        byte.toNat * 31 ^ after.length := by
  rw [polynomial_append, polynomial_cons, List.length_cons]
  omega

/-! The fold -/

/-- A shift by five bits less the word itself is the word times 31. -/
theorem toNat_hashBytes_snoc (bytes : Bytes) (byte : UInt8) :
    (hashBytes (bytes ++ [byte])).toNat = ((hashBytes bytes).toNat * 31 + byte.toNat) % 2 ^ 32 := by
  have last : hashBytes (bytes ++ [byte]) =
      (hashBytes bytes <<< 5) - hashBytes bytes + byte.toUInt32 := List.foldl_concat ..
  have small := (hashBytes bytes).toNat_lt
  have shifted : (hashBytes bytes).toNat <<< (UInt32.toNat 5 % 32) =
      (hashBytes bytes).toNat * 32 := by
    rw [Nat.shiftLeft_eq]
    rfl
  rw [last, UInt32.toNat_add, UInt32.toNat_sub, UInt32.toNat_shiftLeft, UInt8.toNat_toUInt32,
    shifted]
  omega

theorem toNat_hashBytes (bytes : Bytes) : (hashBytes bytes).toNat = polynomial bytes % 2 ^ 32 := by
  induction bytes using List.reverseRecOn with
  | nil => rfl
  | append_singleton bytes byte ih =>
    rw [toNat_hashBytes_snoc, ih, polynomial_append, List.length_singleton, pow_one,
      polynomial_cons, polynomial_nil, List.length_nil, pow_zero, Nat.mul_one, Nat.add_zero]
    exact ((Nat.mod_modEq (polynomial bytes) (2 ^ 32)).mul_right 31).add_right byte.toNat

theorem hashBytes_eq (bytes : Bytes) : hashBytes bytes = UInt32.ofNat (polynomial bytes) := by
  apply UInt32.toNat_inj.mp
  rw [toNat_hashBytes, UInt32.toNat_ofNat']

theorem hashBytes_eq_iff (first second : Bytes) :
    hashBytes first = hashBytes second ↔ polynomial first ≡ polynomial second [MOD 2 ^ 32] := by
  rw [← UInt32.toNat_inj, toNat_hashBytes, toNat_hashBytes]
  rfl

theorem coprime_power (count : Nat) : Nat.Coprime (2 ^ 32) (31 ^ count) :=
  Nat.Coprime.pow 32 count (by decide)

/-- Of bytes that agree up to one place, the hashes agree only if that place agrees, too. -/
theorem hashBytes_middle_eq_iff (before after : Bytes) (byte other : UInt8) :
    hashBytes (before ++ byte :: after) = hashBytes (before ++ other :: after) ↔ byte = other := by
  rw [hashBytes_eq_iff, polynomial_middle, polynomial_middle]
  constructor
  · intro same
    have scaled := Nat.ModEq.add_left_cancel' _ same
    have digits := scaled.cancel_right_of_coprime (coprime_power after.length)
    have one := byte.toNat_lt
    have two := other.toNat_lt
    exact UInt8.toNat_inj.mp (digits.eq_of_lt_of_lt (by omega) (by omega))
  · rintro rfl
    rfl

/-- The hash is the polynomial in 31 with the bytes as coefficients, in words of 32 bits. So the hash
of a whole follows from those of its parts, and no byte can change by itself without the hash
changing, in bytes of whatever length. -/
theorem hash_is_polynomial :
    (∀ bytes : Bytes, (hashBytes bytes).toNat =
      (∑ place : Fin bytes.length, bytes[place].toNat * 31 ^ (bytes.length - 1 - place)) %
        2 ^ 32) ∧
    (∀ first second : Bytes, (hashBytes (first ++ second)).toNat =
      ((hashBytes first).toNat * 31 ^ second.length + (hashBytes second).toNat) % 2 ^ 32) ∧
    (∀ (bytes : Bytes) (place : Fin bytes.length) (byte : UInt8),
      hashBytes (bytes.set place byte) = hashBytes bytes ↔ byte = bytes[place]) ∧
    ∀ message : Message, message.hash = message.encode.map fun (frame : Bytes) =>
      UInt32.ofNat
        (∑ place : Fin frame.length, frame[place].toNat * 31 ^ (frame.length - 1 - place)) := by
  refine ⟨toNat_hashBytes, ?_, ?_, ?_⟩
  · intro first second
    rw [toNat_hashBytes, polynomial_append, toNat_hashBytes, toNat_hashBytes, Nat.add_mod_mod]
    exact (((Nat.mod_modEq (polynomial first) (2 ^ 32)).mul_right _).add_right _).symm
  · intro bytes place byte
    have here : bytes = bytes.take place ++ bytes[place] :: bytes.drop (place + 1) := by
      simp only [Fin.getElem_fin, List.getElem_cons_drop, List.take_append_drop]
    have changed : bytes.set place byte = bytes.take place ++ byte :: bytes.drop (place + 1) :=
      List.set_eq_take_cons_drop byte place.isLt
    rw [← hashBytes_middle_eq_iff (bytes.take place) (bytes.drop (place + 1)), ← changed, ← here]
  · intro message
    rw [Message.hash, funext hashBytes_eq]
    rfl

/-- Of two zero bytes, one changes. -/
example : hashBytes [0, 0] = 0 ∧ hashBytes [0, 1] = 1 ∧ hashBytes [1, 0] = 31 := by decide

end Playback
