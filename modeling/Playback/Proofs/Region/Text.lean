import Playback.Region

set_option autoImplicit false

namespace Playback

namespace Region

variable (region : Region) (bytes : Bytes)

@[simp] theorem size_write : (region.write bytes).size = region.size := by
  unfold write
  split <;> rfl

@[simp] theorem size_clear : region.clear.size = region.size := rfl

@[simp] theorem read_clear : region.clear.read = [] := List.take_nil

theorem takeWhile_ended (front rest : Bytes) :
    (front ++ 0 :: rest).takeWhile (· ≠ 0) = front.takeWhile (· ≠ 0) := by
  induction front with
  | nil => rfl
  | cons byte front ih =>
    simp only [List.cons_append, List.takeWhile_cons, ih]

theorem read_write (room : 0 < region.size) :
    (region.write bytes).read = (bytes.take (region.size - 1)).takeWhile (· ≠ 0) := by
  have short : ((bytes.take (region.size - 1)).takeWhile (· ≠ 0)).length ≤ region.size := by
    refine Nat.le_trans (List.takeWhile_prefix _).length_le ?_
    refine Nat.le_trans (List.length_take_le _ _) ?_
    exact Nat.sub_le _ _
  have taken : bytes.take (region.room bytes) = bytes.take (region.size - 1) := by
    rw [Region.room, Nat.min_comm, ← List.take_eq_take_min]
  rw [write, if_neg (Nat.ne_of_gt room)]
  dsimp only [read]
  rw [taken, takeWhile_ended, List.take_of_length_le short]

end Region

end Playback
