import Playback.Proofs.Lock.Word
import Mathlib.Data.List.Count

set_option autoImplicit false

namespace Playback

/-- Where a thread stands with the lock. -/
inductive Stance where
  | outside
  | reading
  /-- The bit of the writer is set, and readers may be inside. -/
  | draining
  | writing
  deriving DecidableEq, Repr

/-- One step of a thread, from where it stands. -/
inductive LockStep : LockWord → Stance → LockWord → Stance → Prop where
  | stays {lock : LockWord} {stance : Stance} : LockStep lock stance lock stance
  | enters {lock entered : LockWord} (free : lock.enter? = some entered) :
      LockStep lock .outside entered .reading
  | leaves {lock : LockWord} : LockStep lock .reading lock.leave .outside
  | claims {lock claimed : LockWord} (free : lock.claim? = some claimed) :
      LockStep lock .outside claimed .draining
  | drains {lock : LockWord} (drained : lock.isDrained = true) :
      LockStep lock .draining lock .writing
  | releases {lock : LockWord} : LockStep lock .writing lock.release .outside

/-- How many threads have the bit of the writer. -/
def writers (stances : List Stance) : Nat := stances.count .draining + stances.count .writing

/-- The word agrees with where the threads stand. -/
structure Tally (lock : LockWord) (stances : List Stance) : Prop where
  counts : lock.Counts (stances.count .reading) (writers stances = 1)
  single : writers stances ≤ 1
  alone : 0 < stances.count .writing → stances.count .reading = 0

theorem count_insert (before after : List Stance) (stance kind : Stance) :
    (before ++ stance :: after).count kind =
      (before ++ after).count kind + if stance = kind then 1 else 0 := by
  rw [List.count_append, List.count_append, List.count_cons, beq_eq_decide, Nat.add_assoc]
  by_cases same : stance = kind <;> simp [same]

theorem writers_insert (before after : List Stance) (stance : Stance) :
    writers (before ++ stance :: after) =
      writers (before ++ after) + if stance = .draining ∨ stance = .writing then 1 else 0 := by
  rw [writers, writers, count_insert, count_insert]
  cases stance <;> simp <;> omega

namespace Tally

theorem nil : Tally {} [] := ⟨LockWord.counts_zero, by decide, nofun⟩

/-- A thread that is outside does not count. -/
theorem outside_iff {lock : LockWord} (before after : List Stance) :
    Tally lock (before ++ .outside :: after) ↔ Tally lock (before ++ after) := by
  have reading := count_insert before after .outside .reading
  have writing := count_insert before after .outside .writing
  have bits := writers_insert before after .outside
  constructor
  · rintro ⟨counts, single, alone⟩
    rw [reading, bits] at counts
    rw [bits] at single
    rw [reading, writing] at alone
    exact ⟨counts, single, alone⟩
  · rintro ⟨counts, single, alone⟩
    refine ⟨?_, ?_, ?_⟩
    · rw [reading, bits]
      exact counts
    · rw [bits]
      exact single
    · rw [reading, writing]
      exact alone

variable {lock : LockWord} {before after : List Stance}

/-- The agreement is one on numbers. -/
theorem iff_balanced (stances : List Stance) :
    Tally lock stances ↔
      lock.Balanced (stances.count .reading) (stances.count .draining) (stances.count .writing) :=
  ⟨fun ⟨counts, single, alone⟩ => ⟨counts, single, alone⟩,
    fun ⟨counts, single, alone⟩ => ⟨counts, single, alone⟩⟩

theorem enter (tally : Tally lock (before ++ .outside :: after))
    (few : (before ++ .outside :: after).length < LockWord.limit) {entered : LockWord}
    (free : lock.enter? = some entered) : Tally entered (before ++ .reading :: after) := by
  have room : (before ++ after).count .reading + 1 < LockWord.limit := by
    have some : (before ++ after).count .reading ≤ (before ++ after).length := List.count_le_length
    rw [List.length_append, List.length_cons] at few
    rw [List.length_append] at some
    omega
  rw [iff_balanced] at tally ⊢
  simp only [count_insert, reduceCtorEq, if_false, if_true, Nat.add_zero] at tally ⊢
  exact tally.enter room free

theorem leave (tally : Tally lock (before ++ .reading :: after)) :
    Tally lock.leave (before ++ .outside :: after) := by
  rw [iff_balanced] at tally ⊢
  simp only [count_insert, reduceCtorEq, if_false, if_true, Nat.add_zero] at tally ⊢
  exact tally.leave

theorem claim (tally : Tally lock (before ++ .outside :: after)) {claimed : LockWord}
    (free : lock.claim? = some claimed) : Tally claimed (before ++ .draining :: after) := by
  rw [iff_balanced] at tally ⊢
  simp only [count_insert, reduceCtorEq, if_false, if_true, Nat.add_zero] at tally ⊢
  exact tally.claim free

theorem drain (tally : Tally lock (before ++ .draining :: after))
    (drained : lock.isDrained = true) : Tally lock (before ++ .writing :: after) := by
  rw [iff_balanced] at tally ⊢
  simp only [count_insert, reduceCtorEq, if_false, if_true, Nat.add_zero] at tally ⊢
  exact tally.drain drained

theorem release (tally : Tally lock (before ++ .writing :: after)) :
    Tally lock.release (before ++ .outside :: after) := by
  rw [iff_balanced] at tally ⊢
  simp only [count_insert, reduceCtorEq, if_false, if_true, Nat.add_zero] at tally ⊢
  exact tally.release

/-- A step of one thread keeps the agreement. -/
theorem step {changed : LockWord} {stance moved : Stance}
    (tally : Tally lock (before ++ stance :: after))
    (few : (before ++ stance :: after).length < LockWord.limit)
    (step : LockStep lock stance changed moved) :
    Tally changed (before ++ moved :: after) := by
  cases step with
  | stays => exact tally
  | enters free => exact tally.enter few free
  | leaves => exact tally.leave
  | claims free => exact tally.claim free
  | drains drained => exact tally.drain drained
  | releases => exact tally.release

/-- As long as a thread reads, the writer that has set its bit does not get any further. -/
theorem locked_step {changed : LockWord} {stance moved : Stance}
    (tally : Tally lock (before ++ stance :: after))
    (few : (before ++ stance :: after).length < LockWord.limit)
    (reads : .reading ∈ before ++ after) (locked : lock.isWriteLocked = true)
    (step : LockStep lock stance changed moved) : changed.isWriteLocked = true := by
  have inside : 0 < (before ++ after).count .reading := List.count_pos_iff.mpr reads
  have shut := tally.counts
  rw [← tally.counts.isWriteLocked_eq, locked] at shut
  cases step with
  | stays => exact locked
  | enters free =>
    rw [shut.shut.1] at free
    cases free
  | leaves =>
    have one := tally.counts.isWriteLocked_eq
    rw [tally.leave.counts.isWriteLocked_eq, writers_insert, if_neg (by simp)]
    rwa [locked, writers_insert, if_neg (by simp), eq_comm] at one
  | claims free =>
    rw [shut.shut.2] at free
    cases free
  | drains drained => exact locked
  | releases =>
    have alone := tally.alone
    rw [count_insert, count_insert, if_pos rfl, if_neg (by simp)] at alone
    exact absurd (alone (Nat.succ_pos _)) (Nat.ne_of_gt inside)

end Tally

end Playback
