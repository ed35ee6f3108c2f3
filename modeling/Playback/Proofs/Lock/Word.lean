import Playback.Lock.Word
import Mathlib.Data.Nat.Bitwise

set_option autoImplicit false

namespace Playback

namespace LockWord

/-- The number of readers at which their count would run into the bit of the writer. -/
def limit : Nat := 2 ^ 31

/-- What the writer adds to the word. -/
def bit (writer : Bool) : Nat := if writer then limit else 0

/-- The word counts so many readers, and shows whether a writer has set its bit. -/
structure Counts (lock : LockWord) (readers : Nat) (writer : Bool) : Prop where
  word : lock.word.toNat = readers + bit writer
  few : readers < limit

theorem counts_zero : Counts {} 0 false := ⟨rfl, by decide⟩

namespace Counts

variable {lock : LockWord} {readers : Nat} {writer : Bool}

theorem isWriteLocked_eq (counts : Counts lock readers writer) :
    lock.isWriteLocked = writer := by
  have few := counts.few
  have masked : (lock.word &&& writerBit).toNat = bit writer := by
    rw [UInt32.toNat_and, show writerBit.toNat = limit from rfl, limit, Nat.and_two_pow,
      counts.word]
    cases writer with
    | false =>
      rw [bit, if_neg Bool.false_ne_true, Nat.add_zero, Nat.testBit_lt_two_pow few]
      rfl
    | true =>
      rw [bit, if_pos rfl, Nat.add_comm, limit, Nat.testBit_two_pow_add_eq,
        Nat.testBit_lt_two_pow few]
      rfl
  cases writer with
  | false =>
    have clear : lock.word &&& writerBit = 0 := UInt32.toNat_inj.mp masked
    rw [isWriteLocked, clear]
    rfl
  | true =>
    have set : lock.word &&& writerBit ≠ 0 := by
      intro clear
      rw [clear] at masked
      exact absurd masked (by decide)
    exact bne_iff_ne.mpr set

/-- A writer shuts out readers and other writers. -/
theorem shut (counts : Counts lock readers true) : lock.enter? = none ∧ lock.claim? = none := by
  rw [enter?, claim?, counts.isWriteLocked_eq]
  exact ⟨rfl, rfl⟩

theorem free_of_enter {entered : LockWord} (counts : Counts lock readers writer)
    (free : lock.enter? = some entered) : writer = false := by
  cases writer with
  | false => rfl
  | true =>
    rw [counts.shut.1] at free
    cases free

theorem free_of_claim {claimed : LockWord} (counts : Counts lock readers writer)
    (free : lock.claim? = some claimed) : writer = false := by
  cases writer with
  | false => rfl
  | true =>
    rw [counts.shut.2] at free
    cases free

/-- One reader more. -/
theorem enter (counts : Counts lock readers false) (few : readers + 1 < limit) :
    ∃ entered, lock.enter? = some entered ∧ Counts entered (readers + 1) false := by
  refine ⟨_, by rw [enter?, counts.isWriteLocked_eq, if_neg Bool.false_ne_true], ?_, few⟩
  have word : lock.word.toNat = readers := counts.word
  rw [limit] at few
  change (lock.word + 1).toNat = readers + 1
  rw [UInt32.toNat_add, word]
  exact Nat.mod_eq_of_lt (Nat.lt_trans few (by decide))

theorem claim (counts : Counts lock readers false) :
    ∃ claimed, lock.claim? = some claimed ∧ Counts claimed readers true := by
  refine ⟨_, by rw [claim?, counts.isWriteLocked_eq, if_neg Bool.false_ne_true], ?_, counts.few⟩
  have word : lock.word.toNat = readers := counts.word
  have apart := Nat.two_pow_add_eq_or_of_lt counts.few 1
  rw [Nat.mul_one] at apart
  change (lock.word ||| writerBit).toNat = readers + limit
  rw [UInt32.toNat_or, word, Nat.or_comm, Nat.add_comm, limit, apart]
  rfl

/-- A writer is alone once all readers have left. -/
theorem isDrained_iff (counts : Counts lock readers writer) :
    lock.isDrained = true ↔ readers = 0 ∧ writer = true := by
  have few := counts.few
  have same : lock.word = writerBit ↔ readers + bit writer = limit := by
    rw [← counts.word, ← UInt32.toNat_inj]
    rfl
  rw [isDrained, decide_eq_true_iff, same]
  cases writer <;> simp [bit, Nat.ne_of_lt few]

theorem leave (counts : Counts lock (readers + 1) writer) : Counts lock.leave readers writer := by
  refine ⟨?_, Nat.lt_of_succ_lt counts.few⟩
  have word := counts.word
  have positive : (1 : UInt32) ≤ lock.word := by
    rw [UInt32.le_iff_toNat_le, word]
    change 1 ≤ _
    omega
  change (lock.word - 1).toNat = readers + bit writer
  rw [UInt32.toNat_sub_of_le _ _ positive, word]
  change readers + 1 + bit writer - 1 = _
  omega

/-- The bits below that of the writer. -/
theorem readers_eq (counts : Counts lock readers writer) : lock.readers.toNat = readers := by
  have few := counts.few
  have others : (~~~writerBit).toNat = 2 ^ 31 - 1 := by decide
  change (lock.word &&& ~~~writerBit).toNat = readers
  rw [UInt32.toNat_and, others, Nat.and_two_pow_sub_one_eq_mod, counts.word]
  cases writer with
  | false => exact Nat.mod_eq_of_lt few
  | true =>
    rw [bit, if_pos rfl, limit, Nat.add_mod_right]
    exact Nat.mod_eq_of_lt few

theorem release (counts : Counts lock readers true) : Counts lock.release readers false :=
  ⟨counts.readers_eq, counts.few⟩

end Counts

/-- The word agrees with so many threads that read, drain and write: at most one has the bit of the
writer, and while one writes none reads. -/
structure Balanced (lock : LockWord) (reading draining writing : Nat) : Prop where
  counts : lock.Counts reading (draining + writing = 1)
  single : draining + writing ≤ 1
  alone : 0 < writing → reading = 0

namespace Balanced

variable {lock : LockWord} {reading draining writing : Nat}

theorem zero : Balanced {} 0 0 0 := ⟨counts_zero, by decide, nofun⟩

/-- Nobody has the bit of the writer while the word is free. -/
theorem nobody_of_free (balanced : Balanced lock reading draining writing)
    (free : decide (draining + writing = 1) = false) : draining = 0 ∧ writing = 0 := by
  have single := balanced.single
  have apart := of_decide_eq_false free
  omega

theorem enter (balanced : Balanced lock reading draining writing)
    (few : reading + 1 < limit) {entered : LockWord} (free : lock.enter? = some entered) :
    Balanced entered (reading + 1) draining writing := by
  have nobody := balanced.counts.free_of_enter free
  obtain ⟨rfl, rfl⟩ := balanced.nobody_of_free nobody
  obtain ⟨next, same, more⟩ := Counts.enter balanced.counts few
  rw [free] at same
  cases same
  exact ⟨more, balanced.single, nofun⟩

theorem leave (balanced : Balanced lock (reading + 1) draining writing) :
    Balanced lock.leave reading draining writing := by
  refine ⟨balanced.counts.leave, balanced.single, ?_⟩
  intro some
  exact absurd (balanced.alone some) (Nat.succ_ne_zero reading)

theorem claim (balanced : Balanced lock reading draining writing) {claimed : LockWord}
    (free : lock.claim? = some claimed) : Balanced claimed reading (draining + 1) writing := by
  have nobody := balanced.counts.free_of_claim free
  obtain ⟨rfl, rfl⟩ := balanced.nobody_of_free nobody
  obtain ⟨next, same, taken⟩ := Counts.claim balanced.counts
  rw [free] at same
  cases same
  exact ⟨taken, Nat.le_refl 1, nofun⟩

theorem drain (balanced : Balanced lock reading (draining + 1) writing)
    (drained : lock.isDrained = true) : Balanced lock reading draining (writing + 1) := by
  have counts := balanced.counts
  have single := balanced.single
  rw [show draining + 1 + writing = draining + (writing + 1) by omega] at counts single
  exact ⟨counts, single, fun _ => (counts.isDrained_iff.mp drained).1⟩

theorem release (balanced : Balanced lock reading draining (writing + 1)) :
    Balanced lock.release reading draining writing := by
  have single := balanced.single
  obtain ⟨rfl, rfl⟩ : draining = 0 ∧ writing = 0 := by omega
  exact ⟨Counts.release balanced.counts, Nat.zero_le 1, nofun⟩

end Balanced

end LockWord

end Playback
