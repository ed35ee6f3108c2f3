import Playback.Proofs.Region.Text

set_option autoImplicit false

namespace Playback

namespace Region

/-! Accesses -/

def store? (memory : Bytes) (position : Nat) (byte : UInt8) : Option Bytes :=
  if position < memory.length then some (memory.set position byte) else none

/-- Copies so many bytes from the beginning of one place to that of another. -/
def copy? (source target : Bytes) : Nat → Option Bytes
  | 0 => some target
  | count + 1 => do
    let copied ← copy? source target count
    let byte ← source[count]?
    store? copied count byte

def writeAt? (size : Nat) (memory bytes : Bytes) : Option (Nat × Bytes) :=
  if size = 0 then some (0, memory)
  else do
    let count := min bytes.length (size - 1)
    let copied ← copy? bytes memory count
    let ended ← store? copied count 0
    return (count, ended)

/-- Puts bytes behind an output until a zero byte, looking at so many positions at most. -/
def readFrom? (memory output : Bytes) (position : Nat) : Nat → Option Bytes
  | 0 => some output
  | more + 1 => do
    let byte ← memory[position]?
    if byte = 0 then return output
    else readFrom? memory (output ++ [byte]) (position + 1) more

/-- Puts bytes into a buffer until a zero byte, looking at so many positions at most. -/
def copyFrom? (memory buffer : Bytes) (position : Nat) : Nat → Option (Nat × Bytes)
  | 0 => some (position, buffer)
  | more + 1 => do
    let byte ← memory[position]?
    if byte = 0 then return (position, buffer)
    else
      let filled ← store? buffer position byte
      copyFrom? memory filled (position + 1) more

/-! What is done with a region -/

inductive Use where
  | write (bytes : Bytes)
  /-- The output has held something before. -/
  | read (output : Bytes)
  | copy (buffer : Bytes)
  | clear
  deriving DecidableEq, Repr

inductive Answer where
  | written (count : Nat)
  | output (bytes : Bytes)
  | copied (count : Nat) (buffer : Bytes)
  | cleared
  deriving DecidableEq, Repr

namespace Use

/-- By positions of the memory that is mapped. -/
def walk? (size : Nat) (memory : Bytes) : Use → Option (Answer × Bytes)
  | write bytes =>
    (writeAt? size memory bytes).map fun (count, written) => (.written count, written)
  | read output => (readFrom? memory (output.take 0) 0 size).map fun text => (.output text, memory)
  | copy buffer =>
    (copyFrom? memory buffer 0 (min buffer.length size)).map fun (count, filled) =>
      (.copied count filled, memory)
  | clear => (copy? (List.replicate size 0) memory size).map fun zeros => (.cleared, zeros)

def act (region : Region) : Use → Answer × Region
  | write bytes => (.written (region.room bytes), region.write bytes)
  | read _ => (.output region.read, region)
  | copy buffer => (.copied (region.copyInto buffer).1 (region.copyInto buffer).2, region)
  | clear => (.cleared, region.clear)

/-- By the one text that is held: that which was written last and has not been cleared, as far as it
has room, up to its first zero byte. -/
def tell (size : Nat) (text : Bytes) : Use → Answer × Bytes
  | write bytes =>
    let count := min bytes.length (size - 1)
    (.written count, (bytes.take count).takeWhile (· ≠ 0))
  | read _ => (.output text, text)
  | copy buffer =>
    let count := min buffer.length text.length
    (.copied count (text.take count ++ buffer.drop count), text)
  | clear => (.cleared, [])

end Use

section
variable {State : Type}

/-- The answers to one use after another, and what is left. -/
def play (act : State → Use → Answer × State) (state : State) : List Use → List Answer × State
  | [] => ([], state)
  | use :: uses =>
    let (answer, next) := act state use
    let (answers, last) := play act next uses
    (answer :: answers, last)

def play? (act? : State → Use → Option (Answer × State)) (state : State) :
    List Use → Option (List Answer × State)
  | [] => some ([], state)
  | use :: uses => do
    let (answer, next) ← act? state use
    let (answers, last) ← play? act? next uses
    return (answer :: answers, last)

end

/-! Loops -/

section
variable {memory source target buffer : Bytes} {position : Nat}

theorem store?_of_lt (inside : position < memory.length) (byte : UInt8) :
    store? memory position byte = some (memory.set position byte) := by
  rw [store?, if_pos inside]

/-- Behind a front of that length the byte at a position is the next one. -/
theorem set_behind {front : Bytes} (length : front.length = position)
    (inside : position < target.length) (byte : UInt8) :
    (front ++ target.drop position).set position byte =
      front ++ byte :: target.drop (position + 1) := by
  rw [List.set_append_right _ _ (Nat.le_of_eq length), length, Nat.sub_self,
    List.drop_eq_getElem_cons inside, List.set_cons_zero]

theorem copy?_of_le {count : Nat} (there : count ≤ source.length)
    (inside : count ≤ target.length) :
    copy? source target count = some (source.take count ++ target.drop count) := by
  induction count with
  | zero => rfl
  | succ count ih =>
    have front : (source.take count).length = count := List.length_take_of_le (by omega)
    have room : count < (source.take count ++ target.drop count).length := by
      rw [List.length_append, List.length_drop, front]
      omega
    simp only [copy?, ih (by omega) (by omega), Option.bind_eq_bind, Option.bind_some,
      List.getElem?_eq_getElem there, store?_of_lt room, set_behind front inside]
    rw [List.take_succ_eq_append_getElem there, List.append_assoc, List.singleton_append]

theorem readFrom?_of_le {more : Nat} (output : Bytes) (inside : position + more ≤ memory.length) :
    readFrom? memory output position more =
      some (output ++ ((memory.drop position).take more).takeWhile (· ≠ 0)) := by
  induction more generalizing position output with
  | zero => simp [readFrom?]
  | succ more ih =>
    have here : position < memory.length := by omega
    simp only [readFrom?, List.getElem?_eq_getElem here, Option.bind_eq_bind, Option.bind_some]
    rw [List.drop_eq_getElem_cons here, List.take_succ_cons]
    split
    · rename_i zero
      simp [zero]
    · rename_i more
      rw [ih _ (by omega)]
      simp [more]

theorem copyFrom?_of_le {more : Nat} (inside : position + more ≤ memory.length)
    (room : position + more ≤ buffer.length) :
    let text := ((memory.drop position).take more).takeWhile (· ≠ 0)
    copyFrom? memory buffer position more =
      some (position + text.length,
        buffer.take position ++ text ++ buffer.drop (position + text.length)) := by
  induction more generalizing position buffer with
  | zero => simp [copyFrom?]
  | succ more ih =>
    have here : position < memory.length := by omega
    have free : position < buffer.length := by omega
    simp only [copyFrom?, List.getElem?_eq_getElem here, Option.bind_eq_bind, Option.bind_some]
    rw [List.drop_eq_getElem_cons here, List.take_succ_cons]
    split
    · rename_i zero
      simp [zero]
    · rename_i some
      have inside' : position + 1 + more ≤ memory.length := by omega
      have room' : position + 1 + more ≤ (buffer.set position memory[position]).length := by
        rw [List.length_set]
        omega
      have later := ih inside' room'
      have front : (buffer.set position memory[position]).take (position + 1) =
          buffer.take position ++ [memory[position]] := by
        rw [List.take_succ_eq_append_getElem (by rw [List.length_set]; exact free),
          List.take_set_of_le (Nat.le_refl _), List.getElem_set_self]
      rw [store?_of_lt free, Option.bind_some, later, front]
      simp only [ne_eq, some, not_false_eq_true, decide_true, List.takeWhile_cons_of_pos,
        List.length_cons, List.append_assoc, List.cons_append, List.nil_append]
      rw [List.drop_set_of_lt (by omega)]
      simp only [Nat.add_assoc, Nat.add_comm 1]

end

/-! A region and its memory -/

section
variable (region : Region) (bytes : Bytes)

/-- No byte was ever written behind the end of a region. -/
def Fits (region : Region) : Prop := region.cells.length ≤ region.size

variable {region}

theorem length_raw (fits : region.Fits) : region.raw.length = region.size := by
  rw [raw, List.length_append, List.length_replicate]
  exact Nat.add_sub_cancel' fits

theorem takeWhile_append_zeros (front : Bytes) (count : Nat) :
    (front ++ List.replicate count 0).takeWhile (· ≠ 0) = front.takeWhile (· ≠ 0) := by
  cases count with
  | zero => rw [List.replicate_zero, List.append_nil]
  | succ count => exact takeWhile_ended front _

theorem read_eq_raw (fits : region.Fits) : region.read = region.raw.takeWhile (· ≠ 0) := by
  have short : (region.cells.takeWhile (· ≠ 0)).length ≤ region.size :=
    Nat.le_trans (List.takeWhile_prefix _).length_le fits
  rw [raw, takeWhile_append_zeros, read, List.take_of_length_le short]

theorem length_read_le (region : Region) : region.read.length ≤ region.size :=
  List.length_take_le _ _

theorem room_lt (room : 0 < region.size) : region.room bytes < region.size := by
  rw [Region.room]
  omega

theorem fits_write (fits : region.Fits) (room : 0 < region.size) : (region.write bytes).Fits := by
  have inside := room_lt bytes room
  rw [Fits] at fits
  rw [Fits, size_write, write, if_neg (Nat.ne_of_gt room)]
  simp only [List.length_append, List.length_take, List.length_cons, List.length_drop]
  omega

/-- A write changes the bytes up to the zero byte that it puts behind the text, and no others. -/
theorem raw_write (fits : region.Fits) (room : 0 < region.size) :
    (region.write bytes).raw =
      bytes.take (region.room bytes) ++ 0 :: region.raw.drop (region.room bytes + 1) := by
  have inside := room_lt bytes room
  have within : region.room bytes ≤ bytes.length := Nat.min_le_left _ _
  rw [Fits] at fits
  rw [raw, size_write, write, if_neg (Nat.ne_of_gt room)]
  simp only [raw, List.append_assoc, List.cons_append, List.drop_append, List.drop_replicate,
    List.length_append, List.length_take, List.length_cons, List.length_drop]
  congr 4
  omega

/-- The bytes behind that zero byte stay. -/
theorem getElem?_raw_write (fits : region.Fits) (room : 0 < region.size) {position : Nat}
    (behind : region.room bytes < position) :
    (region.write bytes).raw[position]? = region.raw[position]? := by
  have front : (bytes.take (region.room bytes)).length = region.room bytes :=
    List.length_take_of_le (Nat.min_le_left _ _)
  obtain ⟨more, rfl⟩ := Nat.exists_eq_add_of_lt behind
  rw [raw_write bytes fits room, List.getElem?_append_right (by omega), front,
    show region.room bytes + more + 1 - region.room bytes = more + 1 by omega,
    List.getElem?_cons_succ, List.getElem?_drop]
  congr 1
  omega

theorem raw_clear (region : Region) : region.clear.raw = List.replicate region.size 0 := rfl

end

/-! One use -/

/-- The memory holds the bytes of the region, and the region the text. -/
structure Holds (size : Nat) (memory : Bytes) (region : Region) (text : Bytes) : Prop where
  size : region.size = size
  fits : region.Fits
  memory : memory = region.raw
  text : region.read = text

theorem holds_fresh (size : Nat) : Holds size (List.replicate size 0) { size } [] :=
  ⟨rfl, Nat.zero_le size, rfl, List.take_nil⟩

section
variable {size : Nat} {memory text : Bytes} {region : Region}

theorem Holds.length (holds : Holds size memory region text) : memory.length = size := by
  rw [holds.memory, length_raw holds.fits, holds.size]

theorem Holds.write (holds : Holds size memory region text) (room : 0 < size) (bytes : Bytes) :
    writeAt? size memory bytes = some (region.room bytes, (region.write bytes).raw) ∧
      Holds size (region.write bytes).raw (region.write bytes)
        ((bytes.take (min bytes.length (size - 1))).takeWhile (· ≠ 0)) := by
  have length := holds.length
  obtain ⟨rfl, fits, rfl, -⟩ := holds
  have inside := room_lt bytes room
  have within : region.room bytes ≤ bytes.length := Nat.min_le_left _ _
  have front : (bytes.take (region.room bytes)).length = region.room bytes :=
    List.length_take_of_le within
  have room' : region.room bytes ≤ region.raw.length := by omega
  have copied := copy?_of_le within room'
  have there : region.room bytes < (bytes.take (region.room bytes) ++
      region.raw.drop (region.room bytes)).length := by
    rw [List.length_append, List.length_drop, front]
    omega
  constructor
  · rw [writeAt?, if_neg (Nat.ne_of_gt room), ← Region.room]
    simp only [copied, Option.bind_eq_bind, Option.bind_some, store?_of_lt there,
      set_behind front (length ▸ inside), raw_write bytes fits room]
    rfl
  · refine ⟨size_write region bytes, fits_write bytes fits room, rfl, ?_⟩
    rw [read_write region bytes room, Nat.min_comm, ← List.take_eq_take_min]

theorem Holds.read (holds : Holds size memory region text) :
    readFrom? memory [] 0 size = some text := by
  have length := holds.length
  obtain ⟨rfl, fits, rfl, rfl⟩ := holds
  rw [readFrom?_of_le [] (by omega), List.drop_zero, List.take_of_length_le (by omega),
    read_eq_raw fits]
  rfl

theorem Holds.copy (holds : Holds size memory region text) (buffer : Bytes) :
    copyFrom? memory buffer 0 (min buffer.length size) = some (region.copyInto buffer) ∧
      region.copyInto buffer = (min buffer.length text.length,
        text.take (min buffer.length text.length) ++
          buffer.drop (min buffer.length text.length)) := by
  have length := holds.length
  obtain ⟨rfl, fits, rfl, rfl⟩ := holds
  have short := length_read_le region
  -- Of the two limits of a copy, that of the region is never the one that counts.
  have taken : (region.raw.take (min buffer.length region.size)).takeWhile (· ≠ 0) =
      region.readUpTo buffer.length := by
    rw [← List.take_takeWhile, ← read_eq_raw fits, readUpTo, List.take_eq_take_iff]
    omega
  constructor
  · rw [copyFrom?_of_le (by omega) (by omega), List.drop_zero, taken, copyInto]
    simp
  · have count : (region.readUpTo buffer.length).length = min buffer.length region.read.length :=
      List.length_take
    have text : region.readUpTo buffer.length =
        region.read.take (min buffer.length region.read.length) := List.take_eq_take_min
    rw [copyInto, count, text]

theorem Holds.clear (holds : Holds size memory region text) :
    copy? (List.replicate size 0) memory size = some region.clear.raw ∧
      Holds size region.clear.raw region.clear [] := by
  have length := holds.length
  constructor
  · have zeros : (List.replicate size (0 : UInt8)).length = size := List.length_replicate
    rw [copy?_of_le (by omega) (by omega), List.take_of_length_le (by omega),
      List.drop_of_length_le (by omega), List.append_nil, raw_clear, holds.size]
  · exact ⟨holds.size, Nat.zero_le _, rfl, read_clear region⟩

/-- A use gives the same in all three ways, and they stay in agreement. -/
theorem Holds.act (holds : Holds size memory region text) (room : 0 < size) (use : Use) :
    (use.tell size text).1 = (use.act region).1 ∧
      use.walk? size memory = some ((use.act region).1, (use.act region).2.raw) ∧
      Holds size (use.act region).2.raw (use.act region).2 (use.tell size text).2 := by
  cases use with
  | write bytes =>
    obtain ⟨written, later⟩ := holds.write room bytes
    refine ⟨?_, ?_, later⟩
    · simp only [Use.tell, Use.act, Region.room, holds.size]
    · rw [Use.walk?, written]
      rfl
  | read output =>
    refine ⟨?_, ?_, holds.memory ▸ holds⟩
    · simp only [Use.tell, Use.act, holds.text]
    · rw [Use.walk?, List.take_zero, holds.read]
      simp only [Use.act, holds.text, holds.memory, Option.map_some]
  | copy buffer =>
    obtain ⟨filled, same⟩ := holds.copy buffer
    refine ⟨?_, ?_, holds.memory ▸ holds⟩
    · simp only [Use.tell, Use.act, same]
    · rw [Use.walk?, filled]
      simp only [Use.act, holds.memory, Option.map_some]
  | clear =>
    obtain ⟨zeros, later⟩ := holds.clear
    refine ⟨rfl, ?_, later⟩
    rw [Use.walk?, zeros]
    rfl

/-! Any use -/

theorem Holds.play (holds : Holds size memory region text) (room : 0 < size) (uses : List Use) :
    (play (Use.tell size) text uses).1 = (play Use.act region uses).1 ∧
      play? (Use.walk? size) memory uses =
        some ((play Use.act region uses).1, (play Use.act region uses).2.raw) ∧
      Holds size (play Use.act region uses).2.raw (play Use.act region uses).2
        (play (Use.tell size) text uses).2 := by
  induction uses generalizing memory region text with
  | nil => exact ⟨rfl, by rw [play?, holds.memory]; rfl, holds.memory ▸ holds⟩
  | cons use uses ih =>
    obtain ⟨answer, reached, later⟩ := holds.act room use
    obtain ⟨answers, goesOn, last⟩ := ih later
    refine ⟨?_, ?_, last⟩
    · simp only [Region.play, answer, answers]
    · simp only [play?, reached, Option.bind_eq_bind, Option.bind_some, goesOn]
      rfl

end

/-- In whatever order a region is written, read, copied from and cleared, no access leaves the
region, the text that is written or the buffer, and all answers are those of a cell that holds one
text, which is empty in the beginning. A write leaves the bytes behind its zero byte as they are. -/
theorem region_holds_one_text {size : Nat} (room : 0 < size) (uses : List Use) :
    let region := (play Use.act { size } uses).2
    let answers := (play Use.act { size } uses).1
    play? (Use.walk? size) (List.replicate size 0) uses = some (answers, region.raw) ∧
    region.raw.length = size ∧
    play (Use.tell size) [] uses = (answers, region.read) ∧
    ∀ (bytes : Bytes) (position : Nat), min bytes.length (size - 1) < position →
      (region.write bytes).raw[position]? = region.raw[position]? := by
  intro region answers
  obtain ⟨told, reached, holds⟩ := (holds_fresh size).play room uses
  refine ⟨reached, holds.length, Prod.ext told holds.text.symm, ?_⟩
  intro bytes position behind
  apply getElem?_raw_write bytes holds.fits
  · rw [holds.size]
    exact room
  · rw [Region.room, holds.size]
    exact behind

/-- A shorter text over a longer one, and a text with a zero byte that has too little room. -/
theorem region_of_four_bytes :
    play? (Use.walk? 4) [0, 0, 0, 0]
        [.write [1, 2, 3], .write [7], .read [9], .write [5, 0, 6, 6], .copy [8, 8], .clear,
          .read []] =
      some ([.written 3, .written 1, .output [7], .written 3, .copied 1 [5, 8], .cleared,
        .output []], [0, 0, 0, 0]) := by
  have room : 0 < 4 := by decide
  have played := (region_holds_one_text room
    [.write [1, 2, 3], .write [7], .read [9], .write [5, 0, 6, 6], .copy [8, 8], .clear,
      .read []]).1
  exact played.trans (by decide)

end Region

end Playback
