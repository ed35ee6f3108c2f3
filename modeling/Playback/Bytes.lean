set_option autoImplicit false

/- Byte strings, and fixed-width words written into them least significant byte first.
Reading undoes writing for every word, and writing undoes reading for every string of the
right length. -/
namespace Playback

abbrev Bytes := List UInt8

/-- The `width` low bytes of a number, least significant byte first. -/
def littleEndian : Nat → Nat → Bytes
  | 0, _ => []
  | width + 1, value => UInt8.ofNat value :: littleEndian width (value / 256)

/-- The number whose bytes these are, least significant byte first. -/
def ofLittleEndian : Bytes → Nat
  | [] => 0
  | byte :: rest => byte.toNat + 256 * ofLittleEndian rest

@[simp] theorem length_littleEndian (width value : Nat) :
    (littleEndian width value).length = width := by
  induction width generalizing value with
  | zero => rfl
  | succ width ih => simp [littleEndian, ih]

/-- How many numbers fit in `width` bytes. -/
def wordRange : Nat → Nat
  | 0 => 1
  | width + 1 => 256 * wordRange width

theorem ofLittleEndian_littleEndian (width value : Nat) :
    ofLittleEndian (littleEndian width value) = value % wordRange width := by
  induction width generalizing value with
  | zero => simp [littleEndian, ofLittleEndian, wordRange, Nat.mod_one]
  | succ width ih =>
    have split :
        value % (256 * wordRange width) = value % 256 + 256 * (value / 256 % wordRange width) :=
      Nat.mod_mul
    have low : (UInt8.ofNat value).toNat = value % 256 := rfl
    rw [wordRange, split, littleEndian, ofLittleEndian, ih, low]

theorem ofLittleEndian_littleEndian_of_lt {width value : Nat} (small : value < wordRange width) :
    ofLittleEndian (littleEndian width value) = value := by
  rw [ofLittleEndian_littleEndian, Nat.mod_eq_of_lt small]

theorem ofLittleEndian_lt (bytes : Bytes) : ofLittleEndian bytes < wordRange bytes.length := by
  induction bytes with
  | nil => exact Nat.zero_lt_one
  | cons byte rest ih =>
    have small := byte.toNat_lt
    simp only [ofLittleEndian, List.length_cons, wordRange]
    omega

theorem littleEndian_ofLittleEndian (bytes : Bytes) :
    littleEndian bytes.length (ofLittleEndian bytes) = bytes := by
  induction bytes with
  | nil => rfl
  | cons byte rest ih =>
    have small := byte.toNat_lt
    have quotient : (byte.toNat + 256 * ofLittleEndian rest) / 256 = ofLittleEndian rest := by
      omega
    have low : UInt8.ofNat (byte.toNat + 256 * ofLittleEndian rest) = byte := by
      apply UInt8.toNat_inj.mp
      simp only [UInt8.toNat_ofNat']
      omega
    simp only [List.length_cons, littleEndian, ofLittleEndian, quotient, low, ih]

def word16 (word : UInt16) : Bytes := littleEndian 2 word.toNat

def word32 (word : UInt32) : Bytes := littleEndian 4 word.toNat

def word64 (word : UInt64) : Bytes := littleEndian 8 word.toNat

def ofWord16 (bytes : Bytes) : UInt16 := UInt16.ofNat (ofLittleEndian bytes)

def ofWord32 (bytes : Bytes) : UInt32 := UInt32.ofNat (ofLittleEndian bytes)

def ofWord64 (bytes : Bytes) : UInt64 := UInt64.ofNat (ofLittleEndian bytes)

@[simp] theorem length_word16 (word : UInt16) : (word16 word).length = 2 :=
  length_littleEndian 2 word.toNat

@[simp] theorem length_word32 (word : UInt32) : (word32 word).length = 4 :=
  length_littleEndian 4 word.toNat

@[simp] theorem length_word64 (word : UInt64) : (word64 word).length = 8 :=
  length_littleEndian 8 word.toNat

@[simp] theorem ofWord16_word16 (word : UInt16) : ofWord16 (word16 word) = word := by
  have small : word.toNat < wordRange 2 := word.toNat_lt
  rw [ofWord16, word16, ofLittleEndian_littleEndian_of_lt small, UInt16.ofNat_toNat]

@[simp] theorem ofWord32_word32 (word : UInt32) : ofWord32 (word32 word) = word := by
  have small : word.toNat < wordRange 4 := word.toNat_lt
  rw [ofWord32, word32, ofLittleEndian_littleEndian_of_lt small, UInt32.ofNat_toNat]

@[simp] theorem ofWord64_word64 (word : UInt64) : ofWord64 (word64 word) = word := by
  have small : word.toNat < wordRange 8 := word.toNat_lt
  rw [ofWord64, word64, ofLittleEndian_littleEndian_of_lt small, UInt64.ofNat_toNat]

theorem word16_ofWord16 {bytes : Bytes} (exact : bytes.length = 2) :
    word16 (ofWord16 bytes) = bytes := by
  have small := ofLittleEndian_lt bytes
  have back := littleEndian_ofLittleEndian bytes
  rw [exact] at small back
  rw [ofWord16, word16, UInt16.toNat_ofNat_of_lt' small, back]

theorem word32_ofWord32 {bytes : Bytes} (exact : bytes.length = 4) :
    word32 (ofWord32 bytes) = bytes := by
  have small := ofLittleEndian_lt bytes
  have back := littleEndian_ofLittleEndian bytes
  rw [exact] at small back
  rw [ofWord32, word32, UInt32.toNat_ofNat_of_lt' small, back]

theorem word64_ofWord64 {bytes : Bytes} (exact : bytes.length = 8) :
    word64 (ofWord64 bytes) = bytes := by
  have small := ofLittleEndian_lt bytes
  have back := littleEndian_ofLittleEndian bytes
  rw [exact] at small back
  rw [ofWord64, word64, UInt64.toNat_ofNat_of_lt' small, back]

end Playback
