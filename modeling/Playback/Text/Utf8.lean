import Playback.Bytes

set_option autoImplicit false

/- Text as UTF-8. A byte string is read from the left into characters; where no character
starts, the longest ill-formed beginning of one is set aside as a defect and reading goes on
behind it. Strict reading refuses defects and lossy reading shows each as U+FFFD. -/
namespace Playback.Utf8

def encodeChar (char : Char) : Bytes :=
  let code := char.toNat
  if code < 0x80 then [UInt8.ofNat code]
  else if code < 0x800 then [UInt8.ofNat (0xC0 + code / 64), UInt8.ofNat (0x80 + code % 64)]
  else if code < 0x10000 then
    [UInt8.ofNat (0xE0 + code / 4096), UInt8.ofNat (0x80 + code / 64 % 64),
      UInt8.ofNat (0x80 + code % 64)]
  else
    [UInt8.ofNat (0xF0 + code / 262144), UInt8.ofNat (0x80 + code / 4096 % 64),
      UInt8.ofNat (0x80 + code / 64 % 64), UInt8.ofNat (0x80 + code % 64)]

def encode (text : String) : Bytes := text.toList.flatMap encodeChar

def continues (byte : UInt8) : Bool := 0x80 ≤ byte && byte ≤ 0xBF

/-- The second byte of a longer character is narrowed where the wider range would give an
overlong form, a surrogate or a number above U+10FFFF. -/
def follows (lead byte : UInt8) : Bool :=
  if lead = 0xE0 then 0xA0 ≤ byte && byte ≤ 0xBF
  else if lead = 0xED then 0x80 ≤ byte && byte ≤ 0x9F
  else if lead = 0xF0 then 0x90 ≤ byte && byte ≤ 0xBF
  else if lead = 0xF4 then 0x80 ≤ byte && byte ≤ 0x8F
  else continues byte

/-- The payload bits of a continuation byte. -/
def tail (byte : UInt8) : Nat := byte.toNat - 0x80

/-- Reads two continuation bytes behind a lead byte whose bits are in `high`. -/
def readThird (high : Nat) : Bytes → Option Char × Bytes
  | [] => (none, [])
  | third :: rest =>
    if continues third then (some (Char.ofNat (high * 64 + tail third)), rest)
    else (none, third :: rest)

def readFourth (high : Nat) : Bytes → Option Char × Bytes
  | [] => (none, [])
  | third :: rest =>
    if continues third then readThird (high * 64 + tail third) rest
    else (none, third :: rest)

/-- One character, or one defect, and the bytes behind it. -/
def readChar (lead : UInt8) (rest : Bytes) : Option Char × Bytes :=
  if lead < 0x80 then (some (Char.ofNat lead.toNat), rest)
  else if lead < 0xC2 then (none, rest)
  else if lead < 0xE0 then readThird (lead.toNat - 0xC0) rest
  else if lead < 0xF5 then
    match rest with
    | [] => (none, [])
    | second :: behind =>
      if follows lead second then
        if lead < 0xF0 then readThird ((lead.toNat - 0xE0) * 64 + tail second) behind
        else readFourth ((lead.toNat - 0xF0) * 64 + tail second) behind
      else (none, rest)
  else (none, rest)

theorem length_readThird (high : Nat) (bytes : Bytes) :
    (readThird high bytes).2.length ≤ bytes.length := by
  cases bytes with
  | nil => simp [readThird]
  | cons third rest =>
    simp only [readThird]
    split <;> simp

theorem length_readFourth (high : Nat) (bytes : Bytes) :
    (readFourth high bytes).2.length ≤ bytes.length := by
  cases bytes with
  | nil => simp [readFourth]
  | cons third rest =>
    simp only [readFourth]
    split
    · have := length_readThird (high * 64 + tail third) rest
      simp only [List.length_cons]
      omega
    · simp

theorem length_readChar (lead : UInt8) (rest : Bytes) :
    (readChar lead rest).2.length ≤ rest.length := by
  unfold readChar
  split
  · simp
  split
  · simp
  split
  · exact length_readThird _ rest
  split
  · cases rest with
    | nil => simp
    | cons second behind =>
      dsimp only
      split
      · split
        · have := length_readThird ((lead.toNat - 0xE0) * 64 + tail second) behind
          simp only [List.length_cons]
          omega
        · have := length_readFourth ((lead.toNat - 0xF0) * 64 + tail second) behind
          simp only [List.length_cons]
          omega
      · simp
  · simp

def charsFrom (found : List (Option Char)) : Bytes → List (Option Char)
  | [] => found.reverse
  | lead :: rest => charsFrom ((readChar lead rest).1 :: found) (readChar lead rest).2
termination_by bytes => bytes.length
decreasing_by
  have := length_readChar lead rest
  simp only [List.length_cons]
  omega

/-- The characters of a byte string in order, with `none` for each defect. -/
def chars (bytes : Bytes) : List (Option Char) := charsFrom [] bytes

/-- The text of a byte string that has no defect. -/
def decode? (bytes : Bytes) : Option String :=
  let found := chars bytes
  if found.all Option.isSome then some (String.ofList (found.filterMap id)) else none

/-- The text of a byte string, U+FFFD standing for each defect. -/
def decodeLossy (bytes : Bytes) : String :=
  String.ofList ((chars bytes).map fun found => found.getD '\uFFFD')

/-- The bytes in front of the first defect. -/
def wellFormedPart (bytes : Bytes) : Bytes :=
  (((chars bytes).takeWhile Option.isSome).filterMap id).flatMap encodeChar

theorem charsFrom_eq (found : List (Option Char)) (bytes : Bytes) :
    charsFrom found bytes = found.reverse ++ chars bytes := by
  suffices general : ∀ (size : Nat) (found : List (Option Char)) (bytes : Bytes),
      bytes.length ≤ size → charsFrom found bytes = found.reverse ++ charsFrom [] bytes from
    general bytes.length found bytes (Nat.le_refl _)
  intro size
  induction size with
  | zero =>
    intro found bytes short
    have empty : bytes = [] := List.length_eq_zero_iff.mp (Nat.le_zero.mp short)
    subst empty
    simp [charsFrom]
  | succ size ih =>
    intro found bytes short
    cases bytes with
    | nil => simp [charsFrom]
    | cons lead rest =>
      have shrinks := length_readChar lead rest
      have fits : (readChar lead rest).2.length ≤ size := by
        simp only [List.length_cons] at short
        omega
      rw [charsFrom, charsFrom, ih _ _ fits, ih [(readChar lead rest).1] _ fits]
      simp

@[simp] theorem chars_nil : chars [] = [] := by simp [chars, charsFrom]

theorem chars_cons (lead : UInt8) (rest : Bytes) :
    chars (lead :: rest) = (readChar lead rest).1 :: chars (readChar lead rest).2 := by
  rw [chars, charsFrom, charsFrom_eq]
  simp

end Playback.Utf8
