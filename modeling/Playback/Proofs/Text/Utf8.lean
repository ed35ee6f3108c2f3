import Playback.Text.Utf8

set_option autoImplicit false

namespace Playback.Utf8

theorem toNat_ofNat_of_lt {code : Nat} (small : code < 256) : (UInt8.ofNat code).toNat = code := by
  rw [UInt8.toNat_ofNat', Nat.mod_eq_of_lt small]

theorem continues_of_toNat {byte : UInt8} (lower : 0x80 ≤ byte.toNat) (upper : byte.toNat ≤ 0xBF) :
    continues byte = true := by
  simpa [continues, UInt8.le_iff_toNat_le] using And.intro lower upper

/-- A continuation byte with six payload bits. -/
theorem continues_ofNat {bits : Nat} (small : bits < 64) :
    continues (UInt8.ofNat (0x80 + bits)) = true := by
  have value := toNat_ofNat_of_lt (show 0x80 + bits < 256 by omega)
  exact continues_of_toNat (by omega) (by omega)

theorem tail_ofNat {bits : Nat} (small : bits < 64) : tail (UInt8.ofNat (0x80 + bits)) = bits := by
  have value := toNat_ofNat_of_lt (show 0x80 + bits < 256 by omega)
  unfold tail
  omega

theorem follows_of_toNat {lead byte : UInt8} (lower : 0x80 ≤ byte.toNat) (upper : byte.toNat ≤ 0xBF)
    (overlong : lead.toNat = 0xE0 → 0xA0 ≤ byte.toNat)
    (surrogate : lead.toNat = 0xED → byte.toNat ≤ 0x9F)
    (overlongFourth : lead.toNat = 0xF0 → 0x90 ≤ byte.toNat)
    (beyond : lead.toNat = 0xF4 → byte.toNat ≤ 0x8F) : follows lead byte = true := by
  unfold follows
  split
  · rename_i same
    subst same
    simpa [UInt8.le_iff_toNat_le] using ⟨overlong rfl, upper⟩
  split
  · rename_i same
    subst same
    simpa [UInt8.le_iff_toNat_le] using ⟨lower, surrogate rfl⟩
  split
  · rename_i same
    subst same
    simpa [UInt8.le_iff_toNat_le] using ⟨overlongFourth rfl, upper⟩
  split
  · rename_i same
    subst same
    simpa [UInt8.le_iff_toNat_le] using ⟨lower, beyond rfl⟩
  · exact continues_of_toNat lower upper

theorem readThird_ofNat (high : Nat) {bits : Nat} (small : bits < 64) (rest : Bytes) :
    readThird high (UInt8.ofNat (0x80 + bits) :: rest) =
      (some (Char.ofNat (high * 64 + bits)), rest) := by
  simp only [readThird, continues_ofNat small, tail_ofNat small, ↓reduceIte]

theorem readFourth_ofNat (high : Nat) {first second : Nat} (firstSmall : first < 64)
    (secondSmall : second < 64) (rest : Bytes) :
    readFourth high (UInt8.ofNat (0x80 + first) :: UInt8.ofNat (0x80 + second) :: rest) =
      (some (Char.ofNat ((high * 64 + first) * 64 + second)), rest) := by
  simp only [readFourth, continues_ofNat firstSmall, tail_ofNat firstSmall, ↓reduceIte,
    readThird_ofNat _ secondSmall]

theorem readChar_one {lead : UInt8} (upper : lead.toNat < 0x80) (rest : Bytes) :
    readChar lead rest = (some (Char.ofNat lead.toNat), rest) := by
  have small : lead < 0x80 := UInt8.lt_iff_toNat_lt.mpr upper
  unfold readChar
  rw [if_pos small]

theorem not_lt_of_toNat {byte limit : UInt8} (reaches : limit.toNat ≤ byte.toNat) :
    ¬ byte < limit := by
  rw [UInt8.lt_iff_toNat_lt]
  exact Nat.not_lt_of_le reaches

theorem readChar_two {lead : UInt8} (lower : 0xC2 ≤ lead.toNat) (upper : lead.toNat < 0xE0)
    (rest : Bytes) : readChar lead rest = readThird (lead.toNat - 0xC0) rest := by
  have first : ¬ lead < 0x80 := not_lt_of_toNat (Nat.le_trans (by decide) lower)
  have second : ¬ lead < 0xC2 := not_lt_of_toNat lower
  have third : lead < 0xE0 := UInt8.lt_iff_toNat_lt.mpr upper
  unfold readChar
  rw [if_neg first, if_neg second, if_pos third]

theorem readChar_three {lead second : UInt8} (lower : 0xE0 ≤ lead.toNat) (upper : lead.toNat < 0xF0)
    (follow : follows lead second = true) (rest : Bytes) :
    readChar lead (second :: rest) =
      readThird ((lead.toNat - 0xE0) * 64 + tail second) rest := by
  have first : ¬ lead < 0x80 := not_lt_of_toNat (Nat.le_trans (by decide) lower)
  have apart : ¬ lead < 0xC2 := not_lt_of_toNat (Nat.le_trans (by decide) lower)
  have longer : ¬ lead < 0xE0 := not_lt_of_toNat lower
  have below : lead < 0xF5 := UInt8.lt_iff_toNat_lt.mpr (Nat.lt_trans upper (by decide))
  have short : lead < 0xF0 := UInt8.lt_iff_toNat_lt.mpr upper
  unfold readChar
  rw [if_neg first, if_neg apart, if_neg longer, if_pos below]
  dsimp only
  rw [if_pos follow, if_pos short]

theorem readChar_four {lead second : UInt8} (lower : 0xF0 ≤ lead.toNat) (upper : lead.toNat < 0xF5)
    (follow : follows lead second = true) (rest : Bytes) :
    readChar lead (second :: rest) =
      readFourth ((lead.toNat - 0xF0) * 64 + tail second) rest := by
  have first : ¬ lead < 0x80 := not_lt_of_toNat (Nat.le_trans (by decide) lower)
  have apart : ¬ lead < 0xC2 := not_lt_of_toNat (Nat.le_trans (by decide) lower)
  have longer : ¬ lead < 0xE0 := not_lt_of_toNat (Nat.le_trans (by decide) lower)
  have below : lead < 0xF5 := UInt8.lt_iff_toNat_lt.mpr upper
  have long : ¬ lead < 0xF0 := not_lt_of_toNat lower
  unfold readChar
  rw [if_neg first, if_neg apart, if_neg longer, if_pos below]
  dsimp only
  rw [if_pos follow, if_neg long]

/-- The codes of characters leave out the surrogates and end at U+10FFFF. -/
theorem code_valid (char : Char) :
    char.toNat < 0xD800 ∨ 0xDFFF < char.toNat ∧ char.toNat < 0x110000 :=
  char.valid

theorem chars_two {code : Nat} (lower : 0x80 ≤ code) (upper : code < 0x800) (rest : Bytes) :
    chars (UInt8.ofNat (0xC0 + code / 64) :: UInt8.ofNat (0x80 + code % 64) :: rest) =
      some (Char.ofNat code) :: chars rest := by
  have lead := toNat_ofNat_of_lt (show 0xC0 + code / 64 < 256 by omega)
  have bits : code % 64 < 64 := Nat.mod_lt _ (by omega)
  have joined : (0xC0 + code / 64 - 0xC0) * 64 + code % 64 = code := by omega
  rw [chars_cons, readChar_two (by omega) (by omega), lead, readThird_ofNat _ bits, joined]

theorem chars_three {code : Nat} (lower : 0x800 ≤ code) (upper : code < 0x10000)
    (valid : code < 0xD800 ∨ 0xDFFF < code) (rest : Bytes) :
    chars (UInt8.ofNat (0xE0 + code / 4096) :: UInt8.ofNat (0x80 + code / 64 % 64) ::
      UInt8.ofNat (0x80 + code % 64) :: rest) = some (Char.ofNat code) :: chars rest := by
  have lead := toNat_ofNat_of_lt (show 0xE0 + code / 4096 < 256 by omega)
  have second := toNat_ofNat_of_lt (show 0x80 + code / 64 % 64 < 256 by omega)
  have middle : code / 64 % 64 < 64 := Nat.mod_lt _ (by omega)
  have bits : code % 64 < 64 := Nat.mod_lt _ (by omega)
  have follow : follows (UInt8.ofNat (0xE0 + code / 4096))
      (UInt8.ofNat (0x80 + code / 64 % 64)) = true := by
    apply follows_of_toNat <;> omega
  have joined : ((0xE0 + code / 4096 - 0xE0) * 64 + code / 64 % 64) * 64 + code % 64 = code := by
    omega
  rw [chars_cons, readChar_three (by omega) (by omega) follow, lead, tail_ofNat middle,
    readThird_ofNat _ bits, joined]

theorem chars_four {code : Nat} (lower : 0x10000 ≤ code) (upper : code < 0x110000) (rest : Bytes) :
    chars (UInt8.ofNat (0xF0 + code / 262144) :: UInt8.ofNat (0x80 + code / 4096 % 64) ::
      UInt8.ofNat (0x80 + code / 64 % 64) :: UInt8.ofNat (0x80 + code % 64) :: rest) =
        some (Char.ofNat code) :: chars rest := by
  have lead := toNat_ofNat_of_lt (show 0xF0 + code / 262144 < 256 by omega)
  have second := toNat_ofNat_of_lt (show 0x80 + code / 4096 % 64 < 256 by omega)
  have high : code / 4096 % 64 < 64 := Nat.mod_lt _ (by omega)
  have middle : code / 64 % 64 < 64 := Nat.mod_lt _ (by omega)
  have bits : code % 64 < 64 := Nat.mod_lt _ (by omega)
  have follow : follows (UInt8.ofNat (0xF0 + code / 262144))
      (UInt8.ofNat (0x80 + code / 4096 % 64)) = true := by
    apply follows_of_toNat <;> omega
  have joined : (((0xF0 + code / 262144 - 0xF0) * 64 + code / 4096 % 64) * 64 +
      code / 64 % 64) * 64 + code % 64 = code := by
    omega
  rw [chars_cons, readChar_four (by omega) (by omega) follow, lead, tail_ofNat high,
    readFourth_ofNat _ middle bits, joined]

/-- A written character is read back, whatever follows it. -/
theorem chars_encodeChar (char : Char) (rest : Bytes) :
    chars (encodeChar char ++ rest) = some char :: chars rest := by
  have valid := code_valid char
  have same : Char.ofNat char.toNat = char := Char.ofNat_toNat char
  unfold encodeChar
  dsimp only
  split
  · rename_i one
    have lead := toNat_ofNat_of_lt (show char.toNat < 256 by omega)
    rw [List.singleton_append, chars_cons, readChar_one (by omega), lead, same]
  split
  · rename_i above two
    simpa [same] using chars_two (Nat.le_of_not_lt above) two rest
  split
  · rename_i above three
    simpa [same] using chars_three (Nat.le_of_not_lt above) three (by omega) rest
  · rename_i above
    simpa [same] using chars_four (Nat.le_of_not_lt above) (by omega) rest

theorem chars_flatMap (text : List Char) (rest : Bytes) :
    chars (text.flatMap encodeChar ++ rest) = text.map some ++ chars rest := by
  induction text with
  | nil => rfl
  | cons char text ih =>
    rw [List.flatMap_cons, List.append_assoc, chars_encodeChar, ih, List.map_cons,
      List.cons_append]

theorem chars_encode (text : String) : chars (encode text) = text.toList.map some := by
  have whole := chars_flatMap text.toList []
  rwa [List.append_nil, chars_nil, List.append_nil] at whole

theorem decode?_flatMap (text : List Char) :
    decode? (text.flatMap encodeChar) = some (String.ofList text) := by
  have whole := chars_flatMap text []
  rw [List.append_nil, chars_nil, List.append_nil] at whole
  simp [decode?, whole]

/-- Strict reading undoes writing. -/
theorem decode?_encode (text : String) : decode? (encode text) = some text := by
  rw [encode, decode?_flatMap, String.ofList_toList]

/-- Lossy reading undoes writing. -/
theorem decodeLossy_encode (text : String) : decodeLossy (encode text) = text := by
  rw [decodeLossy, chars_encode, List.map_map]
  exact (congrArg String.ofList (List.map_id text.toList)).trans (String.ofList_toList)

theorem zero_ne_ofNat {code : Nat} (positive : 0 < code) (small : code < 256) :
    (0 : UInt8) ≠ UInt8.ofNat code := by
  intro same
  have value := toNat_ofNat_of_lt small
  rw [← same] at value
  exact Nat.ne_of_lt positive value

theorem zero_mem_encodeChar (char : Char) : 0 ∈ encodeChar char ↔ char = '\x00' := by
  have valid := code_valid char
  constructor
  · intro member
    by_cases zero : char.toNat = 0
    · exact Char.toNat_inj.mp zero
    · exfalso
      unfold encodeChar at member
      dsimp only at member
      split at member
      · exact zero_ne_ofNat (by omega) (by omega) (List.mem_singleton.mp member)
      split at member
      · simp only [List.mem_cons, List.not_mem_nil, or_false] at member
        rcases member with same | same <;> exact zero_ne_ofNat (by omega) (by omega) same
      split at member
      · simp only [List.mem_cons, List.not_mem_nil, or_false] at member
        rcases member with same | same | same <;>
          exact zero_ne_ofNat (by omega) (by omega) same
      · simp only [List.mem_cons, List.not_mem_nil, or_false] at member
        rcases member with same | same | same | same <;>
          exact zero_ne_ofNat (by omega) (by omega) same
  · rintro rfl
    decide

/-- A text is written with a zero byte exactly if it has a zero character. -/
theorem zero_mem_encode (text : String) : 0 ∈ encode text ↔ '\x00' ∈ text.toList := by
  simp only [encode, List.mem_flatMap, zero_mem_encodeChar, exists_eq_right]

end Playback.Utf8
