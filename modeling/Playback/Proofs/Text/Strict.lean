import Playback.Proofs.Text.Utf8

set_option autoImplicit false

namespace Playback.Utf8

theorem encodeChar_eq (char : Char) : encodeChar char = String.utf8EncodeChar char := by
  have valid := code_valid char
  have same : char.val.toNat = char.toNat := rfl
  simp only [encodeChar, String.utf8EncodeChar, same, Nat.add_comm 0xC0, Nat.add_comm 0xE0,
    Nat.add_comm 0xF0, Nat.add_comm 0x80]
  split
  case isTrue one => rw [if_pos (show char.toNat ≤ 127 by omega)]
  case isFalse _ =>
    rw [if_neg (show ¬ char.toNat ≤ 127 by omega)]
    split
    case isTrue two =>
      have small : char.toNat / 64 % 32 = char.toNat / 64 := Nat.mod_eq_of_lt (by omega)
      rw [if_pos (show char.toNat ≤ 2047 by omega), small]
    case isFalse _ =>
      rw [if_neg (show ¬ char.toNat ≤ 2047 by omega)]
      split
      case isTrue three =>
        have small : char.toNat / 4096 % 16 = char.toNat / 4096 := Nat.mod_eq_of_lt (by omega)
        rw [if_pos (show char.toNat ≤ 65535 by omega), small]
      case isFalse _ =>
        have small : char.toNat / 262144 % 8 = char.toNat / 262144 := Nat.mod_eq_of_lt (by omega)
        rw [if_neg (show ¬ char.toNat ≤ 65535 by omega), small]

/-- The bytes are well-formed UTF-8. -/
def Valid (bytes : Bytes) : Prop := bytes.toByteArray.IsValidUTF8

theorem valid_iff (bytes : Bytes) : Valid bytes ↔ ∃ text, encode text = bytes := by
  have written : ∀ text : List Char,
      text.utf8Encode = (text.flatMap encodeChar).toByteArray := by
    intro text
    simp only [List.utf8Encode, funext encodeChar_eq]
  constructor
  · rintro ⟨text, same⟩
    refine ⟨String.ofList text, ?_⟩
    rw [written] at same
    have lists := congrArg (fun array => array.data.toList) same
    simpa [encode] using lists.symm
  · rintro ⟨text, rfl⟩
    exact ⟨text.toList, by rw [written, encode]⟩

theorem toNat_of_continues {byte : UInt8} (continued : continues byte = true) :
    0x80 ≤ byte.toNat ∧ byte.toNat ≤ 0xBF := by
  simpa [continues, UInt8.le_iff_toNat_le] using continued

/-- What a second byte is narrowed to. -/
theorem toNat_of_follows {lead byte : UInt8} (follow : follows lead byte = true) :
    (0x80 ≤ byte.toNat ∧ byte.toNat ≤ 0xBF) ∧ (lead.toNat = 0xE0 → 0xA0 ≤ byte.toNat) ∧
      (lead.toNat = 0xED → byte.toNat ≤ 0x9F) ∧ (lead.toNat = 0xF0 → 0x90 ≤ byte.toNat) ∧
      (lead.toNat = 0xF4 → byte.toNat ≤ 0x8F) := by
  have apart : ∀ {value : UInt8}, ¬ lead = value → lead.toNat ≠ value.toNat :=
    fun different same => different (UInt8.toNat_inj.mp same)
  unfold follows at follow
  split at follow
  case isTrue same =>
    subst same
    simp [UInt8.le_iff_toNat_le] at follow ⊢
    omega
  case isFalse first =>
    have first := apart first
    split at follow
    case isTrue same =>
      subst same
      simp [UInt8.le_iff_toNat_le] at follow ⊢
      omega
    case isFalse second =>
      have second := apart second
      split at follow
      case isTrue same =>
        subst same
        simp [UInt8.le_iff_toNat_le] at follow ⊢
        omega
      case isFalse third =>
        have third := apart third
        split at follow
        case isTrue same =>
          subst same
          simp [UInt8.le_iff_toNat_le] at follow ⊢
          omega
        case isFalse fourth =>
          have fourth := apart fourth
          have within := toNat_of_continues follow
          simp at first second third fourth
          omega

theorem readThird_eq_some {high : Nat} {bytes behind : Bytes} {char : Char}
    (read : readThird high bytes = (some char, behind)) :
    ∃ third, bytes = third :: behind ∧ (0x80 ≤ third.toNat ∧ third.toNat ≤ 0xBF) ∧
      char = Char.ofNat (high * 64 + (third.toNat - 0x80)) := by
  cases bytes with
  | nil => simp [readThird] at read
  | cons third rest =>
    by_cases continued : continues third = true
    · simp only [readThird, if_pos continued, Prod.mk.injEq, Option.some.injEq] at read
      obtain ⟨same, rfl⟩ := read
      exact ⟨third, rfl, toNat_of_continues continued, same.symm⟩
    · simp [readThird, continued] at read

theorem readFourth_eq_some {high : Nat} {bytes behind : Bytes} {char : Char}
    (read : readFourth high bytes = (some char, behind)) :
    ∃ third fourth, bytes = third :: fourth :: behind ∧
      (0x80 ≤ third.toNat ∧ third.toNat ≤ 0xBF) ∧ (0x80 ≤ fourth.toNat ∧ fourth.toNat ≤ 0xBF) ∧
      char = Char.ofNat ((high * 64 + (third.toNat - 0x80)) * 64 + (fourth.toNat - 0x80)) := by
  cases bytes with
  | nil => simp [readFourth] at read
  | cons third rest =>
    by_cases continued : continues third = true
    · simp only [readFourth, if_pos continued] at read
      obtain ⟨fourth, rfl, within, same⟩ := readThird_eq_some read
      exact ⟨third, fourth, rfl, toNat_of_continues continued, within, same⟩
    · simp [readFourth, continued] at read

theorem toNat_ofNat_of_valid {code : Nat}
    (valid : code < 0xD800 ∨ 0xDFFF < code ∧ code < 0x110000) :
    (Char.ofNat code).toNat = code := by
  have inside : code.isValidChar := valid
  rw [Char.ofNat, dif_pos inside]
  rfl

section
variable {lead second third fourth : UInt8}

theorem encodeChar_one (upper : lead.toNat < 0x80) :
    encodeChar (Char.ofNat lead.toNat) = [lead] := by
  have code : (Char.ofNat lead.toNat).toNat = lead.toNat := toNat_ofNat_of_valid (by omega)
  simp only [encodeChar, code, if_pos upper, UInt8.ofNat_toNat]

theorem encodeChar_two (lower : 0xC2 ≤ lead.toNat) (upper : lead.toNat < 0xE0)
    (within : 0x80 ≤ second.toNat ∧ second.toNat ≤ 0xBF) :
    encodeChar (Char.ofNat ((lead.toNat - 0xC0) * 64 + (second.toNat - 0x80))) =
      [lead, second] := by
  generalize same : (lead.toNat - 0xC0) * 64 + (second.toNat - 0x80) = code
  have first : 0xC0 + code / 64 = lead.toNat := by omega
  have last : 0x80 + code % 64 = second.toNat := by omega
  have valid : code < 0xD800 ∨ 0xDFFF < code ∧ code < 0x110000 := by omega
  simp only [encodeChar, toNat_ofNat_of_valid valid, first, last, UInt8.ofNat_toNat]
  rw [if_neg (by omega), if_pos (by omega)]

theorem encodeChar_three (lower : 0xE0 ≤ lead.toNat) (upper : lead.toNat < 0xF0)
    (follow : follows lead second = true) (within : 0x80 ≤ third.toNat ∧ third.toNat ≤ 0xBF) :
    encodeChar (Char.ofNat (((lead.toNat - 0xE0) * 64 + tail second) * 64 +
      (third.toNat - 0x80))) = [lead, second, third] := by
  have narrowed := toNat_of_follows follow
  have unfolded : tail second = second.toNat - 0x80 := rfl
  rw [unfolded]
  generalize same : ((lead.toNat - 0xE0) * 64 + (second.toNat - 0x80)) * 64 +
    (third.toNat - 0x80) = code
  have first : 0xE0 + code / 4096 = lead.toNat := by omega
  have middle : 0x80 + code / 64 % 64 = second.toNat := by omega
  have last : 0x80 + code % 64 = third.toNat := by omega
  have valid : code < 0xD800 ∨ 0xDFFF < code ∧ code < 0x110000 := by omega
  simp only [encodeChar, toNat_ofNat_of_valid valid, first, middle, last,
    UInt8.ofNat_toNat]
  rw [if_neg (show ¬ code < 0x80 by omega), if_neg (show ¬ code < 0x800 by omega),
    if_pos (show code < 0x10000 by omega)]

theorem encodeChar_four (lower : 0xF0 ≤ lead.toNat) (upper : lead.toNat < 0xF5)
    (follow : follows lead second = true) (within : 0x80 ≤ third.toNat ∧ third.toNat ≤ 0xBF)
    (inside : 0x80 ≤ fourth.toNat ∧ fourth.toNat ≤ 0xBF) :
    encodeChar (Char.ofNat ((((lead.toNat - 0xF0) * 64 + tail second) * 64 +
      (third.toNat - 0x80)) * 64 + (fourth.toNat - 0x80))) = [lead, second, third, fourth] := by
  have narrowed := toNat_of_follows follow
  have unfolded : tail second = second.toNat - 0x80 := rfl
  rw [unfolded]
  generalize same : (((lead.toNat - 0xF0) * 64 + (second.toNat - 0x80)) * 64 +
    (third.toNat - 0x80)) * 64 + (fourth.toNat - 0x80) = code
  have first : 0xF0 + code / 262144 = lead.toNat := by omega
  have high : 0x80 + code / 4096 % 64 = second.toNat := by omega
  have low : 0x80 + code / 64 % 64 = third.toNat := by omega
  have last : 0x80 + code % 64 = fourth.toNat := by omega
  have valid : code < 0xD800 ∨ 0xDFFF < code ∧ code < 0x110000 := by omega
  simp only [encodeChar, toNat_ofNat_of_valid valid, first, high, low, last,
    UInt8.ofNat_toNat]
  rw [if_neg (show ¬ code < 0x80 by omega), if_neg (show ¬ code < 0x800 by omega),
    if_neg (show ¬ code < 0x10000 by omega)]

end

/-- A character that is read is written as the bytes that it was read from. -/
theorem readChar_eq_some {lead : UInt8} {rest behind : Bytes} {char : Char}
    (read : readChar lead rest = (some char, behind)) :
    lead :: rest = encodeChar char ++ behind := by
  simp only [readChar, UInt8.lt_iff_toNat_lt, UInt8.reduceToNat] at read
  split at read
  case isTrue upper =>
    simp only [Prod.mk.injEq, Option.some.injEq] at read
    obtain ⟨rfl, rfl⟩ := read
    rw [encodeChar_one upper]
    rfl
  case isFalse _ =>
    split at read
    case isTrue _ => simp at read
    case isFalse apart =>
      split at read
      case isTrue upper =>
        obtain ⟨second, rfl, within, same⟩ := readThird_eq_some read
        rw [same, encodeChar_two (Nat.le_of_not_lt apart) upper within]
        rfl
      case isFalse longer =>
        split at read
        case isFalse _ => simp at read
        case isTrue below =>
          cases rest with
          | nil => simp at read
          | cons second rest =>
            dsimp only at read
            split at read
            case isFalse _ => simp at read
            case isTrue follow =>
              split at read
              case isTrue upper =>
                obtain ⟨third, rfl, within, same⟩ := readThird_eq_some read
                rw [same, encodeChar_three (Nat.le_of_not_lt longer) upper follow within]
                rfl
              case isFalse long =>
                obtain ⟨third, fourth, rfl, within, inside, same⟩ := readFourth_eq_some read
                rw [same, encodeChar_four (Nat.le_of_not_lt long) below follow within inside]
                rfl

/-- Bytes without a defect are the characters that are read from them. -/
theorem eq_flatMap_of_chars {bytes : Bytes} {text : List Char}
    (read : chars bytes = text.map some) : bytes = text.flatMap encodeChar := by
  induction text generalizing bytes with
  | nil =>
    cases bytes with
    | nil => rfl
    | cons lead rest => simp [chars_cons] at read
  | cons char text ih =>
    cases bytes with
    | nil => simp at read
    | cons lead rest =>
      rw [chars_cons, List.map_cons, List.cons.injEq] at read
      obtain ⟨first, others⟩ := read
      have front : lead :: rest = encodeChar char ++ (readChar lead rest).2 :=
        readChar_eq_some (Prod.ext first rfl)
      rw [front, ih others, List.flatMap_cons]

theorem decode?_eq_some_iff (bytes : Bytes) (text : String) :
    decode? bytes = some text ↔ encode text = bytes := by
  constructor
  · intro decoded
    simp only [decode?, Option.ite_none_right_eq_some, Option.some.injEq] at decoded
    obtain ⟨clean, rfl⟩ := decoded
    have read : chars bytes = ((chars bytes).filterMap id).map some := by
      generalize chars bytes = found at clean
      induction found with
      | nil => rfl
      | cons first found ih =>
        simp only [List.all_cons, Bool.and_eq_true, Option.isSome_iff_exists] at clean
        obtain ⟨⟨char, rfl⟩, others⟩ := clean
        simpa using ih others
    rw [encode, String.toList_ofList]
    exact (eq_flatMap_of_chars read).symm
  · rintro rfl
    exact decode?_encode text

theorem decode?_eq_none_iff (bytes : Bytes) : decode? bytes = none ↔ ¬ Valid bytes := by
  rw [valid_iff, not_exists, Option.eq_none_iff_forall_ne_some]
  simp only [ne_eq, decode?_eq_some_iff]

end Playback.Utf8
