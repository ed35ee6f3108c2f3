import Playback.Proofs.Text.Strict
import Mathlib.Data.List.TakeWhile

set_option autoImplicit false

namespace Playback

namespace Utf8

/-- The longest beginning of a text that has whole characters and no more than so many bytes. -/
structure Front (limit : Nat) (text front : String) : Prop where
  begins : front.toList <+: text.toList
  fits : (encode front).length ≤ limit
  longest : ∀ other : String, other.toList <+: text.toList → (encode other).length ≤ limit →
    other.toList <+: front.toList

/-- The text in front of its first zero character. -/
def upToZero (text : String) : String := String.ofList (text.toList.takeWhile (· ≠ '\x00'))

/-! How long texts are -/

theorem length_encodeChar_le (char : Char) : (encodeChar char).length ≤ 4 := by
  unfold encodeChar
  dsimp only
  split
  · simp
  split
  · simp
  split <;> simp

theorem length_encode_le (text : String) : (encode text).length ≤ 4 * text.length := by
  rw [encode, ← String.length_toList]
  induction text.toList with
  | nil => exact Nat.le_refl 0
  | cons char rest ih =>
    have first := length_encodeChar_le char
    rw [List.flatMap_cons, List.length_append, List.length_cons]
    omega

/-! What there is of whole characters -/

/-- Characters that are read at the beginning of a byte string stand there as they are written. -/
theorem prefix_of_chars {bytes : Bytes} {text : List Char} (read : text.map some <+: chars bytes) :
    text.flatMap encodeChar <+: bytes := by
  induction text generalizing bytes with
  | nil => exact List.nil_prefix
  | cons char text ih =>
    cases bytes with
    | nil => simp at read
    | cons lead rest =>
      rw [chars_cons, List.map_cons, List.cons_prefix_cons] at read
      obtain ⟨first, others⟩ := read
      have front : lead :: rest = encodeChar char ++ (readChar lead rest).2 :=
        readChar_eq_some (Prod.ext first.symm rfl)
      rw [front, List.flatMap_cons, List.prefix_append_right_inj]
      exact ih others

theorem chars_begin {bytes : Bytes} {text : List Char}
    (begins : text.flatMap encodeChar <+: bytes) : text.map some <+: chars bytes := by
  obtain ⟨rest, rfl⟩ := begins
  rw [chars_flatMap]
  exact List.prefix_append _ _

theorem map_some_prefix_iff {found : List (Option Char)} {text : List Char} :
    text.map some <+: found ↔ text <+: (found.takeWhile Option.isSome).filterMap id := by
  induction text generalizing found with
  | nil => simp
  | cons char text ih =>
    cases found with
    | nil => simp
    | cons first found =>
      cases first with
      | none => simp
      | some other => simp [List.cons_prefix_cons, ih]

/-- A text has its characters at the beginning of a byte string if they are the beginning of what is
whole in it. -/
theorem prefix_iff {bytes : Bytes} {text : List Char} :
    text.flatMap encodeChar <+: bytes ↔
      text <+: ((chars bytes).takeWhile Option.isSome).filterMap id := by
  rw [← map_some_prefix_iff]
  exact ⟨chars_begin, prefix_of_chars⟩

theorem encode_prefix_iff (front text : String) :
    encode front <+: encode text ↔ front.toList <+: text.toList := by
  have whole : ((text.toList.map some).takeWhile Option.isSome).filterMap id = text.toList := by
    induction text.toList with
    | nil => rfl
    | cons char rest ih => exact congrArg (char :: ·) ih
  rw [encode, prefix_iff, chars_encode, whole]

theorem encode_eq_nil {text : String} : encode text = [] ↔ text = "" := by
  rw [← List.prefix_nil, ← String.toList_eq_nil_iff, ← List.prefix_nil]
  exact encode_prefix_iff text ""

/-- The whole characters of a text that is cut behind so many bytes. -/
theorem wellFormedPart_take (limit : Nat) (text : String) :
    ∃ front, Front limit text front ∧ wellFormedPart ((encode text).take limit) = encode front := by
  let whole := ((chars ((encode text).take limit)).takeWhile Option.isSome).filterMap id
  have inside : encode (String.ofList whole) <+: (encode text).take limit := by
    rw [encode, String.toList_ofList]
    exact prefix_iff.mpr List.prefix_rfl
  refine ⟨String.ofList whole, ⟨?_, ?_, ?_⟩, ?_⟩
  · rw [← encode_prefix_iff]
    exact inside.trans (List.take_prefix limit _)
  · exact Nat.le_trans inside.length_le (List.length_take_le limit _)
  · intro other begins fits
    have there : encode other <+: (encode text).take limit := by
      rw [List.prefix_take_iff, encode_prefix_iff]
      exact ⟨begins, fits⟩
    rw [encode, prefix_iff] at there
    rw [String.toList_ofList]
    exact there
  · show whole.flatMap encodeChar = (String.ofList whole).toList.flatMap encodeChar
    rw [String.toList_ofList]

/-! Zero characters -/

/-- The bytes of a text up to its first zero byte. -/
theorem takeWhile_encode (text : String) :
    (encode text).takeWhile (· ≠ 0) = encode (upToZero text) := by
  rw [upToZero, encode, encode, String.toList_ofList]
  induction text.toList with
  | nil => rfl
  | cons char rest ih =>
    by_cases zero : char = '\x00'
    · subst zero
      rfl
    · have free : ∀ byte ∈ encodeChar char, decide (byte ≠ 0) = true := by
        intro byte there
        rw [decide_eq_true_iff]
        rintro rfl
        exact zero ((zero_mem_encodeChar char).mp there)
      rw [List.flatMap_cons, List.takeWhile_append_of_pos free, ih,
        List.takeWhile_cons_of_pos (by simpa using zero), List.flatMap_cons]

theorem takeWhile_prefix_takeWhile {front text : List Char} (begins : front <+: text)
    (keeps : Char → Bool) : front.takeWhile keeps <+: text.takeWhile keeps := by
  obtain ⟨rest, rfl⟩ := begins
  rw [List.takeWhile_append]
  split
  · rename_i all
    rw [(List.takeWhile_prefix keeps).eq_of_length all]
    exact List.prefix_append _ _
  · exact List.prefix_rfl

/-- It is the same whether a text is first cut in front of its zero character or last. -/
theorem Front.upToZero {limit : Nat} {text front : String} (cut : Front limit text front) :
    Front limit (upToZero text) (upToZero front) := by
  simp only [Utf8.upToZero]
  constructor
  case begins =>
    rw [String.toList_ofList, String.toList_ofList]
    exact takeWhile_prefix_takeWhile cut.begins _
  case fits =>
    have shorter :
        encode (String.ofList (front.toList.takeWhile (· ≠ '\x00'))) <+: encode front := by
      rw [encode_prefix_iff, String.toList_ofList]
      exact List.takeWhile_prefix _
    exact Nat.le_trans shorter.length_le cut.fits
  case longest =>
    intro other begins fits
    rw [String.toList_ofList] at begins ⊢
    have inside := cut.longest other (begins.trans (List.takeWhile_prefix _)) fits
    have free : other.toList.takeWhile (· ≠ '\x00') = other.toList := by
      rw [List.takeWhile_eq_self_iff]
      intro char there
      have kept := List.mem_takeWhile_imp (begins.subset there)
      exact kept
    rw [← free]
    exact takeWhile_prefix_takeWhile inside _

theorem Front.unique {limit : Nat} {text front other : String} (one : Front limit text front)
    (two : Front limit text other) : front = other := by
  have there := one.longest other two.begins two.fits
  have back := two.longest front one.begins one.fits
  apply String.toList_inj.mp
  exact back.eq_of_length_le there.length_le

/-- The whole characters of a text in front of a zero character and within so many bytes. -/
theorem wellFormedPart_takeWhile (limit : Nat) (text : String) :
    ∃ front, Front limit text front ∧
      wellFormedPart (((encode text).takeWhile (· ≠ 0)).take limit) = encode (upToZero front) := by
  obtain ⟨front, cut, -⟩ := wellFormedPart_take limit text
  obtain ⟨other, there, whole⟩ := wellFormedPart_take limit (upToZero text)
  refine ⟨front, cut, ?_⟩
  rw [takeWhile_encode, whole, there.unique cut.upToZero]

end Utf8

end Playback
