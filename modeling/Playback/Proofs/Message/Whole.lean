import Playback.Proofs.Message.Reading

set_option autoImplicit false

namespace Playback

/-- The bytes are the frames of these messages. -/
def Whole (bytes : Bytes) (messages : List Message) : Prop :=
  ∃ frames : List Bytes, frames.flatten = bytes ∧
    frames.map Message.decode = messages.map .ok

theorem Whole.nil : Whole [] [] := ⟨[], rfl, rfl⟩

theorem Whole.of_decode {frame : Bytes} {message : Message}
    (decoded : Message.decode frame = .ok message) : Whole frame [message] := by
  refine ⟨[frame], by simp, ?_⟩
  rw [List.map_cons, decoded]
  rfl

theorem Whole.append {bytes more : Bytes} {messages others : List Message}
    (whole : Whole bytes messages) (behind : Whole more others) :
    Whole (bytes ++ more) (messages ++ others) := by
  obtain ⟨frames, rfl, decoded⟩ := whole
  obtain ⟨last, rfl, read⟩ := behind
  exact ⟨frames ++ last, by rw [List.flatten_append], by
    rw [List.map_append, List.map_append, decoded, read]⟩

theorem Whole.framesOf_append {bytes : Bytes} {messages : List Message}
    (whole : Whole bytes messages) (rest : Bytes) :
    framesOf (bytes ++ rest) = (messages ++ (framesOf rest).1, (framesOf rest).2) := by
  obtain ⟨frames, rfl, decoded⟩ := whole
  exact framesOf_flatten decoded rest

theorem Whole.framesOf_eq {bytes : Bytes} {messages : List Message}
    (whole : Whole bytes messages) : framesOf bytes = (messages, none, []) := by
  have framed := whole.framesOf_append []
  rwa [List.append_nil, framesOf_nil, List.append_nil] at framed

/-- The frames of whole bytes that begin with other whole bytes. -/
theorem Whole.split {bytes rest : Bytes} {messages all : List Message}
    (front : Whole bytes messages) (whole : Whole (bytes ++ rest) all) :
    all = messages ++ (framesOf rest).1 ∧ (framesOf rest).2.1 = none := by
  have framed := front.framesOf_append rest
  rw [whole.framesOf_eq, Prod.mk.injEq] at framed
  exact ⟨framed.1, congrArg Prod.fst framed.2.symm⟩

/-- Bytes that are cut short of a frame hold no message. -/
theorem unfinished_of_cut_waiting {bytes : Bytes} (waits : cut bytes = .waiting) :
    Unfinished bytes := by
  by_cases short : bytes.length < headerSize
  · exact unfinished_of_short short
  · rw [cut, if_neg short] at waits
    cases parsed : Header.parse (bytes.take headerSize) with
    | error error => simp [parsed] at waits
    | ok header =>
      rw [parsed] at waits
      dsimp only at waits
      rw [Header.parse_take bytes (Nat.le_refl _)] at parsed
      by_cases part : bytes.length < header.size.toNat
      · exact unfinished_of_parsed (by omega) parsed part
      · rw [if_neg part] at waits
        split at waits <;> cases waits

/-- A defect at the front is one whatever comes behind it. -/
theorem firstFrame_of_cut_corrupt {bytes : Bytes} {error : FrameError}
    (corrupt : cut bytes = .corrupt error) (rest : Bytes) :
    (firstFrame (bytes ++ rest)).1 = .failed (.frame error) := by
  have length : (bytes ++ rest).length = bytes.length + rest.length := List.length_append
  by_cases short : bytes.length < headerSize
  · rw [cut, if_pos short] at corrupt
    cases corrupt
  · have front : Header.parse (bytes ++ rest) = Header.parse (bytes.take headerSize) := by
      rw [← Header.parse_take (bytes ++ rest) (Nat.le_refl _),
        List.take_append_of_le_length (by omega)]
    rw [cut, if_neg short] at corrupt
    rw [firstFrame_of_parsed (by omega), front]
    cases parsed : Header.parse (bytes.take headerSize) with
    | error defect =>
      rw [parsed] at corrupt
      cases corrupt
      rfl
    | ok header =>
      rw [parsed] at corrupt
      dsimp only at corrupt ⊢
      by_cases part : bytes.length < header.size.toNat
      · rw [if_pos part] at corrupt
        cases corrupt
      · rw [if_neg part] at corrupt
        rw [if_neg (by omega), List.take_append_of_le_length (by omega)]
        cases decoded : Message.decode (bytes.take header.size.toNat) with
        | error defect =>
          rw [decoded] at corrupt
          cases corrupt
          rfl
        | ok message =>
          rw [decoded] at corrupt
          cases corrupt

theorem framesOf_of_cut_corrupt {bytes : Bytes} {error : FrameError}
    (corrupt : cut bytes = .corrupt error) (rest : Bytes) :
    (framesOf (bytes ++ rest)).2.1 = some (.frame error) := by
  have first := firstFrame_of_cut_corrupt corrupt rest
  rcases front : firstFrame (bytes ++ rest) with ⟨incoming, behind⟩
  rw [front] at first
  subst first
  rw [framesOf_of_failed front]

end Playback
