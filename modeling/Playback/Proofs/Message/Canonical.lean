import Playback.Context.Handling
import Playback.Proofs.Channel.Queueing
import Playback.Proofs.ForkTable.Conservation
import Playback.Proofs.Message.Grammar

set_option autoImplicit false

namespace Playback

theorem Header.encode_read {bytes : Bytes} (headed : headerSize ≤ bytes.length) :
    (read bytes).encode = bytes.take headerSize := by
  rw [headerSize] at headed ⊢
  have size : (bytes.take 4).length = 4 := by simp; omega
  have flags : ((bytes.drop 4).take 2).length = 2 := by simp; omega
  have kind : ((bytes.drop 6).take 2).length = 2 := by simp; omega
  have fork : ((bytes.drop 8).take 4).length = 4 := by simp; omega
  have split : bytes.take 12 = bytes.take 4 ++ (bytes.drop 4).take 2 ++ (bytes.drop 6).take 2 ++
      (bytes.drop 8).take 4 := by
    rw [← List.take_add, ← List.take_add, ← List.take_add]
  simp only [read, encode, word32_ofWord32 size, word16_ofWord16 flags, word16_ofWord16 kind,
    word32_ofWord32 fork, split]

/-! Payloads -/

theorem ended_map_encode (argv : List String) :
    ended (argv.map Utf8.encode) = argv.flatMap Payload.encodeArgument := by
  rw [ended, List.flatMap_map]
  rfl

/-- Arguments that were read are written as the bytes that they were read from. -/
theorem encode_of_decodeArguments {rest : Bytes} {argv : List String}
    (read : decodeArguments [] rest = .ok argv) :
    argv.flatMap Payload.encodeArgument = rest ∧ ∀ argument ∈ argv, 0 ∉ Utf8.encode argument := by
  obtain ⟨texts, arguments, cases⟩ := arguments_split rest
  obtain ⟨found, same, front⟩ := decodeArguments_front arguments
  rcases cases with whole | ⟨behind, split, some, free⟩ | ⟨text, behind, split, free, invalid⟩
  · have known := front []
    rw [List.append_nil, ← whole, read] at known
    simp only [decodeArguments, List.isEmpty_nil, if_true, Except.map, List.append_nil,
      Except.ok.injEq] at known
    subst known
    constructor
    · rw [← ended_map_encode, same, whole]
    · intro argument member
      have text : Utf8.encode argument ∈ texts := by
        rw [← same]
        exact List.mem_map_of_mem member
      exact (arguments _ text).free
  · rw [split, front, decodeArguments_open some free] at read
    cases read
  · rw [split, front, decodeArguments_ended free,
      (Utf8.decode?_eq_none_iff text).mpr invalid] at read
    cases read

namespace Payload

theorem sized_eq_ok {size : Nat} {body : Bytes} {payload decoded : Payload}
    (ok : sized size body payload = .ok decoded) : body.length = size ∧ decoded = payload := by
  unfold sized at ok
  split at ok <;> simp_all

theorem decodeIntroduction_eq_ok {body : Bytes} {payload : Payload}
    (decoded : decodeIntroduction body = .ok payload) :
    8 ≤ body.length ∧ ∃ argv, decodeArguments [] (body.drop 8) = .ok argv ∧
      argv.length = announced body ∧
      payload = .introduction { parentPid := ofWord32 (body.take 4), argv } := by
  by_cases counted : 8 ≤ body.length
  · cases read : decodeArguments [] (body.drop 8) with
    | error defect =>
      rw [decodeIntroduction, if_neg (by omega), read] at decoded
      cases decoded
    | ok argv =>
      rw [decodeIntroduction_of_arguments counted read] at decoded
      split at decoded
      · rename_i count
        cases decoded
        exact ⟨counted, argv, rfl, count, rfl⟩
      · cases decoded
  · rw [decodeIntroduction, if_pos (by omega)] at decoded
    cases decoded

theorem encode_of_decodeIntroduction {body : Bytes} {payload : Payload}
    (decoded : decodeIntroduction body = .ok payload) : payload.encode = body := by
  obtain ⟨counted, argv, read, count, rfl⟩ := decodeIntroduction_eq_ok decoded
  have pid : (body.take 4).length = 4 := by simp; omega
  have number : ((body.drop 4).take 4).length = 4 := by simp; omega
  have written := (encode_of_decodeArguments read).1
  have counts : UInt32.ofNat argv.length = ofWord32 ((body.drop 4).take 4) := by
    rw [count, announced, UInt32.ofNat_toNat]
  rw [encode, counts, word32_ofWord32 pid, word32_ofWord32 number, written, ← List.take_add,
    List.take_append_drop]

/-- What was decoded from a body is written as the same body, errors apart. -/
theorem encode_of_decode {layout : Layout} {body : Bytes} {payload : Payload}
    (decoded : decode layout body = .ok payload) (other : layout ≠ .error) :
    payload.encode = body := by
  cases layout with
  | error => exact absurd rfl other
  | empty =>
    obtain ⟨exact, rfl⟩ := sized_eq_ok decoded
    exact (List.eq_nil_of_length_eq_zero exact).symm
  | introduction => exact encode_of_decodeIntroduction decoded
  | ping =>
    obtain ⟨exact, rfl⟩ := sized_eq_ok decoded
    exact word32_ofWord32 exact
  | pingResponse =>
    obtain ⟨exact, rfl⟩ := sized_eq_ok decoded
    rw [encode, word32_ofWord32 (by simp; omega), word64_ofWord64 (by simp; omega),
      List.take_append_drop]
  | paint =>
    obtain ⟨exact, rfl⟩ := sized_eq_ok decoded
    rw [encode, word32_ofWord32 (by simp; omega), word32_ofWord32 (by simp; omega),
      List.take_append_drop]
  | updateRecording =>
    obtain ⟨exact, rfl⟩ := sized_eq_ok decoded
    rw [encode, word64_ofWord64 (by simp; omega), word64_ofWord64 (by simp; omega),
      List.take_append_drop]
  | binary =>
    simp only [decode, decodeBinary] at decoded
    split at decoded
    · cases decoded
    · cases decoded
      rw [encode, word64_ofWord64 (by simp; omega), List.take_append_drop]

/-- The text of an error is written as it came exactly if it was well-formed. -/
theorem encode_of_decodeError {body : Bytes} {payload : Payload}
    (decoded : decodeError body = .ok payload) :
    payload = .error (Utf8.decodeLossy body.dropLast) ∧
      (payload.encode = body ↔ Utf8.Valid body.dropLast) ∧
      (payload.encode = body ↔
        Utf8.encode (Utf8.decodeLossy body.dropLast) = body.dropLast) := by
  unfold decodeError at decoded
  split at decoded
  case isFalse _ => cases decoded
  case isTrue last =>
    obtain ⟨text, rfl⟩ := List.getLast?_eq_some_iff.mp last
    cases decoded
    rw [List.dropLast_concat, encode, List.append_left_inj, Utf8.valid_iff]
    refine ⟨rfl, ⟨fun same => ⟨_, same⟩, ?_⟩, Iff.rfl⟩
    rintro ⟨known, rfl⟩
    rw [Utf8.decodeLossy_encode]

end Payload

/-! Frames -/

namespace Message

/-- The bytes of the text in the frame of an error. -/
def textBytes (frame : Bytes) : Bytes := (frame.drop headerSize).dropLast

/-- How a message stands in the frame that it was decoded from. -/
structure From (frame : Bytes) (message : Message) : Prop where
  headed : headerSize ≤ frame.length
  sized : (Header.read frame).size.toNat = frame.length
  flags : message.flags = (Header.read frame).flags
  number : message.kind.number = (Header.read frame).kind
  fork : message.fork = (Header.read frame).fork
  body : Payload.decode message.kind.layout (frame.drop headerSize) = .ok message.payload
  key : message.payload.keyFits message.kind = true

theorem from_of_decode {frame : Bytes} {message : Message} (decoded : decode frame = .ok message) :
    From frame message := by
  rcases frame_or_refusal frame with ⟨headed, sized, kind, number, -⟩ | ⟨error, refusal⟩
  case inr =>
    rw [refusal.named] at decoded
    cases decoded
  have known : Kind.ofNumber? (Header.read frame).kind = some kind := by
    rw [← number, Kind.ofNumber?_number]
  rw [decode_of_sized headed sized] at decoded
  cases read : Payload.decode kind.layout (frame.drop headerSize) with
  | error defect =>
    rw [decodePayload_of_error known read] at decoded
    cases decoded
  | ok payload =>
    rw [decodePayload_of_ok known read] at decoded
    split at decoded
    · rename_i key
      cases decoded
      exact ⟨headed, sized, rfl, number, rfl, read, key⟩
    · cases decoded

namespace From

variable {frame : Bytes} {message : Message}

/-- The frame is written again exactly if the body is. -/
theorem encode_iff (origin : From frame message) :
    message.encode = .ok frame ↔ message.payload.encode = frame.drop headerSize := by
  constructor
  · intro encoded
    by_cases fits : message.payload.size + headerSize ≤ maxFrameSize
    · rw [encode_of_le fits, Except.ok.injEq] at encoded
      rw [← encoded, List.drop_left' (Header.length_encode message.frameHeader)]
    · have failed := (encode_error_iff message _).mpr ⟨Nat.lt_of_not_le fits, rfl⟩
      rw [encoded] at failed
      cases failed
  · intro written
    have headed := origin.headed
    have total : message.payload.size + headerSize = frame.length := by
      rw [← Payload.length_encode, written, List.length_drop]
      omega
    have bounded := (Header.read frame).size.toNat_lt
    have fits : message.payload.size + headerSize ≤ maxFrameSize := by
      rw [total, ← origin.sized, maxFrameSize, UInt32.size]
      omega
    have header : message.frameHeader = Header.read frame := by
      rw [frameHeader, total, ← origin.sized, origin.flags, origin.number, origin.fork,
        UInt32.ofNat_toNat]
    rw [encode_of_le fits, header, written, Header.encode_read headed, List.take_append_drop]

theorem readable (origin : From frame message) : message.Readable := by
  refine ⟨?_, ?_⟩
  · intro content holds
    have layout : message.kind.layout = .introduction := by
      rw [← message.fits, holds]
      rfl
    have body := origin.body
    rw [layout, Payload.decode] at body
    obtain ⟨-, argv, read, -, same⟩ := Payload.decodeIntroduction_eq_ok body
    rw [holds, Payload.introduction.injEq] at same
    rw [same]
    exact (encode_of_decodeArguments read).2
  · exact (Payload.keyFits_iff _ _).mp origin.key

/-- The message can be sent on, and is read again as itself. -/
theorem decode_encode (origin : From frame message) {other : Bytes}
    (encoded : message.encode = .ok other) : decode other = .ok message := by
  by_cases fits : message.payload.size + headerSize ≤ maxFrameSize
  · rw [encode_of_le fits, Except.ok.injEq] at encoded
    rw [← encoded, decode_frame (size_frameHeader fits)]
    exact (decodePayload_frame fits).1 origin.readable
  · have failed := (encode_error_iff message _).mpr ⟨Nat.lt_of_not_le fits, rfl⟩
    rw [encoded] at failed
    cases failed

theorem encode_of_other (origin : From frame message) (other : message.kind.layout ≠ .error) :
    message.encode = .ok frame :=
  origin.encode_iff.mpr (Payload.encode_of_decode origin.body other)

/-- The text of an error, and when it is written as it came. -/
theorem error (origin : From frame message) (layout : message.kind.layout = .error) :
    message.payload = .error (Utf8.decodeLossy (textBytes frame)) ∧
      (message.encode = .ok frame ↔ Utf8.Valid (textBytes frame)) ∧
      (message.encode = .ok frame ↔
        Utf8.encode (Utf8.decodeLossy (textBytes frame)) = textBytes frame) := by
  have body := origin.body
  rw [layout, Payload.decode] at body
  rw [origin.encode_iff]
  exact Payload.encode_of_decodeError body

end From

end Message

/-! Passing on -/

/-- Whatever a root passes on goes out as it is. -/
theorem Context.eq_of_send_mem_passOn {context : Context} {message sent : Message}
    {endpoint : Nat} (member : .send endpoint sent ∈ (context.passOn message).effects) :
    sent = message := by
  unfold passOn at member
  split at member
  · unfold route at member
    cases routed : (context.forks.route message).1 with
    | held => simp [routed] at member
    | sent handle removed => simp_all
  · simp at member

/-- Of what a fork sends, the root sends on nothing but the message itself. -/
theorem Context.eq_of_send_mem_dispatchFork {context : Context} {main : Bool}
    {message sent : Message} {endpoint : Nat}
    (member : .send endpoint sent ∈ (context.dispatchFork main message).effects) :
    sent = message := by
  unfold dispatchFork at member
  split at member
  case h_7 =>
    simp only [send, sendEffects] at member
    split at member <;> simp_all
  case h_5 => split at member <;> simp at member
  case h_3 => split at member <;> simp at member
  all_goals simp [followedBy] at member

namespace Message

/-- A frame that is decoded is the one frame of its message, with the same hash, unless it is that
of an error whose text is ill-formed; then the text is another one, and if the message still has a
frame, that is decoded as the same message. Of any other layout a root passes on the very bytes that
came, to the middleman and to forks, those included that register only after the message. -/
theorem decoded_frame_canonical {frame : Bytes} {message : Message}
    (decoded : decode frame = .ok message) :
    (message.encode = .ok frame ↔
      message.kind.layout ≠ .error ∨ Utf8.Valid (textBytes frame)) ∧
    (message.encode = .ok frame → message.hash = .ok (hashBytes frame)) ∧
    (message.kind.layout = .error → ¬ Utf8.Valid (textBytes frame) →
      ∃ text, message.payload = .error text ∧ Utf8.encode text ≠ textBytes frame) ∧
    (∀ other, message.encode = .ok other → decode other = .ok message) ∧
    (message.kind.layout ≠ .error →
      (∀ (context : Context) (main : Bool) (endpoint : Nat) (sent : Message),
        .send endpoint sent ∈ (context.dispatchFork main message).effects ∨
          .send endpoint sent ∈ (context.passOn message).effects →
        ∀ channel : Channel, channel.send sent = channel.sendEncoded frame) ∧
      ∀ (calls : List Exchange.Call) (place : Nat),
        (Exchange.routedTo message.fork calls)[place]? = some message →
        ((Exchange.run calls).handed message.fork ++
          (Exchange.run calls).table.pendingFor message.fork)[place]?.map encode =
            some (.ok frame)) := by
  have origin := from_of_decode decoded
  refine ⟨⟨?_, ?_⟩, ?_, ?_, fun other => origin.decode_encode, ?_⟩
  · intro encoded
    by_cases layout : message.kind.layout = .error
    · exact Or.inr ((origin.error layout).2.1.mp encoded)
    · exact Or.inl layout
  · rintro (other | valid)
    · exact origin.encode_of_other other
    · by_cases layout : message.kind.layout = .error
      · exact (origin.error layout).2.1.mpr valid
      · exact origin.encode_of_other layout
  · intro encoded
    rw [hash, encoded]
    rfl
  · intro layout invalid
    obtain ⟨text, valid, same⟩ := origin.error layout
    refine ⟨_, text, ?_⟩
    intro written
    exact invalid (valid.mp (same.mpr written))
  · intro other
    have encoded := origin.encode_of_other other
    constructor
    · intro context main endpoint sent member
      have same : sent = message := by
        rcases member with forked | passed
        · exact Context.eq_of_send_mem_dispatchFork forked
        · exact Context.eq_of_send_mem_passOn passed
      rw [same]
      exact Channel.send_of_encode encoded
    · intro calls place there
      rw [(Exchange.run_conserved calls).balanced, there, Option.map_some, encoded]

/-- The text of an error that begins with no character. -/
theorem decoded_error_not_canonical :
    let frame : Bytes := [14, 0, 0, 0, 0, 0, 14, 0, 3, 0, 0, 0, 0xFF, 0]
    let message := fatalError 3 "\uFFFD"
    decode frame = .ok message ∧ message.encode ≠ .ok frame ∧
      ∀ other, message.encode = .ok other → decode other = .ok message := by
  intro frame message
  have decoded : decode frame = .ok message := by decide +kernel
  obtain ⟨-, -, -, again, -⟩ := decoded_frame_canonical decoded
  exact ⟨decoded, by decide +kernel, again⟩

end Message

end Playback
