import Playback.Proofs.Message.Arguments

set_option autoImplicit false

namespace Playback

theorem Kind.eq_introduction {kind : Kind} (layout : kind.layout = .introduction) :
    kind = .introduction := by
  cases kind <;> first | rfl | cases layout

theorem Header.read_encode (header : Header) (rest : Bytes) :
    Header.read (header.encode ++ rest) = header := by
  have first : (header.encode ++ rest).take 4 = word32 header.size := by
    simp only [encode, List.append_assoc]
    exact List.take_left' (length_word32 header.size)
  have second : ((header.encode ++ rest).drop 4).take 2 = word16 header.flags := by
    simp only [encode, List.append_assoc]
    rw [List.drop_left' (length_word32 header.size), List.take_left' (length_word16 header.flags)]
  have third : ((header.encode ++ rest).drop 6).take 2 = word16 header.kind := by
    have front : (word32 header.size ++ word16 header.flags).length = 6 := by simp
    rw [encode, List.append_assoc, List.append_assoc, List.drop_left' front,
      List.take_left' (length_word16 header.kind)]
  have fourth : ((header.encode ++ rest).drop 8).take 4 = word32 header.fork := by
    have front : (word32 header.size ++ word16 header.flags ++ word16 header.kind).length = 8 := by
      simp
    rw [encode, List.append_assoc, List.drop_left' front,
      List.take_left' (length_word32 header.fork)]
  simp only [read, first, second, third, fourth, ofWord32_word32, ofWord16_word16]

theorem frameSize_of_le {payloadSize : Nat} (fits : payloadSize + headerSize ≤ maxFrameSize) :
    frameSize payloadSize = .ok (UInt32.ofNat (payloadSize + headerSize)) := by
  rw [frameSize, if_pos fits]

theorem frameSize_of_lt {payloadSize : Nat} (large : maxFrameSize < payloadSize + headerSize) :
    frameSize payloadSize =
      .error (.tooLarge (min (payloadSize + headerSize) (addressSpace - 1))) := by
  rw [frameSize, if_neg (by omega)]

namespace Payload

theorem sized_of_length {size : Nat} {body : Bytes} (exact : body.length = size)
    (payload : Payload) : sized size body payload = .ok payload := by
  rw [sized, if_pos exact]

theorem decodeIntroduction_encode (content : Introduction)
    (small : content.argv.length < UInt32.size) :
    decodeIntroduction (encode (.introduction content)) =
      if (content.argv.flatMap pieces).length = content.argv.length then
        .ok (.introduction { content with argv := content.argv.flatMap pieces })
      else .error .argumentCount := by
  have pid := length_word32 content.parentPid
  have count := length_word32 (UInt32.ofNat content.argv.length)
  have counts : (word32 content.parentPid ++
      word32 (UInt32.ofNat content.argv.length)).length = 8 := by simp
  have enough : ¬ (encode (.introduction content)).length < 8 := by
    rw [length_encode, size]
    omega
  have read_count : (UInt32.ofNat content.argv.length).toNat = content.argv.length :=
    UInt32.toNat_ofNat_of_lt' small
  rw [decodeIntroduction, if_neg enough, encode, List.drop_left' counts, decodeArguments_encode,
    List.append_assoc, List.drop_left' pid, List.take_left' pid, List.take_left' count,
    ofWord32_word32, ofWord32_word32, read_count]
  rfl

theorem decodeError_encode (text : String) :
    decodeError (encode (.error text)) = .ok (.error text) := by
  rw [decodeError, encode, List.getLast?_concat, if_pos rfl, List.dropLast_concat,
    Utf8.decodeLossy_encode]

theorem decodeBinary_encode (tag : UInt64) (data : Bytes) :
    decodeBinary (encode (.binary tag data)) = .ok (.binary tag data) := by
  have enough : ¬ (encode (.binary tag data)).length < 8 := by
    rw [length_encode, size]
    omega
  rw [decodeBinary, if_neg enough, encode, List.take_left' (length_word64 tag),
    List.drop_left' (length_word64 tag), ofWord64_word64]

/-- Every payload but an introduction is read back whatever it holds. -/
theorem decode_encode {payload : Payload} (other : payload.layout ≠ .introduction) :
    decode payload.layout payload.encode = .ok payload := by
  cases payload with
  | empty => rfl
  | introduction content => exact absurd rfl other
  | error text => exact decodeError_encode text
  | ping id =>
    rw [layout, decode, encode, sized_of_length (length_word32 id), ofWord32_word32]
  | pingResponse id progress =>
    rw [layout, decode, encode, sized_of_length (by simp), List.take_left' (length_word32 id),
      List.drop_left' (length_word32 id), ofWord32_word32, ofWord64_word64]
  | paint width height =>
    rw [layout, decode, encode, sized_of_length (by simp), List.take_left' (length_word32 width),
      List.drop_left' (length_word32 width), ofWord32_word32, ofWord32_word32]
  | updateRecording start required =>
    rw [layout, decode, encode, sized_of_length (by simp), List.take_left' (length_word64 start),
      List.drop_left' (length_word64 start), ofWord64_word64, ofWord64_word64]
  | binary tag data => exact decodeBinary_encode tag data

theorem keyFits_iff (kind : Kind) (payload : Payload) :
    payload.keyFits kind = true ↔
      ∀ tag data, kind = .sharedKeySet → payload = .binary tag data → tag.toNat ≤ data.length := by
  cases payload with
  | binary tag data =>
    rw [keyFits, Bool.or_eq_true, decide_eq_true_eq, decide_eq_true_eq]
    constructor
    · rintro (other | bounded) tag' data' set same
      · exact absurd set other
      · cases same
        exact bounded
    · intro bounded
      by_cases set : kind = .sharedKeySet
      · exact Or.inr (bounded tag data set rfl)
      · exact Or.inl set
  | _ => simp [keyFits]

end Payload

namespace Message

theorem decode_frame {header : Header} {body : Bytes}
    (exact : header.size.toNat = headerSize + body.length) :
    decode (header.encode ++ body) = decodePayload header body := by
  have length : (header.encode ++ body).length = header.size.toNat := by
    rw [List.length_append, Header.length_encode, exact]
  have enough : ¬ (header.encode ++ body).length < headerSize := by omega
  have parsed : Header.parse (header.encode ++ body) = .ok header := by
    rw [Header.parse, Header.read_encode, if_neg (by omega)]
  rw [decode, if_neg enough, parsed]
  change (if _ then _ else _) = _
  rw [if_pos length, List.drop_left' (Header.length_encode header)]

theorem decodePayload_of_ok {header : Header} {body : Bytes} {kind : Kind} {payload : Payload}
    (known : Kind.ofNumber? header.kind = some kind)
    (decoded : Payload.decode kind.layout body = .ok payload) :
    decodePayload header body =
      if payload.keyFits kind then
        .ok { flags := header.flags, kind, fork := header.fork, payload,
              fits := Payload.layout_of_decode decoded }
      else .error (.malformed kind .keyTooLong) := by
  unfold decodePayload
  rw [known]
  dsimp only
  split
  · rename_i defect failed
    rw [decoded] at failed
    cases failed
  · rename_i other read
    rw [decoded] at read
    cases read
    rfl

theorem decodePayload_of_error {header : Header} {body : Bytes} {kind : Kind} {defect : Defect}
    (known : Kind.ofNumber? header.kind = some kind)
    (decoded : Payload.decode kind.layout body = .error defect) :
    decodePayload header body = .error (.malformed kind defect) := by
  unfold decodePayload
  rw [known]
  dsimp only
  split
  · rename_i other failed
    rw [decoded] at failed
    cases failed
    rfl
  · rename_i payload read
    rw [decoded] at read
    cases read

/-- What a reader takes back as it was: no argument of an introduction holds a zero byte, and a
shared key ends within its data. -/
structure Readable (message : Message) : Prop where
  separable : ∀ content, message.payload = .introduction content →
    ∀ argument ∈ content.argv, 0 ∉ Utf8.encode argument
  bounded : ∀ tag data, message.kind = .sharedKeySet → message.payload = .binary tag data →
    tag.toNat ≤ data.length

/-- What a reader finds wrong with the frame of a message that is not readable. -/
def defect (message : Message) : Defect :=
  if message.kind = .introduction then .argumentCount else .keyTooLong

/-- The header of a message that is not too large. -/
def frameHeader (message : Message) : Header where
  size := UInt32.ofNat (message.payload.size + headerSize)
  flags := message.flags
  kind := message.kind.number
  fork := message.fork

theorem header_of_le {message : Message}
    (fits : message.payload.size + headerSize ≤ maxFrameSize) :
    message.header = .ok message.frameHeader := by
  rw [header, frameSize_of_le fits]
  rfl

theorem header_of_lt {message : Message}
    (large : maxFrameSize < message.payload.size + headerSize) :
    message.header =
      .error (.tooLarge (min (message.payload.size + headerSize) (addressSpace - 1))) := by
  rw [header, frameSize_of_lt large]
  rfl

theorem size_frameHeader {message : Message}
    (fits : message.payload.size + headerSize ≤ maxFrameSize) :
    message.frameHeader.size.toNat = headerSize + message.payload.encode.length := by
  have small : message.payload.size + headerSize < UInt32.size := by
    have positive : 0 < UInt32.size := by decide
    rw [maxFrameSize] at fits
    omega
  rw [frameHeader, UInt32.toNat_ofNat_of_lt' small, Payload.length_encode, Nat.add_comm]

theorem decodePayload_introduction {message : Message} {content : Introduction}
    (holds : message.payload = .introduction content)
    (fits : message.payload.size + headerSize ≤ maxFrameSize) :
    decodePayload message.frameHeader message.payload.encode =
      if (content.argv.flatMap pieces).length = content.argv.length then .ok message
      else .error (.malformed message.kind .argumentCount) := by
  obtain ⟨flags, kind, fork, payload, shape⟩ := message
  cases holds
  have count : content.argv.length < UInt32.size := by
    have enough := length_le_argumentsSize content.argv
    simp only [Payload.size, maxFrameSize] at fits
    omega
  have decoded := Payload.decodeIntroduction_encode content count
  have known := Kind.ofNumber?_number kind
  have introduction : Payload.decode kind.layout (Payload.encode (.introduction content)) =
      Payload.decodeIntroduction (Payload.encode (.introduction content)) := by
    rw [← shape]
    rfl
  by_cases same : (content.argv.flatMap pieces).length = content.argv.length
  · have kept : content.argv.flatMap pieces = content.argv :=
      flatMap_pieces ((length_pieces_iff content.argv).mp same)
    rw [if_pos same, kept] at decoded
    rw [if_pos same, decodePayload_of_ok known (introduction.trans decoded),
      if_pos (by rfl)]
    rfl
  · rw [if_neg same] at decoded
    rw [if_neg same, decodePayload_of_error known (introduction.trans decoded)]

theorem decodePayload_other {message : Message} (other : message.payload.layout ≠ .introduction) :
    decodePayload message.frameHeader message.payload.encode =
      if message.payload.keyFits message.kind then .ok message
      else .error (.malformed message.kind .keyTooLong) := by
  have decoded := Payload.decode_encode other
  rw [message.fits] at decoded
  rw [decodePayload_of_ok (Kind.ofNumber?_number message.kind) decoded]
  rfl

theorem readable_introduction {message : Message} {content : Introduction}
    (holds : message.payload = .introduction content) :
    message.Readable ↔ (content.argv.flatMap pieces).length = content.argv.length := by
  rw [length_pieces_iff]
  constructor
  · intro readable
    exact readable.separable content holds
  · intro free
    refine ⟨?_, ?_⟩
    · intro other same
      rw [holds] at same
      cases same
      exact free
    · intro tag data _ binary
      rw [holds] at binary
      cases binary

theorem readable_other {message : Message} (other : message.payload.layout ≠ .introduction) :
    message.Readable ↔ message.payload.keyFits message.kind = true := by
  rw [Payload.keyFits_iff]
  constructor
  · exact Readable.bounded
  · intro bounded
    refine ⟨?_, bounded⟩
    intro content holds
    rw [holds] at other
    exact absurd rfl other

/-- What is read from the frame of a message that is not too large. -/
theorem decodePayload_frame {message : Message}
    (fits : message.payload.size + headerSize ≤ maxFrameSize) :
    (message.Readable →
      decodePayload message.frameHeader message.payload.encode = .ok message) ∧
    (¬ message.Readable →
      decodePayload message.frameHeader message.payload.encode =
        .error (.malformed message.kind message.defect)) := by
  by_cases introduction : message.payload.layout = .introduction
  · have kind := Kind.eq_introduction (message.fits.symm.trans introduction)
    cases holds : message.payload with
    | introduction content =>
      rw [← holds, decodePayload_introduction holds fits, readable_introduction holds, defect,
        if_pos kind]
      exact ⟨fun same => if_pos same, fun apart => if_neg apart⟩
    | _ => rw [holds] at introduction; cases introduction
  · have kind : message.kind ≠ .introduction := by
      intro same
      exact introduction (by rw [message.fits, same]; rfl)
    rw [decodePayload_other introduction, readable_other introduction, defect, if_neg kind]
    exact ⟨fun bounded => if_pos bounded, fun long => if_neg long⟩

theorem encode_error_iff (message : Message) (reason : FrameError) :
    message.encode = .error reason ↔
      maxFrameSize < message.payload.size + headerSize ∧
        reason = .tooLarge (min (message.payload.size + headerSize) (addressSpace - 1)) := by
  constructor
  · intro failed
    by_cases fits : message.payload.size + headerSize ≤ maxFrameSize
    · rw [encode, header_of_le fits] at failed
      cases failed
    · have large : maxFrameSize < message.payload.size + headerSize := by omega
      rw [encode, header_of_lt large] at failed
      cases failed
      exact ⟨large, rfl⟩
  · rintro ⟨large, rfl⟩
    rw [encode, header_of_lt large]
    rfl

theorem encode_of_le {message : Message}
    (fits : message.payload.size + headerSize ≤ maxFrameSize) :
    message.encode = .ok (message.frameHeader.encode ++ message.payload.encode) := by
  rw [encode, header_of_le fits]
  rfl

/-- Appending writes what encoding gives, and nothing if encoding fails. -/
theorem appendTo_eq (message : Message) (buffer : Bytes) :
    message.appendTo buffer =
      match message.encode with
      | .error reason => (.error reason, buffer)
      | .ok bytes => (.ok (), buffer ++ bytes) := by
  rw [appendTo, encode]
  cases message.header with
  | error reason => rfl
  | ok header =>
    change (Except.ok (), buffer ++ header.encode ++ message.payload.encode) = _
    rw [List.append_assoc]
    rfl

/-- Whatever a message holds and whatever its flags, it has no frame exactly if its size exceeds
the size field, and then a buffer stays as it is. Otherwise its frame has the size of the message,
which stands in the header, a buffer gets it appended, and it is read back as the message exactly
if the message is readable. -/
theorem frame_round_trip (message : Message) (buffer : Bytes) :
    (∀ reason, message.encode = .error reason ↔
      maxFrameSize < message.payload.size + headerSize ∧
        reason = .tooLarge (min (message.payload.size + headerSize) (addressSpace - 1))) ∧
    (∀ reason, message.encode = .error reason →
      message.appendTo buffer = (.error reason, buffer)) ∧
    (message.payload.size + headerSize ≤ maxFrameSize → ∃ bytes,
      message.encode = .ok bytes ∧
      bytes.length = message.size ∧
      (Header.read bytes).size.toNat = message.size ∧
      message.appendTo buffer = (.ok (), buffer ++ bytes) ∧
      (decode bytes = .ok message ↔ message.Readable) ∧
      (¬ message.Readable → decode bytes = .error (.malformed message.kind message.defect))) := by
  refine ⟨encode_error_iff message, ?_, ?_⟩
  · intro reason failed
    rw [appendTo_eq, failed]
  · intro fits
    have encoded := encode_of_le fits
    have size := size_frameHeader fits
    have total : headerSize + message.payload.encode.length = message.size := by
      rw [Payload.length_encode, Message.size]
    obtain ⟨readable, unreadable⟩ := decodePayload_frame fits
    rw [← decode_frame size] at readable unreadable
    refine ⟨message.frameHeader.encode ++ message.payload.encode, encoded, ?_, ?_, ?_, ?_,
      unreadable⟩
    · rw [List.length_append, Header.length_encode, total]
    · rw [Header.read_encode, size, total]
    · rw [appendTo_eq, encoded]
    · constructor
      · intro decoded
        by_cases broken : message.Readable
        · exact broken
        · rw [unreadable broken] at decoded
          cases decoded
      · exact readable

/-- An argument with a zero byte, and a shared key longer than its data, have frames that no reader
takes. -/
theorem frame_of_unreadable :
    (∃ bytes, (introduction 1 ["a\x00b"]).encode = .ok bytes ∧
      decode bytes = .error (.malformed .introduction .argumentCount)) ∧
    (∃ bytes,
      ({ kind := .sharedKeySet, fork := 3, payload := .binary 2 [7], fits := rfl } : Message).encode =
        .ok bytes ∧
      decode bytes = .error (.malformed .sharedKeySet .keyTooLong)) := by
  constructor
  · obtain ⟨bytes, encoded, -, -, -, -, unreadable⟩ :=
      (frame_round_trip (introduction 1 ["a\x00b"]) []).2.2 (by decide)
    refine ⟨bytes, encoded, unreadable ?_⟩
    intro readable
    have free := readable.separable { parentPid := 1, argv := ["a\x00b"] } rfl "a\x00b" (by simp)
    rw [Utf8.zero_mem_encode] at free
    exact free (by simp)
  · obtain ⟨bytes, encoded, -, -, -, -, unreadable⟩ :=
      (frame_round_trip
        { kind := .sharedKeySet, fork := 3, payload := .binary 2 [7], fits := rfl } []).2.2
        (by decide)
    refine ⟨bytes, encoded, unreadable ?_⟩
    intro readable
    have bounded := readable.bounded 2 [7] rfl rfl
    exact absurd bounded (by decide)

end Message

end Playback
