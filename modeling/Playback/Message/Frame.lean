import Playback.Message.Basic

set_option autoImplicit false

/- Framing. A frame is a header of twelve bytes, which gives its total size, and the payload.
Encoding writes the one frame of a message, or nothing when the size field cannot hold its
size; decoding names the first defect of a byte string that is not the frame of a message. -/
namespace Playback

def headerSize : Nat := 12

/-- The largest total size that the size field can hold. -/
def maxFrameSize : Nat := UInt32.size - 1

/-- The bytes of one address space, which bounds every length in memory. -/
def addressSpace : Nat := UInt64.size

/-- The ways in which a payload can miss the layout of its kind. -/
inductive Defect where
  | unexpectedLength
  | missingCounts
  | unterminatedArgument
  | argumentNotText
  | argumentCount
  | unterminatedText
  | missingTag
  | keyTooLong
  deriving DecidableEq, Repr

def Defect.message : Defect → String
  | .unexpectedLength => "unexpected payload length"
  | .missingCounts => "missing pid or argc"
  | .unterminatedArgument => "unterminated argument"
  | .argumentNotText => "argument is not UTF-8"
  | .argumentCount => "argc does not match arguments"
  | .unterminatedText => "unterminated error text"
  | .missingTag => "missing tag"
  | .keyTooLong => "key length exceeds payload"

inductive FrameError where
  | sizeTooSmall (size : UInt32)
  | unknownKind (number : UInt16)
  | truncated (expected actual : Nat)
  | tooLarge (size : Nat)
  | malformed (kind : Kind) (defect : Defect)
  deriving DecidableEq, Repr

/-- The word under which reports file an error. -/
def FrameError.category : FrameError → String
  | .sizeTooSmall _ => "SizeTooSmall"
  | .unknownKind _ => "UnknownType"
  | .truncated _ _ => "Truncated"
  | .tooLarge _ => "TooLarge"
  | .malformed _ _ => "MalformedPayload"

def FrameError.message : FrameError → String
  | .sizeTooSmall size =>
    "message size " ++ toString size.toNat ++ " is smaller than the " ++ toString headerSize ++
      " byte header"
  | .unknownKind number => "unknown message type " ++ toString number.toNat
  | .truncated expected actual =>
    "message truncated: expected " ++ toString expected ++ " bytes, got " ++ toString actual
  | .tooLarge size =>
    "message of " ++ toString size ++ " bytes exceeds the " ++ toString maxFrameSize ++
      " byte frame limit"
  | .malformed kind defect => "malformed " ++ kind.name ++ " payload: " ++ defect.message

structure Header where
  size : UInt32
  flags : UInt16
  kind : UInt16
  fork : UInt32
  deriving DecidableEq, Repr

namespace Header

def encode (header : Header) : Bytes :=
  word32 header.size ++ word16 header.flags ++ word16 header.kind ++ word32 header.fork

/-- The fields of the first twelve bytes. -/
def read (bytes : Bytes) : Header where
  size := ofWord32 (bytes.take 4)
  flags := ofWord16 ((bytes.drop 4).take 2)
  kind := ofWord16 ((bytes.drop 6).take 2)
  fork := ofWord32 ((bytes.drop 8).take 4)

def parse (bytes : Bytes) : Except FrameError Header :=
  let header := read bytes
  if header.size.toNat < headerSize then .error (.sizeTooSmall header.size) else .ok header

def payloadSize (header : Header) : Nat := header.size.toNat - headerSize

@[simp] theorem length_encode (header : Header) : header.encode.length = headerSize := by
  simp [encode, headerSize]

end Header

/-- The size field of a frame with a payload of this size. -/
def frameSize (payloadSize : Nat) : Except FrameError UInt32 :=
  let size := payloadSize + headerSize
  if size ≤ maxFrameSize then .ok (UInt32.ofNat size)
  else .error (.tooLarge (min size (addressSpace - 1)))

/-- A fold over bytes that depends on their order, multiplying by 31 as a shift and a
difference of words. -/
def hashBytes (bytes : Bytes) : UInt32 :=
  bytes.foldl (fun hash byte => (hash <<< 5) - hash + byte.toUInt32) 0

/-- The texts of a list of arguments, each ended by a zero byte. `read` holds the bytes of the
argument at hand, last byte first. -/
def decodeArguments (read : Bytes) : Bytes → Except Defect (List String)
  | [] => if read.isEmpty then .ok [] else .error .unterminatedArgument
  | byte :: rest =>
    if byte = 0 then
      match Utf8.decode? read.reverse with
      | none => .error .argumentNotText
      | some text => (decodeArguments [] rest).map (text :: ·)
    else decodeArguments (byte :: read) rest

def sized (size : Nat) (body : Bytes) (payload : Payload) : Except Defect Payload :=
  if body.length = size then .ok payload else .error .unexpectedLength

namespace Payload

def decodeIntroduction (body : Bytes) : Except Defect Payload :=
  if body.length < 8 then .error .missingCounts
  else do
    let argv ← decodeArguments [] (body.drop 8)
    if argv.length = (ofWord32 ((body.drop 4).take 4)).toNat then
      .ok (.introduction { parentPid := ofWord32 (body.take 4), argv })
    else .error .argumentCount

def decodeError (body : Bytes) : Except Defect Payload :=
  if body.getLast? = some 0 then .ok (.error (Utf8.decodeLossy body.dropLast))
  else .error .unterminatedText

def decodeBinary (body : Bytes) : Except Defect Payload :=
  if body.length < 8 then .error .missingTag
  else .ok (.binary (ofWord64 (body.take 8)) (body.drop 8))

def decode (layout : Layout) (body : Bytes) : Except Defect Payload :=
  match layout with
  | .empty => sized 0 body .empty
  | .introduction => decodeIntroduction body
  | .error => decodeError body
  | .ping => sized 4 body (.ping (ofWord32 body))
  | .pingResponse =>
    sized 12 body (.pingResponse (ofWord32 (body.take 4)) (ofWord64 (body.drop 4)))
  | .paint => sized 8 body (.paint (ofWord32 (body.take 4)) (ofWord32 (body.drop 4)))
  | .updateRecording =>
    sized 16 body (.updateRecording (ofWord64 (body.take 8)) (ofWord64 (body.drop 8)))
  | .binary => decodeBinary body

/-- A shared key is not longer than the data it stands in. -/
def keyFits (kind : Kind) : Payload → Bool
  | binary tag data => kind ≠ .sharedKeySet || tag.toNat ≤ data.length
  | _ => true

theorem layout_of_sized {size : Nat} {body : Bytes} {payload decoded : Payload}
    (ok : sized size body payload = .ok decoded) : decoded = payload := by
  unfold sized at ok
  split at ok <;> simp_all

theorem layout_of_decode {layout : Layout} {body : Bytes} {payload : Payload}
    (ok : decode layout body = .ok payload) : payload.layout = layout := by
  cases layout with
  | introduction =>
    simp only [decode, decodeIntroduction] at ok
    split at ok
    · cases ok
    · cases arguments : decodeArguments [] (body.drop 8) with
      | error defect => simp [arguments, bind, Except.bind] at ok
      | ok argv =>
        simp only [arguments, bind, Except.bind] at ok
        split at ok
        · cases ok; rfl
        · cases ok
  | error =>
    simp only [decode, decodeError] at ok
    split at ok
    · cases ok; rfl
    · cases ok
  | binary =>
    simp only [decode, decodeBinary] at ok
    split at ok
    · cases ok
    · cases ok; rfl
  | _ => rw [layout_of_sized ok]; rfl

end Payload

namespace Message

def header (message : Message) : Except FrameError Header :=
  (frameSize message.payload.size).map fun size =>
    { size, flags := message.flags, kind := message.kind.number, fork := message.fork }

/-- The total size of the frame. -/
def size (message : Message) : Nat := headerSize + message.payload.size

/-- The buffer with header and payload written behind what it holds. -/
def writeFrame (message : Message) (header : Header) (buffer : Bytes) : Bytes :=
  buffer ++ header.encode ++ message.payload.encode

def encode (message : Message) : Except FrameError Bytes :=
  message.header.map fun header => message.writeFrame header []

/-- Writes the frame behind what a buffer holds: the outcome, and the buffer afterwards. -/
def appendTo (message : Message) (buffer : Bytes) : Except FrameError Unit × Bytes :=
  match message.header with
  | .error reason => (.error reason, buffer)
  | .ok header => (.ok (), message.writeFrame header buffer)

/-- The buffer with the frame appended. -/
def encodeInto (message : Message) (buffer : Bytes) : Except FrameError Bytes :=
  (message.appendTo buffer).1.map fun _ => (message.appendTo buffer).2

def hash (message : Message) : Except FrameError UInt32 := message.encode.map hashBytes

/-- The message of a header and a body. The size in the header is not compared with the body. -/
def decodePayload (header : Header) (body : Bytes) : Except FrameError Message :=
  match Kind.ofNumber? header.kind with
  | none => .error (.unknownKind header.kind)
  | some kind =>
    match decoded : Payload.decode kind.layout body with
    | .error defect => .error (.malformed kind defect)
    | .ok payload =>
      if payload.keyFits kind then
        .ok { flags := header.flags, kind, fork := header.fork, payload,
              fits := Payload.layout_of_decode decoded }
      else .error (.malformed kind .keyTooLong)

/-- The message whose frame is exactly this byte string. -/
def decode (bytes : Bytes) : Except FrameError Message :=
  if bytes.length < headerSize then .error (.truncated headerSize bytes.length)
  else do
    let header ← Header.parse bytes
    if bytes.length = header.size.toNat then decodePayload header (bytes.drop headerSize)
    else .error (.truncated header.size.toNat bytes.length)

end Message

end Playback
