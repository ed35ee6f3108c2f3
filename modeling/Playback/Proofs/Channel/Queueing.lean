import Playback.Context.Outcome
import Playback.Proofs.Message.RoundTrip

set_option autoImplicit false

namespace Playback

namespace Message

/-- The message is not too large for a frame. -/
def Framed (message : Message) : Prop := message.size ≤ maxFrameSize

instance (message : Message) : Decidable message.Framed :=
  inferInstanceAs (Decidable (message.size ≤ maxFrameSize))

theorem framed_iff (message : Message) :
    message.Framed ↔ message.payload.size + headerSize ≤ maxFrameSize := by
  rw [Framed, size, Nat.add_comm]

theorem Framed.encodes {message : Message} (framed : message.Framed) :
    message.encode = .ok (message.frameHeader.encode ++ message.payload.encode) :=
  encode_of_le (message.framed_iff.mp framed)

theorem not_framed_of_binary {message : Message} {tag : UInt64} {data : Bytes}
    (holds : message.payload = .binary tag data) (large : UInt32.size ≤ data.length) :
    ¬message.Framed := by
  have total : message.payload.size = 8 + data.length := by
    rw [holds]
    rfl
  have some : 0 < UInt32.size := by decide
  rw [framed_iff, total, maxFrameSize]
  omega

end Message

/-- The message that an effect sends through an endpoint. -/
def Effect.sentOn (endpoint : Nat) : Effect → Option Message
  | .send other message => if other = endpoint then some message else none
  | _ => none

namespace Channel

theorem send_of_encode {message : Message} {frame : Bytes}
    (encoded : message.encode = .ok frame) (channel : Channel) :
    channel.send message = channel.sendEncoded frame := by
  rw [send, encoded]

/-- A message without a frame is dropped, and nobody is told. -/
theorem send_of_not_framed {message : Message} (large : ¬message.Framed) (channel : Channel) :
    channel.send message = channel := by
  rw [Message.framed_iff, Nat.not_le] at large
  rw [send, (Message.encode_error_iff message _).mpr ⟨large, rfl⟩]

variable {channel : Channel}

theorem send_of_open (opened : channel.closed = false) {message : Message} {frame : Bytes}
    (encoded : message.encode = .ok frame) :
    channel.send message = { channel with queue := channel.queue ++ [frame] } := by
  rw [send_of_encode encoded, sendEncoded, opened]
  rfl

end Channel

/-- What a child sends through its endpoint is given to the channel there. -/
theorem Context.foldl_sendEffects {context : Context} {endpoint : Nat}
    (leads : context.channel = some endpoint) (message : Message) (channel : Channel) :
    ((context.sendEffects message).filterMap (Effect.sentOn endpoint)).foldl Channel.send channel =
      channel.send message := by
  simp [sendEffects, leads, Effect.sentOn]

end Playback
