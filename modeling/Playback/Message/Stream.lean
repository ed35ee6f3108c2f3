import Playback.Failure

set_option autoImplicit false

namespace Playback

/-- What a stream does in one call: hand out a bounded piece, be interrupted, or fail. -/
inductive Turn where
  | piece (atMost : Nat)
  | interrupted
  | failed (fault : IoFault)
  deriving DecidableEq, Repr

/-- The other end has broken the connection. -/
def Turn.reset : Turn := .failed .connectionReset

/-- Nothing is there yet, and the stream does not wait. -/
def Turn.wouldBlock : Turn := .failed .wouldBlock

/-- The bytes still to come and the behaviour of the next calls. A call behind the last turn
hands out all that is asked for. -/
structure Stream where
  bytes : Bytes
  turns : List Turn := []
  deriving DecidableEq, Repr

/-- How a request for a number of bytes ended. `ended` holds what came before the end. -/
inductive Filled where
  | full (bytes : Bytes)
  | ended (found : Bytes)
  | failed (fault : IoFault)
  deriving DecidableEq, Repr

namespace Stream

def fillFrom (found : Bytes) (room : Nat) (bytes : Bytes) : List Turn → Filled × Stream
  | [] =>
    if room ≤ bytes.length then (.full (found ++ bytes.take room), { bytes := bytes.drop room })
    else (.ended (found ++ bytes), { bytes := [] })
  | turn :: turns =>
    if room = 0 then (.full found, { bytes, turns := turn :: turns })
    else
      match turn with
      | .interrupted => fillFrom found room bytes turns
      | .failed fault => (.failed fault, { bytes, turns })
      | .piece atMost =>
        let part := bytes.take (min atMost room)
        if part.isEmpty then (.ended found, { bytes, turns })
        else fillFrom (found ++ part) (room - part.length) (bytes.drop part.length) turns

/-- Asks for `room` bytes, retrying interrupted calls. -/
def fill (room : Nat) (stream : Stream) : Filled × Stream :=
  fillFrom [] room stream.bytes stream.turns

theorem length_fillFrom (found : Bytes) (room : Nat) (bytes : Bytes) (turns : List Turn)
    {result : Bytes} {rest : Stream}
    (full : fillFrom found room bytes turns = (.full result, rest)) :
    rest.bytes.length + room = bytes.length := by
  induction turns generalizing found room bytes with
  | nil =>
    simp only [fillFrom] at full
    split at full
    · cases full
      simp only [List.length_drop]
      omega
    · cases full
  | cons turn turns ih =>
    simp only [fillFrom] at full
    split at full
    · cases full
      simp only
      omega
    · cases turn with
      | interrupted => exact ih found room bytes full
      | failed fault => cases full
      | piece atMost =>
        dsimp only at full
        split at full
        · cases full
        · have shorter := ih _ _ _ full
          simp only [List.length_drop, List.length_take] at shorter
          omega

end Stream

/-- How an attempt to read one message ended. -/
inductive Incoming where
  | message (message : Message)
  | finished
  | failed (failure : Failure)
  deriving DecidableEq, Repr

namespace Stream

/-- The next message. The stream may end between messages and nowhere else. -/
def readMessage (stream : Stream) : Incoming × Stream :=
  match stream.fill headerSize with
  | (.failed fault, rest) => (.failed (.io fault), rest)
  | (.ended found, rest) =>
    (if found.isEmpty then .finished else .failed (.io .endInHeader), rest)
  | (.full raw, rest) =>
    match Header.parse raw with
    | .error error => (.failed (.frame error), rest)
    | .ok header =>
      match rest.fill header.payloadSize with
      | (.failed fault, rest) => (.failed (.io fault), rest)
      | (.ended _, rest) => (.failed (.io .endInBody), rest)
      | (.full body, rest) =>
        match Message.decodePayload header body with
        | .error error => (.failed (.frame error), rest)
        | .ok message => (.message message, rest)

theorem length_readMessage {stream rest : Stream} {message : Message}
    (read : stream.readMessage = (.message message, rest)) :
    rest.bytes.length < stream.bytes.length := by
  unfold readMessage at read
  split at read
  · cases read
  · split at read <;> cases read
  · next raw behind full =>
    have first := length_fillFrom _ _ _ _ full
    split at read
    · cases read
    · next header parsed =>
      split at read
      · cases read
      · cases read
      · next body last filled =>
        have second := length_fillFrom _ _ _ _ filled
        split at read
        · cases read
        · cases read
          simp only [headerSize] at first
          omega

/-- All messages up to the end of the stream or its first failure, and what is left. -/
def readMessages (stream : Stream) : List Message × Option Failure × Stream :=
  match _read : stream.readMessage with
  | (.finished, rest) => ([], none, rest)
  | (.failed failure, rest) => ([], some failure, rest)
  | (.message message, rest) =>
    let (messages, failure, last) := rest.readMessages
    (message :: messages, failure, last)
termination_by stream.bytes.length
decreasing_by exact length_readMessage _read

end Stream

/-- The next frame of bytes that have arrived so far. -/
inductive Cut where
  | waiting
  | frame (message : Message) (rest : Bytes)
  | corrupt (error : FrameError)
  deriving DecidableEq, Repr

/-- A header is refused once it is complete, a payload once the whole frame is there. -/
def cut (bytes : Bytes) : Cut :=
  if bytes.length < headerSize then .waiting
  else
    match Header.parse (bytes.take headerSize) with
    | .error error => .corrupt error
    | .ok header =>
      if bytes.length < header.size.toNat then .waiting
      else
        match Message.decode (bytes.take header.size.toNat) with
        | .error error => .corrupt error
        | .ok message => .frame message (bytes.drop header.size.toNat)

end Playback
