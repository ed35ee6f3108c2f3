import Playback.Channel
import Playback.Proofs.Message.Whole
import Mathlib.Data.List.Infix
import Mathlib.Logic.Function.Basic

set_option autoImplicit false

namespace Playback

/-- One end of a connection. -/
inductive End where
  | near
  | far
  deriving DecidableEq, Repr

def End.other : End → End
  | near => far
  | far => near

theorem End.other_other (e : End) : e.other.other = e := by cases e <;> rfl

/-- What is left of a batch. -/
def Writer.batch : Writer → List Bytes
  | .writing rest _ => rest
  | _ => []

/-- A channel with what has gone through it. -/
structure Side where
  channel : Channel
  /-- Bytes of the frame in front of the batch that are written already. -/
  begun : Nat := 0
  written : Bytes := []
  /-- The messages that were accepted for sending, and what was queued for them. -/
  accepted : List Message := []
  frames : List Bytes := []
  /-- How many of the bytes that the other end wrote have arrived. -/
  read : Nat := 0
  handled : List Message := []
  deriving DecidableEq, Repr

/-- What may happen at one end. -/
inductive Event where
  | send (message : Message)
  /-- The bytes of these messages are sent as they are. -/
  | sendEncoded (messages : List Message) (bytes : Bytes)
  | connect
  /-- The connection takes a part of the frame in front of the batch. -/
  | push (atMost : Nat)
  | write
  | failWrite
  | arrive (atMost : Nat)
  | receive
  /-- The other end has hung up. -/
  | hangUp
  /-- Reading fails. -/
  | disconnect
  deriving DecidableEq, Repr

/-- What is sent reads back. -/
def Event.Sound : Event → Prop
  | send message => ∀ frame, message.encode = .ok frame → Message.decode frame = .ok message
  | sendEncoded messages bytes => Whole bytes messages
  | _ => True

theorem length_headD_le (frames : List Bytes) :
    (frames.headD []).length ≤ frames.flatten.length := by
  cases frames <;> simp

/-- A step of the writer writes the frame in front of the batch, and moves what is not written. -/
theorem Channel.write?_eq_some {channel next : Channel} {bytes : Bytes}
    (step : channel.write? = some (bytes, next)) :
    bytes = channel.writer.batch.headD [] ∧
    bytes ++ next.writer.batch.flatten ++ next.queue.flatten =
      channel.writer.batch.flatten ++ channel.queue.flatten ∧
    channel.writer ≠ .stopped ∧ next.writer ≠ .stopped ∧
    next = { channel with writer := next.writer, queue := next.queue, sent := next.sent } := by
  unfold write? at step
  split at step
  · cases step
  · rename_i idle
    split at step
    · cases step
      simp [idle, Writer.batch]
    · cases step
  · rename_i taken written
    cases step
    simp [written, Writer.batch]
  · rename_i frame rest taken writing
    cases step
    simp [writing, Writer.batch]

/-- What the receiver may find. -/
theorem Channel.receive_cases (channel : Channel) :
    (∃ message rest pieces, channel.receiving = true ∧
      cut channel.arrived = .frame message rest ∧
      channel.receive = (.message message, { channel with arrived := rest, pieces })) ∨
    (∃ error, channel.receiving = true ∧ cut channel.arrived = .corrupt error ∧
      channel.receive = (.corrupt error, channel)) ∨
    channel.receive = (.disconnected, channel.disconnect) ∨
    channel.receive = (.nothing, channel) := by
  unfold receive
  split
  · rename_i reads
    have receiving : channel.receiving = true := by simp_all
    split
    · rename_i message rest found
      exact Or.inl ⟨message, rest, _, receiving, found, rfl⟩
    · rename_i error found
      exact Or.inr (Or.inl ⟨error, receiving, found, rfl⟩)
    · split
      · exact Or.inr (Or.inr (Or.inl rfl))
      · exact Or.inr (Or.inr (Or.inr rfl))
  · exact Or.inr (Or.inr (Or.inr rfl))

namespace Side

/-- What remains of the batch. -/
def unwritten (side : Side) : Bytes := side.channel.writer.batch.flatten.drop side.begun

/-- Notes what an open channel accepts. -/
def note (messages : List Message) (frame : Bytes) (side : Side) : Side :=
  if side.channel.closed then side
  else { side with accepted := side.accepted ++ messages, frames := side.frames ++ [frame] }

def send (message : Message) (side : Side) : Side :=
  let channel := side.channel.send message
  match message.encode with
  | .ok frame => { side.note [message] frame with channel }
  | .error _ => { side with channel }

def sendEncoded (messages : List Message) (bytes : Bytes) (side : Side) : Side :=
  { side.note messages bytes with channel := side.channel.sendEncoded bytes }

def push (atMost : Nat) (side : Side) : Side :=
  match side.channel.writer with
  | .writing (frame :: _) _ =>
    let part := (frame.drop side.begun).take atMost
    { side with begun := side.begun + part.length, written := side.written ++ part }
  | _ => side

def write (side : Side) : Side :=
  match side.channel.write? with
  | some (bytes, channel) =>
    { side with channel, begun := 0, written := side.written ++ bytes.drop side.begun }
  | none => side

def failWrite (side : Side) : Side :=
  match side.channel.writer with
  | .writing (_ :: _) _ => { side with begun := 0, channel := side.channel.failWrite }
  | _ => side

/-- Some of the bytes that were written at the other end and have not arrived. -/
def arrive (coming : Bytes) (atMost : Nat) (side : Side) : Side :=
  let bytes := (coming.drop side.read).take atMost
  { side with channel := side.channel.arrive bytes, read := side.read + bytes.length }

def receive (side : Side) : Side :=
  match side.channel.receive with
  | (.message message, channel) => { side with channel, handled := side.handled ++ [message] }
  | (_, channel) => { side with channel }

/-- Lets something happen at an end to which the other end has written some bytes. -/
def perform (coming : Bytes) (side : Side) : Event → Side
  | .send message => side.send message
  | .sendEncoded messages bytes => side.sendEncoded messages bytes
  | .connect => { side with channel := side.channel.connect }
  | .push atMost => side.push atMost
  | .write => side.write
  | .failWrite => side.failWrite
  | .arrive atMost => side.arrive coming atMost
  | .receive => side.receive
  | .hangUp => { side with channel := side.channel.hangUp }
  | .disconnect => { side with channel := side.channel.disconnect }

/-- A message without a frame is dropped. -/
theorem send_of_error (side : Side) {message : Message} {error : FrameError}
    (encoded : message.encode = .error error) : side.send message = side := by
  simp [send, Channel.send, encoded]

theorem send_of_ok (side : Side) {message : Message} {frame : Bytes}
    (encoded : message.encode = .ok frame) :
    side.send message = side.sendEncoded [message] frame := by
  simp [send, Channel.send, encoded, sendEncoded]

theorem sendEncoded_of_closed {side : Side} (closed : side.channel.closed = true)
    (messages : List Message) (bytes : Bytes) : side.sendEncoded messages bytes = side := by
  simp [sendEncoded, note, Channel.sendEncoded, closed]

theorem send_of_closed {side : Side} (closed : side.channel.closed = true) (message : Message) :
    side.send message = side := by
  cases encoded : message.encode with
  | error error => exact send_of_error side encoded
  | ok frame => rw [send_of_ok side encoded, sendEncoded_of_closed closed]

/-- The writer's part of an end: what is accepted is written or waits, unless a write failed. -/
structure Conserved (side : Side) : Prop where
  begun : side.begun ≤ (side.channel.writer.batch.headD []).length
  balance : ∃ lost, side.written ++ side.unwritten ++ side.channel.queue.flatten ++ lost =
    side.frames.flatten ∧ (side.channel.writer ≠ .stopped → lost = [])
  stopped : side.channel.writer = .stopped → side.channel.closed = true

theorem Conserved.written_prefix {side : Side} (conserved : Conserved side) :
    side.written <+: side.frames.flatten := by
  obtain ⟨lost, balance, -⟩ := conserved.balance
  rw [List.append_assoc, List.append_assoc] at balance
  exact ⟨_, balance⟩

/-- Events that the writer takes no part in. -/
theorem Conserved.of_same {side other : Side} (conserved : Conserved side)
    (begun : other.begun = side.begun) (written : other.written = side.written)
    (frames : other.frames = side.frames) (writer : other.channel.writer = side.channel.writer)
    (queue : other.channel.queue = side.channel.queue)
    (closed : side.channel.closed = true → other.channel.closed = true) : Conserved other := by
  refine ⟨?_, ?_, ?_⟩
  · rw [begun, writer]
    exact conserved.begun
  · rw [unwritten, begun, written, frames, writer, queue]
    exact conserved.balance
  · rw [writer]
    exact fun stopped => closed (conserved.stopped stopped)

theorem Conserved.sendEncoded {side : Side} (conserved : Conserved side) (messages : List Message)
    (bytes : Bytes) : Conserved (side.sendEncoded messages bytes) := by
  by_cases closed : side.channel.closed = true
  · rwa [sendEncoded_of_closed closed]
  · have queued : side.sendEncoded messages bytes =
        { side with accepted := side.accepted ++ messages, frames := side.frames ++ [bytes],
                    channel := { side.channel with queue := side.channel.queue ++ [bytes] } } := by
      simp [Side.sendEncoded, note, Channel.sendEncoded, closed]
    have running : side.channel.writer ≠ .stopped := fun stopped =>
      closed (conserved.stopped stopped)
    obtain ⟨lost, balance, kept⟩ := conserved.balance
    rw [kept running, List.append_nil] at balance
    rw [queued]
    refine ⟨conserved.begun, ⟨[], ?_, fun _ => rfl⟩, conserved.stopped⟩
    dsimp only [unwritten]
    rw [List.append_nil, List.flatten_append, List.flatten_append, ← balance, unwritten]
    simp only [List.append_assoc]

theorem Conserved.send {side : Side} (conserved : Conserved side) (message : Message) :
    Conserved (side.send message) := by
  cases encoded : message.encode with
  | error error => rwa [send_of_error side encoded]
  | ok frame =>
    rw [send_of_ok side encoded]
    exact conserved.sendEncoded [message] frame

/-- The bytes of the frame in front come before those of the others. -/
theorem unwritten_of_writing {side : Side} (conserved : Conserved side) {frame : Bytes}
    {rest : List Bytes} {taken : Nat}
    (writing : side.channel.writer = .writing (frame :: rest) taken) :
    side.begun ≤ frame.length ∧ side.unwritten = frame.drop side.begun ++ rest.flatten := by
  have begun := conserved.begun
  rw [writing] at begun
  refine ⟨begun, ?_⟩
  rw [unwritten, writing]
  exact List.drop_append_of_le_length begun

theorem Conserved.push {side : Side} (conserved : Conserved side) (atMost : Nat) :
    Conserved (side.push atMost) := by
  unfold Side.push
  split
  · rename_i frame rest taken writing
    obtain ⟨begun, ahead⟩ := unwritten_of_writing conserved writing
    obtain ⟨part, given⟩ : ∃ part, part = (frame.drop side.begun).take atMost := ⟨_, rfl⟩
    rw [← given]
    obtain ⟨left, split⟩ : part <+: frame.drop side.begun := by
      rw [given]
      exact List.take_prefix _ _
    have bound := congrArg List.length split
    rw [List.length_append, List.length_drop] at bound
    refine ⟨?_, ?_, conserved.stopped⟩
    · rw [writing]
      simp only [Writer.batch, List.headD_cons]
      omega
    · obtain ⟨lost, balance, kept⟩ := conserved.balance
      refine ⟨lost, ?_, kept⟩
      have behind : side.channel.writer.batch.flatten.drop (side.begun + part.length) =
          left ++ rest.flatten := by
        rw [← List.drop_drop, ← unwritten, ahead, ← split, List.append_assoc, List.drop_left]
      rw [← balance, ahead, ← split]
      dsimp only [unwritten]
      rw [behind]
      simp only [List.append_assoc]
  · exact conserved

theorem Conserved.write {side : Side} (conserved : Conserved side) : Conserved side.write := by
  unfold Side.write
  cases step : side.channel.write? with
  | none => exact conserved
  | some result =>
    obtain ⟨bytes, next⟩ := result
    obtain ⟨front, moved, running, goesOn, -⟩ := Channel.write?_eq_some step
    obtain ⟨lost, balance, kept⟩ := conserved.balance
    have begun := conserved.begun
    rw [← front] at begun
    have long : side.begun ≤ side.channel.writer.batch.flatten.length := by
      rw [front] at begun
      exact begun.trans (length_headD_le _)
    have ahead : side.unwritten ++ side.channel.queue.flatten =
        bytes.drop side.begun ++ (next.writer.batch.flatten ++ next.queue.flatten) := by
      rw [unwritten, ← List.drop_append_of_le_length long, ← moved, List.append_assoc,
        List.drop_append_of_le_length begun]
    refine ⟨Nat.zero_le _, ⟨lost, ?_, fun _ => kept running⟩, fun stopped => absurd stopped goesOn⟩
    rw [← balance, List.append_assoc side.written side.unwritten, ahead]
    simp [unwritten]

theorem Conserved.failWrite {side : Side} (conserved : Conserved side) :
    Conserved side.failWrite := by
  unfold Side.failWrite
  split
  · obtain ⟨lost, balance, -⟩ := conserved.balance
    refine ⟨Nat.le_refl _, ⟨side.unwritten ++ side.channel.queue.flatten ++ lost, ?_, ?_⟩,
      fun _ => rfl⟩
    · rw [← balance]
      simp [unwritten, Writer.batch, Channel.failWrite]
    · exact fun running => absurd rfl running
  · exact conserved

theorem Conserved.receive {side : Side} (conserved : Conserved side) :
    Conserved side.receive := by
  rcases side.channel.receive_cases with
    ⟨message, left, pieces, -, -, found⟩ | ⟨error, -, -, found⟩ | found | found <;>
    rw [Side.receive, found]
  · exact conserved.of_same rfl rfl rfl rfl rfl id
  · exact conserved
  · exact conserved.of_same rfl rfl rfl rfl rfl fun _ => rfl
  · exact conserved

theorem Conserved.perform {side : Side} (conserved : Conserved side) (coming : Bytes)
    (event : Event) : Conserved (side.perform coming event) := by
  cases event with
  | send message => exact conserved.send message
  | sendEncoded messages bytes => exact conserved.sendEncoded messages bytes
  | push atMost => exact conserved.push atMost
  | write => exact conserved.write
  | failWrite => exact conserved.failWrite
  | receive => exact conserved.receive
  | connect => exact conserved.of_same rfl rfl rfl rfl rfl id
  | arrive atMost => exact conserved.of_same rfl rfl rfl rfl rfl id
  | hangUp => exact conserved.of_same rfl rfl rfl rfl rfl id
  | disconnect => exact conserved.of_same rfl rfl rfl rfl rfl fun _ => rfl

theorem sendEncoded_written (side : Side) (messages : List Message) (bytes : Bytes) :
    (side.sendEncoded messages bytes).written = side.written := by
  unfold sendEncoded note
  split <;> rfl

theorem send_written (side : Side) (message : Message) :
    (side.send message).written = side.written := by
  cases encoded : message.encode with
  | error error => rw [send_of_error side encoded]
  | ok frame => rw [send_of_ok side encoded, sendEncoded_written]

/-- Bytes that are written stay written. -/
theorem written_perform (side : Side) (coming : Bytes) (event : Event) :
    side.written <+: (side.perform coming event).written := by
  have same := List.prefix_refl side.written
  cases event with
  | send message => rw [perform, send_written]
  | sendEncoded messages bytes => rw [perform, sendEncoded_written]
  | push atMost =>
    rw [perform, push]
    split
    · exact List.prefix_append _ _
    · exact same
  | write =>
    rw [perform, write]
    split
    · exact List.prefix_append _ _
    · exact same
  | failWrite =>
    rw [perform, failWrite]
    split <;> exact same
  | receive =>
    rw [perform, receive]
    split <;> exact same
  | connect | arrive | hangUp | disconnect => exact same

/-- The receiver's part of an end: what has arrived is the frames of what was handled, and then the
bytes that it still holds if it has not stopped. -/
structure Heard (coming : Bytes) (side : Side) : Prop where
  read : side.read ≤ coming.length
  handled : ∃ done rest, coming.take side.read = done ++ rest ∧ Whole done side.handled ∧
    (side.channel.receiving = true → side.channel.arrived = rest)

theorem Heard.of_more {coming more : Bytes} {side : Side} (heard : Heard coming side)
    (behind : coming <+: more) : Heard more side := by
  obtain ⟨last, rfl⟩ := behind
  refine ⟨?_, ?_⟩
  · rw [List.length_append]
    exact heard.read.trans (Nat.le_add_right _ _)
  · rw [List.take_append_of_le_length heard.read]
    exact heard.handled

/-- Events that the receiver takes no part in, except that they may stop it. -/
theorem Heard.of_same {coming : Bytes} {side other : Side} (heard : Heard coming side)
    (read : other.read = side.read) (handled : other.handled = side.handled)
    (arrived : other.channel.receiving = true →
      side.channel.receiving = true ∧ other.channel.arrived = side.channel.arrived) :
    Heard coming other := by
  obtain ⟨done, rest, come, whole, held⟩ := heard.handled
  refine ⟨?_, done, rest, ?_, ?_, ?_⟩
  · rw [read]
    exact heard.read
  · rw [read, come]
  · rw [handled]
    exact whole
  · intro receiving
    obtain ⟨before, same⟩ := arrived receiving
    rw [same, held before]

theorem Heard.sendEncoded {coming : Bytes} {side : Side} (heard : Heard coming side)
    (messages : List Message) (bytes : Bytes) : Heard coming (side.sendEncoded messages bytes) := by
  unfold Side.sendEncoded note Channel.sendEncoded
  split <;> exact heard.of_same rfl rfl fun receiving => ⟨receiving, rfl⟩

theorem Heard.send {coming : Bytes} {side : Side} (heard : Heard coming side)
    (message : Message) : Heard coming (side.send message) := by
  cases encoded : message.encode with
  | error error => rwa [send_of_error side encoded]
  | ok frame =>
    rw [send_of_ok side encoded]
    exact heard.sendEncoded [message] frame

theorem Heard.push {coming : Bytes} {side : Side} (heard : Heard coming side) (atMost : Nat) :
    Heard coming (side.push atMost) := by
  unfold Side.push
  split
  · exact heard.of_same rfl rfl fun receiving => ⟨receiving, rfl⟩
  · exact heard

theorem Heard.write {coming : Bytes} {side : Side} (heard : Heard coming side) :
    Heard coming side.write := by
  unfold Side.write
  split
  · rename_i bytes next step
    obtain ⟨-, -, -, -, same⟩ := Channel.write?_eq_some step
    rw [same]
    exact heard.of_same rfl rfl fun receiving => ⟨receiving, rfl⟩
  · exact heard

theorem Heard.failWrite {coming : Bytes} {side : Side} (heard : Heard coming side) :
    Heard coming side.failWrite := by
  unfold Side.failWrite
  split
  · exact heard.of_same rfl rfl fun receiving => ⟨receiving, rfl⟩
  · exact heard

theorem Heard.arrive {coming : Bytes} {side : Side} (heard : Heard coming side) (atMost : Nat) :
    Heard coming (side.arrive coming atMost) := by
  obtain ⟨done, rest, come, whole, held⟩ := heard.handled
  obtain ⟨part, given⟩ : ∃ part, part = (coming.drop side.read).take atMost := ⟨_, rfl⟩
  obtain ⟨left, split⟩ : part <+: coming.drop side.read := by
    rw [given]
    exact List.take_prefix _ _
  have bound := congrArg List.length split
  rw [List.length_append, List.length_drop] at bound
  have read := heard.read
  have more : coming.take (side.read + part.length) = done ++ (rest ++ part) := by
    rw [List.take_add, come, ← split, List.take_left, List.append_assoc]
  rw [Side.arrive, ← given]
  refine ⟨?_, done, rest ++ part, more, whole, ?_⟩
  · dsimp only
    omega
  · intro receiving
    dsimp only [Channel.arrive]
    rw [held receiving]

theorem Heard.receive {coming : Bytes} {side : Side} (heard : Heard coming side) :
    Heard coming side.receive := by
  rcases side.channel.receive_cases with
    ⟨message, left, pieces, receiving, first, found⟩ | ⟨error, -, -, found⟩ | found | found <;>
    rw [Side.receive, found]
  · obtain ⟨done, rest, come, whole, held⟩ := heard.handled
    obtain ⟨frame, decoded, arrived⟩ := cut_eq_frame.mp first
    rw [held receiving] at arrived
    refine ⟨heard.read, done ++ frame, left, ?_, whole.append (Whole.of_decode decoded), ?_⟩
    · dsimp only
      rw [come, arrived, List.append_assoc]
    · intro _
      rfl
  · exact heard
  · exact heard.of_same rfl rfl nofun
  · exact heard

theorem Heard.perform {coming : Bytes} {side : Side} (heard : Heard coming side) (event : Event) :
    Heard coming (side.perform coming event) := by
  cases event with
  | send message => exact heard.send message
  | sendEncoded messages bytes => exact heard.sendEncoded messages bytes
  | push atMost => exact heard.push atMost
  | write => exact heard.write
  | failWrite => exact heard.failWrite
  | arrive atMost => exact heard.arrive atMost
  | receive => exact heard.receive
  | connect | hangUp => exact heard.of_same rfl rfl fun receiving => ⟨receiving, rfl⟩
  | disconnect => exact heard.of_same rfl rfl nofun

/-- The frames in which messages were accepted are those of the messages. -/
def Framed (side : Side) : Prop := Whole side.frames.flatten side.accepted

theorem Framed.sendEncoded {side : Side} (framed : Framed side) {messages : List Message}
    {bytes : Bytes} (whole : Whole bytes messages) : Framed (side.sendEncoded messages bytes) := by
  unfold Side.sendEncoded note
  split
  · exact framed
  · have more := Whole.append framed whole
    unfold Framed
    rwa [List.flatten_append, List.flatten_singleton]

theorem Framed.perform {side : Side} (framed : Framed side) (coming : Bytes) {event : Event}
    (sound : event.Sound) : Framed (side.perform coming event) := by
  cases event with
  | send message =>
    rw [Side.perform]
    cases encoded : message.encode with
    | error error => rwa [send_of_error side encoded]
    | ok frame =>
      rw [send_of_ok side encoded]
      exact framed.sendEncoded (Whole.of_decode (sound frame encoded))
  | sendEncoded messages bytes => exact framed.sendEncoded sound
  | push atMost =>
    rw [Side.perform, Side.push]
    split <;> exact framed
  | write =>
    rw [Side.perform, Side.write]
    split <;> exact framed
  | failWrite =>
    rw [Side.perform, Side.failWrite]
    split <;> exact framed
  | receive =>
    rw [Side.perform, Side.receive]
    split <;> exact framed
  | connect | arrive | hangUp | disconnect => exact framed

theorem running_sendEncoded {side : Side} (running : side.channel.writer ≠ .stopped)
    (messages : List Message) (bytes : Bytes) :
    (side.sendEncoded messages bytes).channel.writer ≠ .stopped := by
  unfold sendEncoded Channel.sendEncoded
  dsimp only
  split <;> exact running

/-- A writer stops only where a write fails. -/
theorem running_perform {side : Side} (running : side.channel.writer ≠ .stopped) (coming : Bytes)
    {event : Event} (writes : event ≠ .failWrite) :
    (side.perform coming event).channel.writer ≠ .stopped := by
  cases event with
  | send message =>
    rw [perform]
    cases encoded : message.encode with
    | error error => rwa [send_of_error side encoded]
    | ok frame =>
      rw [send_of_ok side encoded]
      exact running_sendEncoded running [message] frame
  | sendEncoded messages bytes => exact running_sendEncoded running messages bytes
  | push atMost =>
    rw [perform, push]
    split <;> exact running
  | write =>
    rw [perform, write]
    split
    · rename_i bytes next step
      exact (Channel.write?_eq_some step).2.2.2.1
    · exact running
  | failWrite => exact absurd rfl writes
  | receive =>
    rw [perform]
    rcases side.channel.receive_cases with
      ⟨message, left, pieces, -, -, found⟩ | ⟨error, -, -, found⟩ | found | found <;>
      rw [receive, found] <;> exact running
  | connect | arrive | hangUp | disconnect => exact running

/-- All that the sender's frames hold, split where the other end has come to. -/
theorem Heard.split {sender receiver : Side} (heard : Heard sender.written receiver)
    (conserved : Conserved sender) :
    ∃ done rest behind, sender.frames.flatten = done ++ (rest ++ behind) ∧
      sender.written.take receiver.read = done ++ rest ∧ Whole done receiver.handled ∧
      (receiver.channel.receiving = true → receiver.channel.arrived = rest) := by
  obtain ⟨done, rest, come, whole, held⟩ := heard.handled
  obtain ⟨behind, more⟩ := (List.take_prefix receiver.read sender.written).trans
    conserved.written_prefix
  rw [come, List.append_assoc] at more
  exact ⟨done, rest, behind, more.symm, come, whole, held⟩

theorem Heard.handled_prefix {sender receiver : Side} (heard : Heard sender.written receiver)
    (conserved : Conserved sender) (framed : Framed sender) :
    receiver.handled <+: sender.accepted := by
  obtain ⟨done, rest, behind, more, -, whole, -⟩ := heard.split conserved
  rw [Framed, more] at framed
  exact ⟨_, (whole.split framed).1.symm⟩

/-- The bytes that arrive are never refused. -/
theorem Heard.receive_ne_corrupt {sender receiver : Side} (heard : Heard sender.written receiver)
    (conserved : Conserved sender) (framed : Framed sender) (error : FrameError) :
    receiver.channel.receive.1 ≠ .corrupt error := by
  obtain ⟨done, rest, behind, more, -, whole, held⟩ := heard.split conserved
  rw [Framed, more] at framed
  rcases receiver.channel.receive_cases with
    ⟨message, left, pieces, -, -, found⟩ | ⟨defect, receiving, corrupt, found⟩ | found | found <;>
    rw [found]
  · nofun
  · rw [held receiving] at corrupt
    have clean := (whole.split framed).2
    rw [framesOf_of_cut_corrupt corrupt behind] at clean
    cases clean
  · nofun
  · nofun

/-- A reader of the stream comes to what was handled, and to what still can be. -/
theorem Heard.readMessages {sender receiver : Side} (heard : Heard sender.written receiver)
    (conserved : Conserved sender) (receiving : receiver.channel.receiving = true)
    {turns : List Turn} (steady : ∀ turn ∈ turns, turn.Steady) :
    (Stream.readMessages { bytes := sender.written.take receiver.read, turns }).1 =
      receiver.handled ++ (framesOf receiver.channel.arrived).1 := by
  obtain ⟨done, rest, behind, -, come, whole, held⟩ := heard.split conserved
  obtain ⟨left, read⟩ := Stream.readMessages_of_steady steady (done ++ rest)
  rw [come, read, whole.framesOf_append, held receiving]

/-- Once everything is written and has arrived, and no message is left in it, all are handled. -/
theorem Heard.handled_eq {sender receiver : Side} (heard : Heard sender.written receiver)
    (conserved : Conserved sender) (framed : Framed sender)
    (written : sender.written = sender.frames.flatten)
    (come : receiver.read = sender.written.length)
    (receiving : receiver.channel.receiving = true)
    (drained : cut receiver.channel.arrived = .waiting) :
    receiver.handled = sender.accepted := by
  obtain ⟨done, rest, behind, more, arrived, whole, held⟩ := heard.split conserved
  rw [come, List.take_length, written] at arrived
  rw [held receiving] at drained
  rw [Framed, arrived] at framed
  have all := (whole.split framed).1
  rw [(framesOf_of_unfinished (unfinished_of_cut_waiting drained)).1, List.append_nil] at all
  exact all.symm

end Side

/-- Both ends of a connection. -/
abbrev Connection := End → Side

namespace Connection

/-- The ends before anything has happened. -/
def fresh (ids : End → UInt32) (kinds : End → ChannelKind) : Connection := fun e =>
  { channel := { id := ids e, kind := kinds e } }

/-- Something happens at one end. -/
def step (connection : Connection) (e : End) (event : Event) : Connection :=
  Function.update connection e ((connection e).perform (connection e.other).written event)

def run (connection : Connection) (events : List (End × Event)) : Connection :=
  events.foldl (fun connection event => connection.step event.1 event.2) connection

theorem run_cons (connection : Connection) (e : End) (event : Event)
    (events : List (End × Event)) :
    connection.run ((e, event) :: events) = (connection.step e event).run events := rfl

theorem run_append (connection : Connection) (before after : List (End × Event)) :
    connection.run (before ++ after) = (connection.run before).run after :=
  List.foldl_append

theorem step_same (connection : Connection) (e : End) (event : Event) :
    connection.step e event e = (connection e).perform (connection e.other).written event :=
  Function.update_self ..

theorem step_other (connection : Connection) {e changed : End} (apart : e ≠ changed)
    (event : Event) : connection.step changed event e = connection e :=
  Function.update_of_ne apart ..

theorem written_step (connection : Connection) (e changed : End) (event : Event) :
    (connection e).written <+: (connection.step changed event e).written := by
  by_cases same : e = changed
  · subst same
    rw [step_same]
    exact (connection e).written_perform _ event
  · rw [step_other connection same]

/-- What holds at both ends whatever happens. -/
def Orderly (connection : Connection) : Prop :=
  ∀ e, (connection e).Conserved ∧ (connection e).Heard (connection e.other).written

theorem orderly_fresh (ids : End → UInt32) (kinds : End → ChannelKind) :
    Orderly (fresh ids kinds) := by
  intro e
  refine ⟨⟨Nat.le_refl _, ⟨[], rfl, fun _ => rfl⟩, nofun⟩, ⟨Nat.le_refl _, [], [], rfl, ?_, ?_⟩⟩
  · exact Whole.nil
  · exact fun _ => rfl

theorem Orderly.step {connection : Connection} (orderly : Orderly connection) (changed : End)
    (event : Event) : Orderly (connection.step changed event) := by
  intro e
  have kept : (connection.step changed event e).Conserved ∧
      (connection.step changed event e).Heard (connection e.other).written := by
    by_cases same : e = changed
    · subst same
      rw [step_same]
      exact ⟨(orderly e).1.perform _ event, (orderly e).2.perform event⟩
    · rw [step_other connection same]
      exact orderly e
  exact ⟨kept.1, kept.2.of_more (written_step connection e.other changed event)⟩

theorem Orderly.run {connection : Connection} (orderly : Orderly connection)
    (events : List (End × Event)) : Orderly (connection.run events) := by
  induction events generalizing connection with
  | nil => exact orderly
  | cons event events ih => exact ih (orderly.step event.1 event.2)

/-- What all events at an end keep holds there after any run. -/
theorem run_induction {holds : Side → Prop} {connection : Connection} {e : End}
    {events : List (End × Event)}
    (kept : ∀ side coming event, (e, event) ∈ events → holds side →
      holds (side.perform coming event))
    (start : holds (connection e)) : holds (connection.run events e) := by
  induction events generalizing connection with
  | nil => exact start
  | cons first events ih =>
    obtain ⟨changed, event⟩ := first
    rw [run_cons]
    refine ih
      (fun side coming later member => kept side coming later (List.mem_cons_of_mem _ member)) ?_
    by_cases same : e = changed
    · subst same
      rw [step_same]
      exact kept _ _ event List.mem_cons_self start
    · rwa [step_other connection same]

/-- What leaves an end as it is may as well not happen. -/
theorem run_of_same {connection : Connection} (before after : List (End × Event)) {e : End}
    {event : Event}
    (same : ∀ coming, (connection.run before e).perform coming event = connection.run before e) :
    connection.run (before ++ (e, event) :: after) = connection.run (before ++ after) := by
  have still : (connection.run before).step e event = connection.run before := by
    rw [step, same, Function.update_eq_self]
  rw [run_append, run_cons, still, ← run_append]

/-- What one end writes is, whatever happens at both, in order the frames of the messages that it
accepted: written, left of the batch, or queued, unless a write failed. Messages without a frame,
and all that is sent after the end closed, make no difference. If what is sent reads back, then the
other end has handled the first of the accepted messages in their order, and would have come to the
same messages however the bytes that arrived were handed out; it never finds a defect; and it has
handled them all once everything is written, has arrived, and holds nothing more. -/
theorem delivers_in_order (ids : End → UInt32) (kinds : End → ChannelKind)
    (events : List (End × Event)) (e : End) :
    let connection := (fresh ids kinds).run events
    let sender := connection e
    let receiver := connection e.other
    ((e, .failWrite) ∉ events →
      sender.written ++ sender.unwritten ++ sender.channel.queue.flatten =
        sender.frames.flatten) ∧
    (∀ before message after, events = before ++ (e, .send message) :: after →
      ((∃ error, message.encode = .error error) ∨
        ((fresh ids kinds).run before e).channel.closed = true) →
      connection = (fresh ids kinds).run (before ++ after)) ∧
    (∀ before messages bytes after, events = before ++ (e, .sendEncoded messages bytes) :: after →
      ((fresh ids kinds).run before e).channel.closed = true →
      connection = (fresh ids kinds).run (before ++ after)) ∧
    ((∀ event, (e, event) ∈ events → event.Sound) →
      Whole sender.frames.flatten sender.accepted ∧
      receiver.handled <+: sender.accepted ∧
      (∀ error, receiver.channel.receive.1 ≠ .corrupt error) ∧
      (receiver.channel.receiving = true → ∀ turns : List Turn, (∀ turn ∈ turns, turn.Steady) →
        (Stream.readMessages { bytes := sender.written.take receiver.read, turns }).1 =
          receiver.handled ++ (framesOf receiver.channel.arrived).1) ∧
      (sender.channel.writer = .idle → sender.channel.queue = [] →
        receiver.read = sender.written.length → cut receiver.channel.arrived = .waiting →
        receiver.channel.receiving = true → receiver.handled = sender.accepted)) := by
  intro connection sender receiver
  have orderly : Orderly connection := (orderly_fresh ids kinds).run events
  have conserved : sender.Conserved := (orderly e).1
  have heard : receiver.Heard sender.written := by
    have other := (orderly e.other).2
    rwa [End.other_other] at other
  have allWritten : sender.channel.writer ≠ .stopped →
      sender.written ++ sender.unwritten ++ sender.channel.queue.flatten =
        sender.frames.flatten := by
    intro running
    obtain ⟨lost, balance, kept⟩ := conserved.balance
    rwa [kept running, List.append_nil] at balance
  refine ⟨?_, ?_, ?_, ?_⟩
  · intro unfailing
    have running : ∀ (side : Side) coming event, (e, event) ∈ events →
        side.channel.writer ≠ .stopped →
        (side.perform coming event).channel.writer ≠ .stopped := by
      intro side coming event member running
      refine Side.running_perform running coming ?_
      rintro rfl
      exact unfailing member
    exact allWritten (run_induction running nofun)
  · rintro before message after rfl dropped
    refine run_of_same before after fun coming => ?_
    rcases dropped with ⟨error, encoded⟩ | closed
    · exact Side.send_of_error _ encoded
    · exact Side.send_of_closed closed message
  · rintro before messages bytes after rfl closed
    exact run_of_same before after fun coming => Side.sendEncoded_of_closed closed messages bytes
  · intro sound
    have framed : sender.Framed := run_induction
      (fun side coming event member framed => framed.perform coming (sound event member))
      Whole.nil
    refine ⟨framed, heard.handled_prefix conserved framed,
      heard.receive_ne_corrupt conserved framed, ?_, ?_⟩
    · intro receiving turns steady
      exact heard.readMessages conserved receiving steady
    · intro idle empty come drained receiving
      have written := allWritten (by rw [idle]; nofun)
      rw [Side.unwritten, idle, empty] at written
      refine heard.handled_eq conserved framed ?_ come receiving drained
      simpa [Writer.batch] using written

/-- A ping and an order to end, written in one batch with a cut in the middle of the first frame,
read in three pieces. The channel closes, and a message that follows is dropped. -/
theorem delivers_two_messages :
    let kinds : End → ChannelKind := fun
      | .near => .replayRoot
      | .far => .replayForked
    let events : List (End × Event) :=
      [(.near, .send (.ping 7 1)), (.near, .connect), (.near, .send (.terminate 7)),
        (.near, .write), (.near, .push 5), (.far, .connect), (.far, .arrive 3), (.far, .receive),
        (.near, .write), (.far, .arrive 20), (.far, .receive), (.near, .write), (.near, .write),
        (.near, .disconnect), (.near, .send (.ping 7 2)), (.far, .arrive 20), (.far, .receive)]
    let connection := (fresh (fun _ => 1) kinds).run events
    (.near, .failWrite) ∉ events ∧ (∀ event, (.near, event) ∈ events → event.Sound) ∧
    (connection .near).written ++ (connection .near).unwritten ++
      (connection .near).channel.queue.flatten = (connection .near).frames.flatten ∧
    (connection .far).handled = [.ping 7 1, .terminate 7] := by
  intro kinds events
  have unfailing : (.near, .failWrite) ∉ events := by decide
  have each : ∀ pair ∈ events, pair.2.Sound := by
    simp only [events, List.forall_mem_cons, Event.Sound, true_and]
    refine ⟨?_, ?_, ?_, nofun⟩ <;> rintro frame ⟨⟩ <;> rfl
  have sound : ∀ event, (.near, event) ∈ events → event.Sound := fun _ member => each _ member
  obtain ⟨balance, -, -, delivered⟩ := delivers_in_order (fun _ => 1) kinds events .near
  obtain ⟨-, -, -, -, all⟩ := delivered sound
  rw [show End.near.other = .far from rfl] at all
  have idle : ((fresh (fun _ => 1) kinds).run events .near).channel.writer = .idle := by decide
  have empty : ((fresh (fun _ => 1) kinds).run events .near).channel.queue = [] := by decide
  have come : ((fresh (fun _ => 1) kinds).run events .far).read =
      ((fresh (fun _ => 1) kinds).run events .near).written.length := by decide
  have drained : cut ((fresh (fun _ => 1) kinds).run events .far).channel.arrived = .waiting := by
    decide
  have receiving : ((fresh (fun _ => 1) kinds).run events .far).channel.receiving = true := by
    decide
  have accepted : ((fresh (fun _ => 1) kinds).run events .near).accepted =
      [.ping 7 1, .terminate 7] := by decide
  -- The run is evaluated above and must not be unfolded any more.
  clear_value events kinds
  refine ⟨unfailing, sound, balance unfailing, ?_⟩
  rw [← accepted]
  exact all idle empty come drained receiving
end Connection
end Playback
