import Playback.Message.Stream

set_option autoImplicit false

namespace Playback

inductive ChannelKind where
  | middlemanRecord
  | middlemanReplay
  | recordReplay
  | replayRoot
  | replayForked
  deriving DecidableEq, Repr

namespace ChannelKind

def all : List ChannelKind :=
  [middlemanRecord, middlemanReplay, recordReplay, replayRoot, replayForked]

def name : ChannelKind → String
  | middlemanRecord => "MiddlemanRecord"
  | middlemanReplay => "MiddlemanReplay"
  | recordReplay => "RecordReplay"
  | replayRoot => "ReplayRoot"
  | replayForked => "ReplayForked"

def ofName? (name : String) : Option ChannelKind := all.find? fun kind => kind.name = name

/-- Channels of these kinds listen on their socket and the others connect to it. -/
def isListener : ChannelKind → Bool
  | middlemanRecord | middlemanReplay | replayForked => true
  | recordReplay | replayRoot => false

/-- A process that loses a channel of these kinds has nobody left to work for. -/
def exitsOnDisconnect : ChannelKind → Bool
  | recordReplay | replayForked => true
  | middlemanRecord | middlemanReplay | replayRoot => false

end ChannelKind

inductive Writer where
  | idle
  /-- What is left of a batch, and how many frames it had. -/
  | writing (rest : List Bytes) (taken : Nat)
  | stopped
  deriving DecidableEq, Repr

/-- A piece of what has arrived, as it was written. It weighs on the connection until all of it
has been read. -/
structure Piece where
  unread : Nat
  weight : Nat
  deriving DecidableEq, Repr

/-- One end of a connection that carries messages. Frames to be sent are queued; a writer takes
the queue as a batch once the channel is connected and writes it frame by frame. A receiver
reads the bytes that arrive as messages, until the other end hangs up. -/
structure Channel where
  id : UInt32
  kind : ChannelKind
  connected : Bool := false
  /-- Nothing is accepted any more. -/
  closed : Bool := false
  /-- Frames that the writer has not taken. -/
  queue : List Bytes := []
  writer : Writer := .idle
  /-- How many frames belong to batches that are written. -/
  sent : Nat := 0
  /-- Bytes that have arrived and are not part of a message that was read. -/
  arrived : Bytes := []
  /-- The pieces that those bytes came in, if somebody counts them. -/
  pieces : List Piece := []
  /-- The other end has hung up. -/
  ended : Bool := false
  /-- The receiver reads. -/
  receiving : Bool := true
  deriving DecidableEq, Repr

/-- What the receiver of a channel finds. -/
inductive Received where
  | nothing
  | message (message : Message)
  | disconnected
  | corrupt (error : FrameError)
  deriving DecidableEq, Repr

namespace Channel

/-- Queues a frame. A closed channel drops it. -/
def sendEncoded (channel : Channel) (frame : Bytes) : Channel :=
  if channel.closed then channel else { channel with queue := channel.queue ++ [frame] }

/-- Queues the frame of a message. A message without a frame is dropped. -/
def send (channel : Channel) (message : Message) : Channel :=
  match message.encode with
  | .ok frame => channel.sendEncoded frame
  | .error _ => channel

def connect (channel : Channel) : Channel := { channel with connected := true }

/-- One step of the writer on a connection that takes all bytes, and the bytes that it writes. -/
def write? (channel : Channel) : Option (Bytes × Channel) :=
  match channel.writer with
  | .stopped => none
  | .idle =>
    if channel.connected && !channel.queue.isEmpty then
      some ([], { channel with writer := .writing channel.queue channel.queue.length,
                               queue := [] })
    else none
  | .writing [] taken => some ([], { channel with writer := .idle, sent := channel.sent + taken })
  | .writing (frame :: rest) taken => some (frame, { channel with writer := .writing rest taken })

/-- The next frame cannot be written. -/
def failWrite (channel : Channel) : Channel :=
  { channel with writer := .stopped, closed := true, queue := [] }

/-- One step of the writer on a connection whose other end no longer reads. Nothing at all can
still be written. -/
def writeUnheard? (channel : Channel) : Option Channel :=
  match channel.writer with
  | .writing ((_ :: _) :: _) _ => some channel.failWrite
  | _ => channel.write?.map Prod.snd

/-- A connection that nobody reads takes pieces of at most this size for as long as its load
stays below a limit. -/
def pieceSize : Nat := 36544
def loadLimit : Nat := 212992

def pageSize : Nat := 4096

/-- How many whole units hold so many bytes. -/
def unitsFor (unit count : Nat) : Nat := (count + unit - 1) / unit

/-- The bytes of a piece that fill pages of their own: those for which a block has no room. -/
def pagedBytes (count : Nat) : Nat := min count (pageSize * unitsFor pageSize (count - 3776))

/-- The block for the other bytes of a piece and the notes at their end. -/
def blockSize (count : Nat) : Nat :=
  let needed := 64 * unitsFor 64 count + 320
  if needed ≤ 512 then 512 else if needed ≤ 1024 then 1024 else if needed ≤ 2048 then 2048
  else pageSize

/-- What a piece adds to the load: its block, its pages, and what keeps it in the queue. -/
def pieceWeight (count : Nat) : Nat :=
  let paged := pagedBytes count
  blockSize (count - paged) + pageSize * unitsFor pageSize paged + 256

/-- The load of a connection with some more bytes, if it takes them all. Only the last of their
pieces may be a small one. -/
def loaded? (load count : Nat) : Option Nat :=
  if count = 0 then some load
  else
    let before := load + (unitsFor pieceSize count - 1) * pieceWeight pieceSize
    if before < loadLimit then
      some (before + pieceWeight (count - (unitsFor pieceSize count - 1) * pieceSize))
    else none

/-- One step of the writer on a connection that nobody reads, with its load. A frame that finds
no room keeps the writer waiting. -/
def writeUnread? (channel : Channel) (load : Nat) : Option (Nat × Channel) := do
  let (bytes, channel) ← channel.write?
  let load ← loaded? load bytes.length
  some (load, channel)

/-- A bound on the steps that the writer takes before it waits. -/
def writerWork (channel : Channel) : Nat :=
  match channel.writer with
  | .writing rest _ => rest.length + channel.queue.length + 3
  | _ => channel.queue.length + 2

def writeAll (heard : Bool) : Nat → Channel → List Bytes → List Bytes × Channel
  | 0, channel, written => (written.reverse, channel)
  | fuel + 1, channel, written =>
    if heard then
      match channel.write? with
      | some (bytes, channel) => writeAll heard fuel channel (bytes :: written)
      | none => (written.reverse, channel)
    else
      match channel.writeUnheard? with
      | some channel => writeAll heard fuel channel written
      | none => (written.reverse, channel)

/-- Lets the writer go on until it waits: the bytes written, and the channel behind them. -/
def flush (channel : Channel) (heard : Bool) : Bytes × Channel :=
  let (written, channel) := writeAll heard channel.writerWork channel []
  (written.flatten, channel)

def fillWith : Nat → Nat → Channel → Nat × Channel
  | 0, load, channel => (load, channel)
  | fuel + 1, load, channel =>
    match channel.writeUnread? load with
    | some (load, channel) => fillWith fuel load channel
    | none => (load, channel)

/-- Lets the writer go on until it waits, on a connection with some load that nobody reads. -/
def fill (channel : Channel) (load : Nat) : Nat × Channel :=
  fillWith channel.writerWork load channel

def arrive (channel : Channel) (bytes : Bytes) : Channel :=
  { channel with arrived := channel.arrived ++ bytes }

/-- One piece arrives, and counts until it has been read. -/
def arrivePiece (channel : Channel) (bytes : Bytes) : Channel :=
  let piece : Piece := { unread := bytes.length, weight := pieceWeight bytes.length }
  { channel.arrive bytes with pieces := channel.pieces ++ [piece] }

/-- There is room for another piece beside those that have not been read. -/
def hasRoom (channel : Channel) : Bool :=
  (channel.pieces.foldl (fun load piece => load + piece.weight) 0) < loadLimit

/-- The pieces that are left behind so many bytes. -/
def readPieces : Nat → List Piece → List Piece
  | _, [] => []
  | count, piece :: pieces =>
    if piece.unread ≤ count then readPieces (count - piece.unread) pieces
    else { piece with unread := piece.unread - count } :: pieces

def hangUp (channel : Channel) : Channel := { channel with ended := true }

/-- The receiver has seen the end: the channel is closed. -/
def disconnect (channel : Channel) : Channel :=
  { channel with closed := true, receiving := false, arrived := [], pieces := [] }

/-- The next thing that the receiver finds. Bytes that the end cuts short are lost. -/
def receive (channel : Channel) : Received × Channel :=
  if channel.connected && channel.receiving then
    match cut channel.arrived with
    | .frame message rest =>
      let pieces := readPieces (channel.arrived.length - rest.length) channel.pieces
      (.message message, { channel with arrived := rest, pieces })
    | .corrupt error => (.corrupt error, channel)
    | .waiting => if channel.ended then (.disconnected, channel.disconnect) else (.nothing, channel)
  else (.nothing, channel)

/-- The deadline for a connection has passed without one. -/
def misses (channel : Channel) : Bool := !channel.connected && !channel.closed

def debugText (channel : Channel) : String :=
  "Channel \x7b id: " ++ toString channel.id.toNat ++ ", kind: " ++ channel.kind.name ++
    ", connected: " ++ toString channel.connected ++ ", closed: " ++ toString channel.closed ++
    ", messages_sent: " ++ toString channel.sent ++ " \x7d"

end Channel

end Playback
