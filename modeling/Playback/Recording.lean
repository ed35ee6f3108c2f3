import Playback.Crew
import Playback.Disk

set_option autoImplicit false

namespace Playback

structure Chunk where
  offset : UInt64
  data : Bytes
  deriving DecidableEq, Repr

/-- The recording of a child: a byte string that only grows at its end. Chunks of it arrive in
any order with their offsets. A chunk that starts past the end is deferred and retried when a
later chunk moves the end; of an overlapping chunk only the bytes past the end are new. The
recorder takes the bytes out in order, each once. -/
structure Recording where
  contents : Bytes := []
  /-- Chunks that started past the end when they arrived, in arrival order. -/
  deferred : List Chunk := []
  /-- How many bytes the recorder has taken. -/
  consumed : Nat := 0
  deriving DecidableEq, Repr

inductive ChunkOutcome where
  | applied (length : Nat)
  | deferred
  deriving DecidableEq, Repr

namespace Recording

/-- The contents with what is new in a chunk that starts at or before their end. -/
def incorporate (contents : Bytes) (chunk : Chunk) : Option Bytes :=
  if chunk.offset.toNat ≤ contents.length then
    some (contents ++ chunk.data.drop (contents.length - chunk.offset.toNat))
  else none

/-- One pass over deferred chunks: the contents, the chunks still deferred, and the length of
the contents behind each chunk that found its place. -/
def retry (contents : Bytes) : List Chunk → Bytes × List Chunk × List Nat
  | [] => (contents, [], [])
  | chunk :: rest =>
    match incorporate contents chunk with
    | some longer =>
      let (last, kept, lengths) := retry longer rest
      (last, kept, longer.length :: lengths)
    | none =>
      let (last, kept, lengths) := retry contents rest
      (last, chunk :: kept, lengths)

/-- Passes over deferred chunks until one finds a place for none of them. -/
def settle (contents : Bytes) (chunks : List Chunk) : Bytes × List Chunk × List Nat :=
  let pass := retry contents chunks
  if _shorter : pass.2.1.length < chunks.length then
    let behind := settle pass.1 pass.2.1
    (behind.1, behind.2.1, pass.2.2 ++ behind.2.2)
  else (pass.1, pass.2.1, pass.2.2)
termination_by chunks.length

def addChunk (recording : Recording) (chunk : Chunk) : ChunkOutcome × Recording :=
  match incorporate recording.contents chunk with
  | none => (.deferred, { recording with deferred := recording.deferred ++ [chunk] })
  | some longer =>
    let (contents, deferred, _) := settle longer recording.deferred
    (.applied contents.length, { recording with contents, deferred })

/-- What is logged when a chunk arrives. -/
def chunkRecords (recording : Recording) (chunk : Chunk) : List Record :=
  let offset := ("offset", FieldValue.number chunk.offset.toNat)
  let arrived : Record :=
    { level := .debug, source := .recording, message := "NewRecordingData",
      fields := [offset, ("len", .number chunk.data.length)] }
  match incorporate recording.contents chunk with
  | none =>
    [arrived, { level := .debug, source := .recording, message := "DeferRecordingData",
                fields := [offset] }]
  | some longer =>
    arrived :: (settle longer recording.deferred).2.2.map fun length =>
      { level := .debug, source := .recording, message := "AddDeferredRecordingData",
        fields := [("length", .number length)] }

def append (recording : Recording) (data : Bytes) : Recording :=
  { recording with contents := recording.contents ++ data }

def length (recording : Recording) : Nat := recording.contents.length

def isEmpty (recording : Recording) : Bool := recording.length = 0

/-- The contents from `start` to `stop`, as far as they are there. -/
def range (recording : Recording) (start stop : UInt64) : Bytes :=
  let stop := min stop.toNat recording.length
  let start := min start.toNat stop
  (recording.contents.take stop).drop start

/-- The bytes that the recorder has not taken yet. -/
def fresh (recording : Recording) : Bytes := recording.contents.drop recording.consumed

/-- Takes the fresh bytes. Without any, fails if more are required and waits otherwise. -/
def takePending (recording : Recording) (requireMore : Bool) :
    Option (Except Failure Bytes × Recording) :=
  if recording.consumed = recording.length then
    if requireMore then some (.error (.endOfRecording recording.length), recording) else none
  else some (.ok recording.fresh, { recording with consumed := recording.length })

/-- Appends a file. -/
def load (recording : Recording) (disk : Disk) (path : String) :
    Except Failure Nat × Recording :=
  match disk.read path with
  | .error fault => (.error (.io fault), recording)
  | .ok data => (.ok (recording.append data).length, recording.append data)

/-- Writes the contents into a file. -/
def save (recording : Recording) (disk : Disk) (path : String) : Except Failure Disk :=
  (disk.write path recording.contents).mapError .io

def debugText (recording : Recording) : String :=
  "RecordingBuffer \x7b len: " ++ toString recording.length ++ ", deferred: " ++
    toString recording.deferred.length ++ " \x7d"

/-- What threads ask of a recording. -/
inductive Call where
  | addChunk (chunk : Chunk)
  | append (data : Bytes)
  | range (start stop : UInt64)
  | snapshot
  | isEmpty
  | awaitLength (length : UInt64)
  | takePending (requireMore : Bool)
  | save (path : String)
  | load (path : String)
  | debugText
  deriving DecidableEq, Repr

inductive Answer where
  | chunk (outcome : ChunkOutcome)
  | length (length : Nat)
  | bytes (bytes : Bytes)
  | truth (value : Bool)
  | ready
  | saved
  | text (text : String)
  | failed (failure : Failure)
  deriving DecidableEq, Repr

def Answer.ofResult {Value : Type} (wrap : Value → Answer) : Except Failure Value → Answer
  | .ok value => wrap value
  | .error failure => .failed failure

/-- A recording and the disk that it is saved to. -/
structure Store where
  recording : Recording := {}
  disk : Disk := {}
  deriving DecidableEq, Repr

/-- A call is answered in one step, or has to wait for more contents. -/
def Call.move (call : Call) (store : Store) : Option (Move Store Call Answer) :=
  let recording := store.recording
  let answer (answer : Answer) : Option (Move Store Call Answer) :=
    some { state := store, next := .inr answer }
  match call with
  | .addChunk chunk =>
    let (outcome, changed) := recording.addChunk chunk
    some { state := { store with recording := changed }, next := .inr (.chunk outcome),
           records := recording.chunkRecords chunk }
  | .append data =>
    let longer := recording.append data
    some { state := { store with recording := longer }, next := .inr (.length longer.length) }
  | .range start stop => answer (.bytes (recording.range start stop))
  | .snapshot => answer (.bytes recording.contents)
  | .isEmpty => answer (.truth recording.isEmpty)
  | .awaitLength length => if length.toNat ≤ recording.length then answer .ready else none
  | .takePending requireMore =>
    (recording.takePending requireMore).map fun (result, changed) =>
      { state := { store with recording := changed }, next := .inr (.ofResult .bytes result) }
  | .save path =>
    match recording.save store.disk path with
    | .ok disk => some { state := { store with disk }, next := .inr .saved }
    | .error failure => answer (.failed failure)
  | .load path =>
    let (result, changed) := recording.load store.disk path
    some { state := { store with recording := changed }, next := .inr (.ofResult .length result) }
  | .debugText => answer (.text recording.debugText)

end Recording

end Playback
