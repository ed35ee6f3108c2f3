import Playback.Crew
import Playback.Lock.Word

set_option autoImplicit false

/- Threads on the word of a readers-writer lock, one atomic access a step. A thread that cannot
enter goes to sleep if the word is still the one that it saw; whoever makes the word free wakes
all sleepers, and each of them looks at the word again. -/
namespace Playback

inductive GuardKind where
  | read
  | write
  deriving DecidableEq, Repr

structure Guard where
  name : String
  kind : GuardKind
  deriving DecidableEq, Repr

/-- The word, how often sleepers have been woken, and the guards that are held. -/
structure LockRoom where
  lock : LockWord := {}
  wakes : Nat := 0
  guards : List Guard := []
  deriving DecidableEq, Repr

/-- Where a thread stands on its way into the lock. -/
inductive Stage where
  | look
  /-- The word was free for entry when it was seen. -/
  | exchange (seen : LockWord)
  /-- The word was not free for entry when it was seen. -/
  | park (seen : LockWord)
  | asleep (since : Nat)
  deriving DecidableEq, Repr

namespace LockRoom

/-- Goes to sleep unless the word has changed. -/
def parked (room : LockRoom) (seen : LockWord) : Stage :=
  if room.lock = seen then .asleep room.wakes else .look

/-- A sleeper goes on once it has been woken. -/
def woken (room : LockRoom) (since : Nat) : Option Stage :=
  if room.wakes = since then none else some .look

def wake (room : LockRoom) : LockRoom := { room with wakes := room.wakes + 1 }

def hold (room : LockRoom) (name : String) (kind : GuardKind) : LockRoom :=
  { room with guards := room.guards ++ [{ name, kind }] }

def guard? (room : LockRoom) (name : String) : Option Guard :=
  room.guards.find? fun guard => guard.name = name

def forget (room : LockRoom) (name : String) : LockRoom :=
  { room with guards := room.guards.filter fun guard => guard.name ≠ name }

/-- Changes the word as the end of a guard does, and tells whether sleepers have to be woken. -/
def unlock (room : LockRoom) (kind : GuardKind) : LockRoom × Bool :=
  match kind with
  | .read => ({ room with lock := room.lock.leave }, room.lock.lastLeaves)
  | .write => ({ room with lock := room.lock.release }, true)

inductive Call where
  | read (name : String) (stage : Stage)
  /-- A writer that has not set its bit. -/
  | write (name : String) (stage : Stage)
  /-- A writer that waits for the readers inside. -/
  | drain (name : String) (stage : Stage)
  | drop (name : String)
  | wake
  | forget (name : String)
  | reset
  deriving DecidableEq, Repr

inductive Answer where
  | held
  | found (found : Bool)
  | reset
  deriving DecidableEq, Repr

/-- An exchange by a writer that comes too late is followed by an attempt to sleep. -/
def Call.move (call : Call) (room : LockRoom) : Option (Move LockRoom Call Answer) :=
  let goOn (call : Call) : Option (Move LockRoom Call Answer) :=
    some { state := room, next := .inl call }
  match call with
  | .read name .look =>
    goOn (.read name (if room.lock.isWriteLocked then .park room.lock else .exchange room.lock))
  | .read name (.exchange seen) =>
    if room.lock = seen then
      some { state := { room with lock := { word := seen.word + 1 } }.hold name .read,
             next := .inr .held }
    else goOn (.read name .look)
  | .read name (.park seen) => goOn (.read name (room.parked seen))
  | .read name (.asleep since) =>
    (room.woken since).bind fun stage => goOn (.read name stage)
  | .write name .look =>
    goOn (.write name (if room.lock.isWriteLocked then .park room.lock else .exchange room.lock))
  | .write name (.exchange seen) =>
    if room.lock = seen then
      some { state := { room with lock := { word := seen.word ||| LockWord.writerBit } },
             next := .inl (.drain name .look) }
    else goOn (.write name (.park seen))
  | .write name (.park seen) => goOn (.write name (room.parked seen))
  | .write name (.asleep since) =>
    (room.woken since).bind fun stage => goOn (.write name stage)
  | .drain name (.park seen) => goOn (.drain name (room.parked seen))
  | .drain name (.asleep since) =>
    (room.woken since).bind fun stage => goOn (.drain name stage)
  | .drain name _ =>
    if room.lock.isDrained then
      some { state := room.hold name .write, next := .inr .held }
    else goOn (.drain name (.park room.lock))
  | .drop name =>
    match room.guard? name with
    | none => some { state := room, next := .inr (.found false) }
    | some guard =>
      let (left, wakes) := (room.forget name).unlock guard.kind
      some { state := left, next := if wakes then .inl .wake else .inr (.found true) }
  | .wake => some { state := room.wake, next := .inr (.found true) }
  | .forget name =>
    some { state := room.forget name, next := .inr (.found (room.guard? name).isSome) }
  | .reset => some { state := { room with lock := room.lock.reset }, next := .inr .reset }

end LockRoom

end Playback
