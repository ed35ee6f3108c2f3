set_option autoImplicit false

/- The word of a readers-writer lock. Its top bit is set by the one writer, and the other bits
count the readers inside. A writer first sets its bit, which shuts out new readers, and then
waits for the readers inside to leave. -/
namespace Playback

structure LockWord where
  word : UInt32 := 0
  deriving DecidableEq, Repr

namespace LockWord

def writerBit : UInt32 := 0x80000000

def readers (lock : LockWord) : UInt32 := lock.word &&& ~~~writerBit

def isWriteLocked (lock : LockWord) : Bool := lock.word &&& writerBit != 0

/-- One reader more, unless a writer has set its bit. -/
def enter? (lock : LockWord) : Option LockWord :=
  if lock.isWriteLocked then none else some { word := lock.word + 1 }

/-- Sets the bit of a writer, unless another one has. -/
def claim? (lock : LockWord) : Option LockWord :=
  if lock.isWriteLocked then none else some { word := lock.word ||| writerBit }

/-- The writer that set the bit is alone. -/
def isDrained (lock : LockWord) : Bool := lock.word = writerBit

/-- One reader less. -/
def leave (lock : LockWord) : LockWord where
  word := lock.word - 1

/-- The leaving reader is the last one, and a writer waits for it. -/
def lastLeaves (lock : LockWord) : Bool := lock.word = writerBit + 1

/-- Clears the bit of the writer. -/
def release (lock : LockWord) : LockWord where
  word := lock.word &&& ~~~writerBit

/-- The lock of a process that has none of the threads that held it. -/
def reset (_lock : LockWord) : LockWord where
  word := 0

end LockWord

end Playback
