import Playback.Failure

set_option autoImplicit false

namespace Playback

/-- A region of memory of fixed size that holds one text, ended by a zero byte. Writing a text
leaves the bytes behind its zero byte as they were; reading stops at the first zero byte. -/
structure Region where
  size : Nat
  /-- The bytes up to the last one that was ever written. All others are zero. -/
  cells : Bytes := []
  deriving DecidableEq, Repr

namespace Region

/-- Mappings of this size are more than the system has. -/
def mappingLimit : Nat := 0x800000000

def map (size : Nat) : Except IoFault Region :=
  if size = 0 then .error .emptyMapping
  else if mappingLimit ≤ size then .error .outOfMemory
  else .ok { size }

/-- How many bytes of a text the region has room for beside the zero byte. -/
def room (region : Region) (bytes : Bytes) : Nat := min bytes.length (region.size - 1)

def write (region : Region) (bytes : Bytes) : Region :=
  if region.size = 0 then region
  else
    let count := region.room bytes
    { region with cells := bytes.take count ++ 0 :: region.cells.drop (count + 1) }

def read (region : Region) : Bytes := (region.cells.takeWhile (· ≠ 0)).take region.size

/-- The part of the text that fits into a buffer. -/
def readUpTo (region : Region) (limit : Nat) : Bytes := region.read.take limit

/-- A buffer with the text written over its beginning. -/
def copyInto (region : Region) (buffer : Bytes) : Nat × Bytes :=
  let text := region.readUpTo buffer.length
  (text.length, text ++ buffer.drop text.length)

def clear (region : Region) : Region := { region with cells := [] }

def raw (region : Region) : Bytes :=
  region.cells ++ List.replicate (region.size - region.cells.length) 0

inductive Sharing where
  | confined
  | shared
  deriving DecidableEq, Repr

def Sharing.name : Sharing → String
  | confined => "Private"
  | shared => "Shared"

end Region

end Playback
