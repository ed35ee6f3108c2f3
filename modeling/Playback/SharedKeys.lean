import Playback.Slot

set_option autoImplicit false

namespace Playback

/-- The database of keys that the processes of a tree share. The root holds the entries; other
processes set keys by message and ask for values one at a time. -/
structure SharedKeys where
  /-- At most one entry for a key. -/
  entries : List (String × String) := []
  slot : Slot String := {}
  deriving DecidableEq, Repr

namespace SharedKeys

def set (keys : SharedKeys) (key value : String) : SharedKeys :=
  { keys with entries := (key, value) :: keys.entries.filter fun entry => entry.1 ≠ key }

/-- The value of a key, empty if it was never set. -/
def get (keys : SharedKeys) (key : String) : String := (keys.entries.lookup key).getD ""

def count (keys : SharedKeys) : Nat := keys.entries.length

def isEmpty (keys : SharedKeys) : Bool := keys.entries.isEmpty

def setRecord (key : String) : Record where
  level := .debug
  source := .sharedKeys
  message := "SharedKeySet"
  fields := [("key", .bare key)]

def dropRecord : Record where
  level := .warn
  source := .sharedKeys
  message := "Dropping shared key response with no request waiting"

def deliver (keys : SharedKeys) (value : String) : Bool × SharedKeys :=
  let (accepted, slot) := keys.slot.deliver value
  (accepted, { keys with slot })

def deliverRecords (accepted : Bool) : List Record := if accepted then [] else [dropRecord]

/-- The database of one process and the number of requests that it has sent. -/
structure Line where
  keys : SharedKeys := {}
  sent : Nat := 0
  deriving DecidableEq, Repr

inductive Call where
  | set (key value : String)
  | get (key : String)
  | isEmpty
  | request
  | receive
  | deliver (value : String)
  deriving DecidableEq, Repr

inductive Answer where
  | set
  | value (value : String)
  | truth (value : Bool)
  deriving DecidableEq, Repr

def Call.move (call : Call) (line : Line) : Option (Move Line Call Answer) :=
  match call with
  | .set key value =>
    some { state := { line with keys := line.keys.set key value }, next := .inr .set,
           records := [setRecord key] }
  | .get key => some { state := line, next := .inr (.value (line.keys.get key)) }
  | .isEmpty => some { state := line, next := .inr (.truth line.keys.isEmpty) }
  | .request =>
    line.keys.slot.claim?.map fun slot =>
      { state := { keys := { line.keys with slot }, sent := line.sent + 1 },
        next := .inl .receive }
  | .receive =>
    line.keys.slot.take?.map fun (value, slot) =>
      { state := { line with keys := { line.keys with slot } }, next := .inr (.value value) }
  | .deliver value =>
    let (accepted, keys) := line.keys.deliver value
    some { state := { line with keys }, next := .inr (.truth accepted),
           records := deliverRecords accepted }

end SharedKeys

end Playback
