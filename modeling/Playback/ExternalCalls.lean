import Playback.Bytes
import Playback.Slot

set_option autoImplicit false

namespace Playback

/-- Call ids are not zero, which stands on the wire for an output that is not known. -/
structure CallId where
  number : UInt64
  nonzero : number ≠ 0
  deriving DecidableEq, Repr

def CallId.ofNumber? (number : UInt64) : Option CallId :=
  if nonzero : number ≠ 0 then some { number, nonzero } else none

/-- The number that stands for a call id, or for none, on the wire. -/
def CallId.tag : Option CallId → UInt64
  | some id => id.number
  | none => 0

inductive CallOutput where
  | available (output : Bytes)
  | unavailable
  deriving DecidableEq, Repr

/-- What happens to an output on its way into the cache. -/
inductive Stored where
  | new
  | same
  | different
  deriving DecidableEq, Repr

/-- Outputs that are known so far, and requests for the others. Outputs are requested one at a time.
The first output that is stored for a call stays. -/
structure ExternalCalls where
  /-- At most one output for a call. -/
  cache : List (CallId × Bytes) := []
  /-- Responses name the call whose output they carry, or none. -/
  slot : Slot (Option CallId × Bytes) := {}
  deriving DecidableEq, Repr

namespace ExternalCalls

def output? (calls : ExternalCalls) (id : CallId) : Option Bytes := calls.cache.lookup id

def contains (calls : ExternalCalls) (id : CallId) : Bool := (calls.output? id).isSome

def isEmpty (calls : ExternalCalls) : Bool := calls.cache.isEmpty

def stored (calls : ExternalCalls) (id : CallId) (output : Bytes) : Stored :=
  match calls.output? id with
  | none => .new
  | some known => if known = output then .same else .different

/-- Adds the output of a call for which none is stored. -/
def insert (calls : ExternalCalls) (id : CallId) (output : Bytes) : ExternalCalls :=
  if (calls.output? id).isSome then calls
  else { calls with cache := calls.cache ++ [(id, output)] }

def callRecord (level : Level) (message : String) (fields : List (String × FieldValue)) :
    Record where
  level := level
  source := .externalCalls
  message := message
  fields := fields

def idField (id : CallId) : String × FieldValue := ("id", .number id.number.toNat)

def insertRecords (calls : ExternalCalls) (id : CallId) (output : Bytes) : List Record :=
  match calls.stored id output with
  | .new =>
    [callRecord .debug "AddExternalCallOutput" [idField id, ("len", .number output.length)]]
  | .same => []
  | .different =>
    [callRecord .warn "Ignoring different output for cached external call" [idField id]]

def deliver (calls : ExternalCalls) (id : Option CallId) (output : Bytes) :
    Bool × ExternalCalls :=
  let (accepted, slot) := calls.slot.deliver (id, output)
  (accepted, { calls with slot })

def deliverRecords (accepted : Bool) (id : Option CallId) : List Record :=
  if accepted then []
  else
    [callRecord .warn "Dropping external call response with no request waiting"
      [("id", .number (CallId.tag id).toNat)]]

/-- What is logged when a response is taken for a request. -/
def responseRecords (id : CallId) (tag : Option CallId) : List Record :=
  match tag with
  | none => [callRecord .debug "ExternalCallUnavailable" [idField id]]
  | some tag =>
    if tag = id then []
    else
      [callRecord .warn "External call response does not match request"
        [idField id, ("tag", .number tag.number.toNat)]]

/-- The calls of one process and the ids that it has requested. -/
structure Line where
  calls : ExternalCalls := {}
  sent : List CallId := []
  deriving DecidableEq, Repr

inductive Call where
  | insert (id : CallId) (output : Bytes)
  | lookup (id : CallId)
  | contains (id : CallId)
  | isEmpty
  | request (id : CallId)
  /-- Claim the slot and send the request. -/
  | send (id : CallId)
  | receive (id : CallId)
  /-- Store the output of a response and hand it to the caller. -/
  | keep (id : CallId) (output : Bytes)
  | deliver (id : Option CallId) (output : Bytes)
  deriving DecidableEq, Repr

inductive Answer where
  | truth (value : Bool)
  | known (output : Option Bytes)
  | output (output : CallOutput)
  deriving DecidableEq, Repr

/-- The cache is looked at once, before the request waits for the slot. -/
def Call.move (call : Call) (line : Line) : Option (Move Line Call Answer) :=
  let calls := line.calls
  match call with
  | .insert id output =>
    some { state := { line with calls := calls.insert id output },
           next := .inr (.truth (calls.stored id output = .new)),
           records := calls.insertRecords id output }
  | .lookup id => some { state := line, next := .inr (.known (calls.output? id)) }
  | .contains id => some { state := line, next := .inr (.truth (calls.contains id)) }
  | .isEmpty => some { state := line, next := .inr (.truth calls.isEmpty) }
  | .request id =>
    match calls.output? id with
    | some output => some { state := line, next := .inr (.output (.available output)) }
    | none => some { state := line, next := .inl (.send id) }
  | .send id =>
    calls.slot.claim?.map fun slot =>
      { state := { calls := { calls with slot }, sent := line.sent ++ [id] },
        next := .inl (.receive id) }
  | .receive id =>
    calls.slot.take?.map fun ((tag, output), slot) =>
      { state := { line with calls := { calls with slot } },
        next :=
          match tag with
          | none => .inr (.output .unavailable)
          | some _ => .inl (.keep id output),
        records := responseRecords id tag }
  | .keep id output =>
    some { state := { line with calls := calls.insert id output },
           next := .inr (.output (.available output)),
           records := calls.insertRecords id output }
  | .deliver id output =>
    let (accepted, calls) := calls.deliver id output
    some { state := { line with calls }, next := .inr (.truth accepted),
           records := deliverRecords accepted id }

end ExternalCalls

end Playback
