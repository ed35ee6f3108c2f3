import Playback.Crew

set_option autoImplicit false

namespace Playback

/-- A slot for the response to one outstanding request. A caller claims the slot, sends its
request, and takes the response, which frees the slot for the next caller. -/
structure Slot (Response : Type) where
  /-- Somebody has claimed the slot and not yet taken a response. -/
  waiting : Bool := false
  response : Option Response := none
  deriving DecidableEq, Repr

namespace Slot

variable {Response : Type}

/-- Claims the slot, unless somebody else has. -/
def claim? (slot : Slot Response) : Option (Slot Response) :=
  if slot.waiting then none else some { waiting := true }

/-- Takes the response out and frees the slot. -/
def take? (slot : Slot Response) : Option (Response × Slot Response) :=
  slot.response.map fun response => (response, { waiting := false })

/-- A response is refused unless somebody waits and has none yet. -/
def deliver (slot : Slot Response) (response : Response) : Bool × Slot Response :=
  if slot.waiting && slot.response.isNone then (true, { slot with response := some response })
  else (false, slot)

/-- A slot and the requests that its claimants have sent. -/
structure Line (Response : Type) where
  slot : Slot Response := {}
  sent : List String := []

inductive Call (Response : Type) where
  /-- Claim the slot, send a request and wait for the response. -/
  | request (name : String)
  | receive
  | deliver (response : Response)

inductive Answer (Response : Type) where
  | response (response : Response)
  | delivered (accepted : Bool)

def Call.move (call : Call Response) (line : Line Response) :
    Option (Move (Line Response) (Call Response) (Answer Response)) :=
  match call with
  | .request name =>
    line.slot.claim?.map fun slot =>
      { state := { slot, sent := line.sent ++ [name] }, next := .inl .receive }
  | .receive =>
    line.slot.take?.map fun (response, slot) =>
      { state := { line with slot }, next := .inr (.response response) }
  | .deliver response =>
    let (accepted, slot) := line.slot.deliver response
    some { state := { line with slot }, next := .inr (.delivered accepted) }

end Slot

end Playback
