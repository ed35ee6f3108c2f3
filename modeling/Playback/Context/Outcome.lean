import Playback.Context.Basic

set_option autoImplicit false

namespace Playback

/-- What an action does beyond the state of its child. -/
inductive Effect where
  | send (endpoint : Nat) (message : Message)
  | sendEncoded (endpoint : Nat) (frame : Bytes)
  | write (path : String) (contents : Bytes)
  /-- The process has nothing more to do and ends. -/
  | terminate
  deriving DecidableEq, Repr

/-- What one action does to a child and beyond it. -/
structure Outcome where
  context : Context
  effects : List Effect := []
  records : List Record := []
  /-- Actions to be taken before the rest of the program. -/
  next : Program := []
  /-- A new value of the program, if it changes. -/
  value : Option Reply := none

namespace Context

def record (level : Level) (message : String) (fields : List (String × FieldValue)) :
    Record where
  level := level
  source := .context
  message := message
  fields := fields

def kindField (message : Message) : String × FieldValue := ("kind", .text message.kind.name)

def forkField (fork : UInt32) : String × FieldValue := ("fork", .number fork.toNat)

/-- Nothing changes but the value. -/
def answering (context : Context) (reply : Reply) : Outcome where
  context := context
  value := some reply

/-- Nothing changes yet. -/
def followedBy (context : Context) (next : Program) : Outcome where
  context := context
  next := next

/-- The child exits, and its host is told. -/
def terminate (context : Context) : Outcome where
  context := { context with exiting := true }.tell .terminate
  effects := [.terminate]

/-- A message on the main thread of a paused child breaks the rule on send directions; it is
sent nonetheless. -/
def sendRecords (context : Context) (main : Bool) (message : Message) : List Record :=
  (if main && !message.kind.maySend .fromChild context.isPaused then
    [record .warn "Message sent to middleman while paused" [kindField message]] else []) ++
  (if context.channel.isNone then
    [record .warn "No channel, dropping message" [kindField message]] else [])

def sendEffects (context : Context) (message : Message) : List Effect :=
  match context.channel with
  | some endpoint => [.send endpoint message]
  | none => []

/-- Sends a message on the channel of the child. -/
def send (context : Context) (main : Bool) (message : Message) : Outcome where
  context := context
  effects := context.sendEffects message
  records := context.sendRecords main message

/-- Hands a message to the fork that it is for, or holds it. -/
def route (context : Context) (message : Message) : Outcome :=
  let (routed, forks) := context.forks.route message
  { context := { context with forks }
    effects := match routed with
      | .sent endpoint _ => [.send endpoint message]
      | .held => []
    records := ForkTable.routeRecords message routed }

/-- Enters a fork into the table, with the endpoint that leads to it. -/
def register (context : Context) (fork pid : UInt32) (endpoint : Nat) : Outcome :=
  let (held, forks) := context.forks.register fork { pid, handle := endpoint }
  { context := { context with forks }
    effects := held.map (.send endpoint)
    records := [ForkTable.registerRecord fork pid]
    value := some .done }

end Context

end Playback
