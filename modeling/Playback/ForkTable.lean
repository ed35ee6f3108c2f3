import Playback.Message.Basic
import Playback.Record

set_option autoImplicit false

namespace Playback

/-- A process that runs a fork, and the handle through which it is reached. -/
structure ForkedProcess (Handle : Type) where
  pid : UInt32
  handle : Handle
  deriving DecidableEq, Repr

/-- The forks of a root. A message for a fork goes to the process that is registered for it, or
is held until one registers, which then gets all that was held in order. A message that ends a
process also takes it off the table. -/
structure ForkTable (Handle : Type) where
  /-- At most one process for a fork. -/
  processes : List (UInt32 × ForkedProcess Handle) := []
  /-- Messages for forks that are not registered, in the order in which they came. -/
  pending : List Message := []
  deriving DecidableEq, Repr

/-- What becomes of a routed message. -/
inductive Routed (Handle : Type) where
  | held
  | sent (handle : Handle) (removed : Bool)
  deriving DecidableEq, Repr

namespace ForkTable

variable {Handle : Type}

def process? (table : ForkTable Handle) (fork : UInt32) : Option (ForkedProcess Handle) :=
  table.processes.lookup fork

def contains (table : ForkTable Handle) (fork : UInt32) : Bool := (table.process? fork).isSome

def pid? (table : ForkTable Handle) (fork : UInt32) : Option UInt32 :=
  (table.process? fork).map ForkedProcess.pid

/-- The fork that a process runs. -/
def forkOfPid? (table : ForkTable Handle) (pid : UInt32) : Option UInt32 :=
  (table.processes.find? fun entry => entry.2.pid = pid).map Prod.fst

def count (table : ForkTable Handle) : Nat := table.processes.length

def isEmpty (table : ForkTable Handle) : Bool := table.processes.isEmpty

def pendingFor (table : ForkTable Handle) (fork : UInt32) : List Message :=
  table.pending.filter fun message => message.fork = fork

def remove (table : ForkTable Handle) (fork : UInt32) : ForkTable Handle :=
  { table with processes := table.processes.filter fun entry => entry.1 ≠ fork }

/-- Takes the messages for a fork out of a list, from a position on and in place, and gives them
and what is left of the list. -/
def takeHeld (fork : UInt32) (pending : List Message) (position : Nat) :
    List Message × List Message :=
  if inside : position < pending.length then
    if pending[position].fork = fork then
      let behind := takeHeld fork (pending.eraseIdx position) position
      (pending[position] :: behind.1, behind.2)
    else takeHeld fork pending (position + 1)
  else ([], pending)
termination_by pending.length - position
decreasing_by
  · rw [List.length_eraseIdx_of_lt inside]
    omega
  · omega

/-- The table with a process in place of any other for the fork, and the messages that were
held for it. -/
def register (table : ForkTable Handle) (fork : UInt32) (process : ForkedProcess Handle) :
    List Message × ForkTable Handle :=
  let (held, pending) := takeHeld fork table.pending 0
  (held, { processes := (table.remove fork).processes ++ [(fork, process)], pending })

def endsProcess (message : Message) : Bool :=
  message.kind = .terminate || message.kind = .crash

def route (table : ForkTable Handle) (message : Message) : Routed Handle × ForkTable Handle :=
  match table.process? message.fork with
  | none => (.held, { table with pending := table.pending ++ [message] })
  | some process =>
    if endsProcess message then (.sent process.handle true, table.remove message.fork)
    else (.sent process.handle false, table)

def forkField (fork : UInt32) : String × FieldValue := ("fork", .number fork.toNat)

def registerRecord (fork pid : UInt32) : Record where
  level := .info
  source := .forks
  message := "ConnectedToFork"
  fields := [forkField fork, ("pid", .number pid.toNat)]

def routeRecords (message : Message) : Routed Handle → List Record
  | .held =>
    [{ level := .debug, source := .forks, message := "HoldForkMessage",
       fields := [forkField message.fork, ("kind", .text message.kind.name)] }]
  | .sent _ true =>
    [{ level := .info, source := .forks, message := "RemovedFork",
       fields := [forkField message.fork] }]
  | .sent _ false => []

def debugText (table : ForkTable Handle) : String :=
  "ForkTable \x7b registered: " ++ toString table.count ++ ", .. \x7d"

end ForkTable

end Playback
