import Playback.Context.Step
import Playback.Network

set_option autoImplicit false

/- A machine that runs children: the processes that hold them, the threads in them, and the
network between them. A thread may only post on the endpoints of its own child; handles that a
process has copied from another lead nowhere. -/
namespace Playback

structure Thread where
  /-- The child that the thread runs in. -/
  member : Nat
  /-- It is the main thread of the host. -/
  main : Bool := false
  todo : Program
  value : Reply := .done
  records : List Record := []
  /-- The number by which whoever started it knows it. -/
  ticket : Option Nat := none

/-- A child in its process. A duplicate bears the number of what it was copied from. -/
structure Member where
  number : Nat
  process : Nat := 0
  context : Context

structure Exit where
  normally : Bool
  code : Nat := 0
  deriving DecidableEq, Repr

structure Process where
  pid : UInt32
  parent : Nat := 0
  /-- The duplicated child that runs the process. -/
  leader : Option Nat := none
  /-- An observer of signals was started. -/
  observing : Bool := false
  signals : List Int := []
  /-- The child that hears of signals. -/
  hears : Option Nat := none
  /-- The number of the child that callers without a handle reach. -/
  installed : Option Nat := none
  exit : Option Exit := none
  reaped : Bool := false
  deriving DecidableEq, Repr

/-- Who receives from an endpoint, and whether it leads to a fork. -/
structure Owner where
  endpoint : Nat
  member : Nat
  ofFork : Bool
  deriving DecidableEq, Repr

structure Machine where
  members : List Member := []
  /-- The first process is the one that steps are called in. -/
  processes : List Process := [{ pid := 0 }]
  network : Network := {}
  owners : List Owner := []
  /-- Announcements that nobody has read yet, pipe by pipe. -/
  pipes : List (List Announcement) := []
  /-- Threads that are not done, longest at rest first. -/
  threads : List Thread := []
  /-- The signal that has killed the first process. -/
  killed : Option Int := none

namespace Machine

/-- Process numbers of duplicates start behind all that a caller can name. -/
def firstPid : Nat := 4194305

def context? (machine : Machine) (member : Nat) : Option Context :=
  machine.members[member]?.map Member.context

def mapContext (machine : Machine) (member : Nat) (change : Context → Context) : Machine :=
  { machine with members := machine.members.modify member fun one =>
      { one with context := change one.context } }

def processOf (machine : Machine) (member : Nat) : Nat :=
  (machine.members[member]?.map Member.process).getD 0

def mapProcess (machine : Machine) (process : Nat) (change : Process → Process) : Machine :=
  { machine with processes := machine.processes.modify process change }

/-- The child of a number in the process of another. -/
def find? (machine : Machine) (member number : Nat) : Option Nat :=
  let process := machine.processOf member
  machine.members.findIdx? fun one => one.process = process && one.number = number

def number (machine : Machine) (member : Nat) : Nat :=
  (machine.members[member]?.map Member.number).getD member

def channelOf? (machine : Machine) (member : Nat) : Option Channel :=
  ((machine.context? member).bind Context.channel).bind machine.network.channel?

/-- Gives an endpoint to a child, which starts to receive from it. -/
def own (machine : Machine) (endpoint member : Nat) (ofFork : Bool) : Machine :=
  { machine with
    owners := machine.owners ++ [{ endpoint, member, ofFork }]
    threads := machine.threads ++ [{ member, todo := [.outside (.receive endpoint)] }] }

def owns (machine : Machine) (member endpoint : Nat) : Bool :=
  machine.owners.any fun owner => owner.endpoint = endpoint && owner.member = member

def post (machine : Machine) (member endpoint : Nat) (change : Channel → Channel) : Machine :=
  if machine.owns member endpoint then
    { machine with network := (machine.network.mapChannel endpoint change).pump endpoint }
  else machine

/-- Ends an endpoint with its process: the other end finds it closed. -/
def abandon (network : Network) (endpoint : Nat) : Network :=
  let left := network.mapChannel endpoint Channel.disconnect
  match (network.endpoint? endpoint).map Endpoint.far with
  | some (.channel far) => left.mapChannel far Channel.hangUp
  | _ => left

/-- Ends a process: its threads are gone and its endpoints are closed. -/
def endProcess (machine : Machine) (process : Nat) (exit : Exit) : Machine :=
  let inside (member : Nat) : Bool := machine.processOf member = process
  let endpoints := (machine.owners.filter fun owner => inside owner.member).map Owner.endpoint
  { machine.mapProcess process (fun one => { one with exit := some exit }) with
    threads := machine.threads.filter fun thread => !inside thread.member
    network := endpoints.foldl abandon machine.network }

/-- The first process outlives the exit of its children; its host decides when to go. -/
def terminate (machine : Machine) (member : Nat) : Machine :=
  match machine.processOf member with
  | 0 => machine
  | process => machine.endProcess process { normally := true }

def perform (machine : Machine) (member : Nat) : Effect → Machine
  | .send endpoint message => machine.post member endpoint fun channel => channel.send message
  | .sendEncoded endpoint frame =>
    machine.post member endpoint fun channel => channel.sendEncoded frame
  | .write path contents =>
    match machine.network.disk.write path contents with
    | .ok disk => { machine with network := { machine.network with disk } }
    | .error _ => machine
  | .terminate => machine.terminate member

/-- Takes over what an action has done to a child and beyond it. -/
def apply (machine : Machine) (member : Nat) (outcome : Outcome) : Machine :=
  outcome.effects.foldl (fun machine effect => machine.perform member effect)
    (machine.mapContext member fun _ => outcome.context)

/-- A signal that nobody observes kills its process. -/
def kill (machine : Machine) (process : Nat) (signal : Int) : Machine :=
  match process with
  | 0 => { machine with killed := some signal }
  | process => machine.endProcess process { normally := false }

/-- The observer of a process reports a fault, unless there is none. -/
def fault (machine : Machine) (process : Nat) (fault : Fault) : Machine :=
  let signal := fault.signal.toInt
  match machine.processes[process]? with
  | none => machine
  | some one =>
    if one.signals.contains signal then
      match one.hears with
      | none => machine
      | some member =>
        match machine.context? member with
        | none => machine
        | some context => machine.apply member (context.reportCrash fault)
    else machine.kill process signal

end Machine

end Playback
