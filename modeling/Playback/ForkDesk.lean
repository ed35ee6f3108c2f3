import Playback.Crew
import Playback.ForkTable
import Playback.Monitor
import Playback.Network

set_option autoImplicit false

namespace Playback

/-- A table of forks whose processes are reached over channels to raw peers. -/
structure ForkDesk where
  table : ForkTable Nat := {}
  network : Network := {}
  deriving DecidableEq, Repr

/-- A process and its channel as they are shown in diagnostics. -/
def ForkedProcess.debugText (pid fork : UInt32) (channel : Channel) : String :=
  "ForkedProcess \x7b pid: " ++ toString pid.toNat ++ ", fork_id: " ++ toString fork.toNat ++
    ", channel: " ++ channel.debugText ++ " \x7d"

namespace ForkDesk

/-- The name of the peer that stands for a fork. -/
def peerName (fork : UInt32) : String := "f" ++ toString fork.toNat

inductive Call where
  | register (fork pid id : UInt32)
  | route (message : Message)
  | contains (fork : UInt32)
  | pidOf (fork : UInt32)
  | forkOfPid (pid : UInt32)
  | pending (fork : UInt32)
  | awaitRegistration (fork : UInt32) (deadline : Deadline)
  | hangUp (peer : String)
  | describe
  | isEmpty
  deriving DecidableEq, Repr

inductive Answer where
  | registered (text : String)
  | routed
  | truth (value : Bool)
  | number (number : Option UInt32)
  | count (count : Nat)
  | hungUp
  | text (text : String)
  deriving DecidableEq, Repr

def post (network : Network) (endpoint : Nat) (messages : List Message) : Network :=
  (network.mapChannel endpoint fun channel => messages.foldl Channel.send channel).pump endpoint

def Call.move (call : Call) (desk : ForkDesk) : Option (Move ForkDesk Call Answer) :=
  let table := desk.table
  let answer (answer : Answer) : Option (Move ForkDesk Call Answer) :=
    some { state := desk, next := .inr answer }
  match call with
  | .register fork pid id =>
    let (endpoint, network) :=
      desk.network.openPair id .replayRoot (desk.network.freshName (peerName fork))
    let (held, table) := table.register fork { pid, handle := endpoint }
    let text := ((network.channel? endpoint).map (ForkedProcess.debugText pid fork)).getD ""
    some { state := { table, network := post network endpoint held },
           next := .inr (.registered text),
           records := [ForkTable.registerRecord fork pid] }
  | .route message =>
    let (routed, table) := table.route message
    let network := match routed with
      | .held => desk.network
      | .sent endpoint _ => post desk.network endpoint [message]
    some { state := { table, network }, next := .inr .routed,
           records := ForkTable.routeRecords message routed }
  | .contains fork => answer (.truth (table.contains fork))
  | .pidOf fork => answer (.number (table.pid? fork))
  | .forkOfPid pid => answer (.number (table.forkOfPid? pid))
  | .pending fork => answer (.count (table.pendingFor fork).length)
  | .awaitRegistration fork deadline =>
    if table.contains fork then answer (.truth true)
    else if deadline = .past then answer (.truth false)
    else none
  | .hangUp name =>
    let network := match desk.network.peerIndex? name with
      | none => desk.network
      | some peer => desk.network.hangUp peer
    let closed := (List.range network.endpoints.length).foldl (fun network endpoint =>
      network.mapChannel endpoint fun channel => channel.receive.2) network
    some { state := { desk with network := closed }, next := .inr .hungUp }
  | .describe => answer (.text table.debugText)
  | .isEmpty => answer (.truth table.isEmpty)

end ForkDesk

end Playback
