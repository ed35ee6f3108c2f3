import Playback.Context.Program
import Playback.Machine.Run

set_option autoImplicit false

namespace Playback.Demo.Script

/-- Runs a program in a child until nothing more happens. -/
def run (machine : Machine) (member : Nat) (todo : Program) : Machine :=
  (machine.submit { member, todo }).1

/-- Runs a program on the main thread of a child. -/
def runMain (machine : Machine) (member : Nat) (todo : Program) : Machine :=
  (machine.submit { member, main := true, todo }).1

/-- Lets a peer write messages, one after another. -/
def deliverAll (machine : Machine) (member : Nat) (peer : String) (messages : List Message) :
    Machine :=
  messages.foldl (fun machine message =>
    run machine member (Program.deliverMessage peer message)) machine

/-- The messages that have come out at a peer. -/
def heard (machine : Machine) (peer : String) : List Message :=
  match machine.network.peers.find? fun one => one.name = peer with
  | none => []
  | some one => (Network.frames one.heard).filterMap fun frame => (Message.decode frame).toOption

/-- The output of a finished manifest. -/
def finishedText? (message : Message) : Option String :=
  if message.kind = .manifestFinished then message.data?.map Utf8.decodeLossy else none

end Playback.Demo.Script
