import Playback.Context.Basic

set_option autoImplicit false

namespace Playback.Program

/-- A program that comes to nothing but its end. -/
def quietly (program : Program) : Program := program ++ [.answer .done]

/-- A message from the middleman or the root has arrived. -/
def handle (message : Message) : Program := quietly [.handle message]

/-- A message from a fork has arrived. -/
def handleFork (message : Message) : Program := quietly [.handleFork message]

/-- The whole bytes of a message, written by a peer. -/
def deliverMessage (peer : String) (message : Message) : Program :=
  match message.encode with
  | .ok frame => [.outside (.deliver peer frame)]
  | .error error => [.answer (.defect error)]

/-- A fork is entered into the table, reached over a stream that stands already. -/
def registerStream (fork pid : UInt32) : Program :=
  [.enterRead, .outside (.openForkStream fork pid), .leaveRead]

/-- A fork is entered into the table once it is connected. -/
def connectFork (pid fork : UInt32) : Program :=
  [.enterRead, .outside (.connectFork pid fork), .leaveRead]

/-- The manifest that is being processed is finished from outside. -/
def finishManifest (output : Bytes) (bulk : Bool) : Program :=
  quietly [.sendFinished output bulk, .finishManifest]

/-- The output of an external call, which is performed here if nobody knows it. -/
def externalCall (id : CallId) (input performed : Bytes) : Program :=
  [.lookupCall id input, .performUnlessKnown id input performed]

/-- A program of another child, from which the thread comes back. -/
def elsewhere (there back : Nat) (program : Program) : Program :=
  [.outside (.enter there)] ++ program ++ [.outside (.enter back)]

end Playback.Program
