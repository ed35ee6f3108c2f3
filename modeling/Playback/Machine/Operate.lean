import Playback.Machine.Basic

set_option autoImplicit false

namespace Playback

namespace Thread

def push (thread : Thread) (next : Program) : Thread := { thread with todo := next ++ thread.todo }

def reply (thread : Thread) (value : Reply) : Thread := { thread with value }

end Thread

namespace Machine

/-- A new thread begins a program. -/
def start (machine : Machine) (thread : Thread) : Machine :=
  { machine with threads := machine.threads ++ [thread] }

/-- What an operation makes of the machine and of the thread that takes it. -/
abbrev Taken := Option (Machine × Thread)

/-- A channel over a new connected pair becomes the channel of a child. -/
def attach (machine : Machine) (member : Nat) (kind : ChannelKind) : Machine :=
  match machine.context? member with
  | none => machine
  | some context =>
    let name := machine.network.freshName ("c" ++ toString (machine.number member))
    let (endpoint, network) := machine.network.openPair context.config.channelId kind name
    ({ machine with network }.own endpoint member false).mapContext member fun context =>
      { context with channel := some endpoint }

/-- The actions that enter a fork into the table of its root. -/
def registering (fork pid : UInt32) (endpoint : Nat) : Program :=
  [.enterRead, .register fork pid endpoint, .leaveRead]

def openForkStream (machine : Machine) (thread : Thread) (fork pid : UInt32) : Taken :=
  let name := "c" ++ toString (machine.number thread.member) ++ ".f" ++ toString fork.toNat
  let (endpoint, network) := machine.network.openPair 0 .replayRoot (machine.network.freshName name)
  some ({ machine with network }.own endpoint thread.member true,
    thread.push [.register fork pid endpoint])

def link (machine : Machine) (thread : Thread) (number : Nat) (pid : UInt32) : Taken :=
  match (machine.find? thread.member number).bind fun far =>
      (machine.context? far).map fun context => (far, context) with
  | none => some (machine, thread.reply .unknownName)
  | some (far, context) =>
    let (near, end_, network) :=
      machine.network.openJoined 0 context.config.channelId .replayRoot .replayForked
    let joined := ({ machine with network }.own end_ far false).own near thread.member true
    some (joined.mapContext far fun context => { context with channel := some end_ },
      thread.push (registering context.fork pid near))

def folderOf (machine : Machine) (member : Nat) : String :=
  ((machine.context? member).map fun context => context.config.socketFolder).getD ""

def listen (machine : Machine) (thread : Thread) (pid id : UInt32) (peer : String) : Taken :=
  let path := socketPath (machine.folderOf thread.member) pid id
  match machine.network.listen path (.peer machine.network.peers.length) with
  | (.ok (), network) =>
    some ({ machine with network := (network.addPeer { name := peer }).2 }, thread.reply .done)
  | (.error fault, network) =>
    some ({ machine with network }, thread.reply (.failed (.io fault)))

/-- Connects to a socket file, and waits for as long as nobody listens there. What the other
end has queued already comes through at once. -/
def connect (machine : Machine) (thread : Thread) (id : UInt32) (kind : ChannelKind)
    (path : String) (connected : Machine → Nat → Machine × Thread) : Taken :=
  match machine.network.openConnecting id kind path with
  | .ok (endpoint, network) => some (connected { machine with network := network.pumpAll } endpoint)
  | .error fault =>
    if Network.maySucceedLater fault then none
    else some (machine, thread.reply (.failed (.io fault)))

def connectMiddleman (machine : Machine) (thread : Thread) (introduced : Bool) : Taken :=
  match machine.context? thread.member with
  | none => none
  | some { config, .. } =>
    let path := socketPath config.socketFolder config.middlemanPid config.channelId
    connect machine thread config.channelId .recordReplay path fun machine endpoint =>
      ((machine.own endpoint thread.member false).mapContext thread.member fun context =>
        { context with channel := some endpoint },
      thread.push (if introduced then [.awaitIntroduction, .awaitFirst] else [.answer .done]))

def connectFork (machine : Machine) (thread : Thread) (pid fork : UInt32) : Taken :=
  let path := socketPath (machine.folderOf thread.member) pid 0
  connect machine thread 0 .replayRoot path fun machine endpoint =>
    (machine.own endpoint thread.member true, thread.push [.register fork pid endpoint])

def pipe? (machine : Machine) (member : Nat) : Option Nat :=
  (machine.context? member).bind Context.pipe

/-- The thread that waits for new forks and connects to them. -/
def startForkListener (machine : Machine) (thread : Thread) : Taken :=
  match machine.pipe? thread.member with
  | none => some (machine, thread.reply (.failed (.wrongRole .forkListener)))
  | some _ =>
    let listener : Thread := { member := thread.member, todo := [.outside .awaitAnnouncement] }
    some (machine.start listener, thread.reply .done)

def awaitAnnouncement (machine : Machine) (thread : Thread) : Taken :=
  match machine.pipe? thread.member with
  | none => none
  | some pipe =>
    match machine.pipes[pipe]? with
    | some (first :: rest) =>
      some ({ machine with pipes := machine.pipes.set pipe rest },
        thread.push
          [.enterRead, .outside (.connectFork first.pid first.fork), .leaveRead,
            .outside .awaitAnnouncement])
    | _ => none

/-- The child of a new process before it has a channel of its own: none of the threads that held
the lock and none of the manifests that waited exist there. -/
def adrift (context : Context) (fork : UInt32) : Context :=
  { context with
    fork
    lock := context.lock.reset
    manifests := context.manifests.clearPending }

/-- The child of a new process. -/
def forked (context : Context) (fork : UInt32) (endpoint : Nat) : Context :=
  { adrift context fork with channel := some endpoint }

/-- The copies of a process and its children. Only the calling child is a new one. -/
def copies (machine : Machine) (member : Nat) (child : Context → Context) : List Member :=
  let process := machine.processOf member
  (machine.members.zipIdx.filter fun (one, _) => one.process = process).map fun (one, index) =>
    { one with
      process := machine.processes.length
      context := if index = member then child one.context else one.context }

/-- Duplicates the process of a child, without its threads. The copy of this child leads the new
process. -/
def split (machine : Machine) (member : Nat) (pid : UInt32) (child : Context → Context) :
    Option (Nat × Machine) := do
  let process ← machine.processes[machine.processOf member]?
  let copied := machine.copies member child
  let position ← copied.findIdx? fun one => one.number = machine.number member
  let leader := machine.members.length + position
  let twin : Process :=
    { process with pid, parent := machine.processOf member, leader := some leader }
  return (leader,
    { machine with
      members := machine.members ++ copied
      processes := machine.processes ++ [twin] })

/-- Starts the observer of a child again in a new process. Until then its signals are heard where
the process was copied from. -/
def restartObserver (machine : Machine) (leader : Nat) (observer : Observer) : Machine :=
  match observer with
  | .signals =>
    machine.mapProcess (machine.processOf leader) fun one => { one with hears := some leader }
  | .nobody | .handler => machine

/-- The main thread of a new process, which goes on with what its parent was doing. -/
def heir (leader : Nat) (todo : Program) : Thread where
  member := leader
  main := true
  todo := todo ++ [.serve]

/-- Duplicates the process of a child. The new child listens, hears of its own signals if it
had an observer, announces itself, and goes on with the program as the main thread. If it cannot
listen, it goes on with the error and nobody hears of it. The parent learns of neither. -/
def duplicate (machine : Machine) (thread : Thread) (fork : UInt32) (awaited : Bool) : Taken := do
  let context ← machine.context? thread.member
  let pid := UInt32.ofNat (firstPid + machine.processes.length)
  let goesOn := thread.push
    [.releaseWrite, if awaited then .awaitRegistration fork pid else .answer .parent]
  match machine.network.openListening 0 .replayForked
      (socketPath context.config.socketFolder pid 0) with
  | (.error fault, network) =>
    let (leader, made) ← { machine with network }.split thread.member pid (adrift · fork)
    some (made.start (heir leader (.answer (.failed (.io fault)) :: thread.todo)), goesOn)
  | (.ok endpoint, network) =>
    let (leader, made) ← { machine with network }.split thread.member pid (forked · fork endpoint)
    let pipes := match context.pipe with
      | some pipe => machine.pipes.modify pipe (· ++ [{ pid := pid, fork := fork }])
      | none => machine.pipes
    let announced := { made.restartObserver leader context.observer with pipes }
    some ((announced.start (heir leader thread.todo)).own endpoint leader false, goesOn)

/-- Waits for the oldest process that a process has made. A process that nobody connects to
gives up in the end. -/
def reap (machine : Machine) (thread : Thread) : Taken := do
  let parent := machine.processOf thread.member
  let index ← machine.processes.findIdx? fun one =>
    one.leader.isSome && one.parent = parent && !one.reaped
  let one ← machine.processes[index]?
  let gone (machine : Machine) (exit : Exit) : Machine × Thread :=
    (machine.mapProcess index fun one => { one with reaped := true },
      thread.reply (.exited exit.normally exit.code))
  match one.exit with
  | some exit => some (gone machine exit)
  | none =>
    if (one.leader.bind machine.channelOf?).any Channel.misses then
      let exit : Exit := { normally := true }
      some (gone (machine.endProcess index exit) exit)
    else none

/-- The signal by which a process means to end itself. -/
def abortSignal : Int32 := 6

/-- The next thing that arrives at an endpoint is handled before anything that comes after it.
Behind a frame that cannot be read nothing is handled, whether or not the process goes on. -/
def receive (machine : Machine) (thread : Thread) (endpoint : Nat) : Taken := do
  let channel ← machine.network.channel? endpoint
  let context ← machine.context? thread.member
  let (received, network) := machine.network.receive endpoint
  let read := { machine with network }
  match received with
  | .nothing => none
  | .message message =>
    let ofFork := machine.owners.any fun owner => owner.endpoint = endpoint && owner.ofFork
    some (read, thread.push
      [if ofFork then .handleFork message else .handle message, .outside (.receive endpoint)])
  | .disconnected =>
    if channel.kind.exitsOnDisconnect then
      some (read.apply thread.member context.terminate, thread)
    else some (read, thread)
  | .corrupt _ =>
    some (machine.fault (machine.processOf thread.member) { signal := abortSignal, address := 0 },
      thread)

/-- Somebody has read all whole frames that have arrived at an endpoint, and waits for more. -/
def awaitsMore (machine : Machine) (endpoint : Nat) : Bool :=
  (machine.threads.any fun thread =>
    match thread.todo with
    | .outside (.receive one) :: _ => one = endpoint
    | _ => false) &&
  (machine.network.channel? endpoint).any fun channel => cut channel.arrived = .waiting

/-- A peer begins to write once it is done with what it wrote before. -/
def deliver (machine : Machine) (thread : Thread) (name : String) (bytes : Bytes) : Taken :=
  match machine.network.peerIndex? name with
  | none => some (machine, thread.reply .unknownName)
  | some index =>
    if (machine.network.peers[index]?).any Peer.writing then none
    else
      match machine.network.checkWrite index bytes with
      | .error (.defect error) => some (machine, thread.reply (.defect error))
      | .error (.io fault) => some (machine, thread.reply (.fault fault))
      | .ok network =>
        let network := network.mapPeer index fun peer => { peer with writing := true }
        some ({ machine with network }, thread.push [.outside (.pour index bytes)])

/-- A peer goes on to write, piece by piece, and waits for as long as its connection has no
room. -/
def pour (machine : Machine) (thread : Thread) (index : Nat) (bytes : Bytes) : Taken :=
  let ended (value : Reply) : Taken :=
    let network := machine.network.mapPeer index fun peer => { peer with writing := false }
    some ({ machine with network }, thread.reply value)
  match bytes, machine.network.peers[index]? with
  | [], _ | _, none => ended .written
  | _, some { writes := false, .. } => ended (.fault .brokenPipe)
  | _, some { far := .channel endpoint, .. } =>
    let room := (machine.network.channel? endpoint).all Channel.hasRoom
    if room || machine.awaitsMore endpoint then
      let network := machine.network.mapChannel endpoint fun channel =>
        channel.arrivePiece (bytes.take Channel.pieceSize)
      some ({ machine with network },
        thread.push [.outside (.pour index (bytes.drop Channel.pieceSize))])
    else none
  | _, _ => ended .written

def hangUp (machine : Machine) (thread : Thread) (peer : String) : Taken :=
  match machine.network.peerIndex? peer with
  | none => some (machine, thread.reply .unknownName)
  | some index =>
    some ({ machine with network := machine.network.hangUp index }, thread.reply .hungUp)

def describe (machine : Machine) (thread : Thread) : Taken :=
  (machine.context? thread.member).map fun context =>
    let connected := (machine.channelOf? thread.member).map Channel.connected
    (machine, thread.reply (.description (context.debugText connected)))

/-- Signals that a process is not let to observe: those that always end or stop it, those of
the threads, and numbers of no signal. -/
def isObservable (signal : Int) : Bool :=
  0 < signal && signal ≤ 64 && !([9, 19, 32, 33].contains signal)

/-- Bad addresses, bad memory, bad instructions and bad arithmetic. -/
def defaultSignals : List Int := [11, 7, 4, 8]

/-- Starts the observer of a process. The signals before the first that cannot be observed are
observed even so. -/
def observeSignals (machine : Machine) (thread : Thread) (signals : List Int) : Taken := do
  let process ← machine.processes[machine.processOf thread.member]?
  if process.observing then
    let failure := Failure.io .observerRunning
    return (machine, thread.reply (.observing { before := true, failure, after := true }))
  let observed := machine.mapProcess (machine.processOf thread.member) fun one =>
    { one with
      observing := true
      signals := one.signals ++ signals.takeWhile isObservable
      hears := some thread.member }
  if signals.all isObservable then
    return (observed.mapContext thread.member fun context => { context with observer := .signals },
      thread.reply (.observing { before := false, failure := none, after := true }))
  let failure := Failure.io .uncatchableSignal
  return (observed, thread.reply (.observing { before := false, failure, after := true }))

/-- The signal of a read from an address that is not mapped. -/
def badAddress : Int32 := 11

def raise (machine : Machine) (thread : Thread) (fault : Fault) : Taken :=
  some (machine.fault (machine.processOf thread.member) fault, thread.reply .done)

def enter (machine : Machine) (thread : Thread) (number : Nat) : Taken :=
  match machine.find? thread.member number with
  | some member => some (machine, { thread with member })
  | none => some (machine, thread)

def installed? (machine : Machine) (member : Nat) : Option Nat :=
  (machine.processes[machine.processOf member]?).bind Process.installed

def setInstalled (machine : Machine) (thread : Thread) (installed : Option Nat) : Taken :=
  some (machine.mapProcess (machine.processOf thread.member) fun one => { one with installed },
    thread.reply .done)

/-- Status codes of the calls that name no child. -/
def succeeded : Int := 0
def nullText : Int := -1
def nobodyInstalled : Int := -2

/-- Takes an action on a text in the installed child. -/
def onInstalled (machine : Machine) (thread : Thread) (text : Option Bytes)
    (action : String → Action) : Taken :=
  match text, machine.installed? thread.member with
  | none, _ => some (machine, thread.reply (.status nullText))
  | some _, none => some (machine, thread.reply (.status nobodyInstalled))
  | some text, some number =>
    some (machine, thread.push
      [.outside (.enter number), action (Utf8.decodeLossy text),
        .outside (.enter (machine.number thread.member)), .answer (.status succeeded)])

def installedContext? (machine : Machine) (member : Nat) : Option Context :=
  ((machine.installed? member).bind (machine.find? member)).bind machine.context?

/-- The fork id that stands for no installed child. -/
def noForkId : UInt32 := 0xFFFFFFFF

/-- The operation is done, or has to wait. -/
def operate (machine : Machine) (thread : Thread) : Operation → Taken
  | .attach kind => some (machine.attach thread.member kind, thread.reply .done)
  | .openForkStream fork pid => machine.openForkStream thread fork pid
  | .link child pid => machine.link thread child pid
  | .listen pid id peer => machine.listen thread pid id peer
  | .connectMiddleman introduced => machine.connectMiddleman thread introduced
  | .connectFork pid fork => machine.connectFork thread pid fork
  | .startForkListener => machine.startForkListener thread
  | .awaitAnnouncement => machine.awaitAnnouncement thread
  | .duplicate fork awaited => machine.duplicate thread fork awaited
  | .reap => machine.reap thread
  | .receive endpoint => machine.receive thread endpoint
  | .deliver peer bytes => machine.deliver thread peer bytes
  | .pour peer bytes => machine.pour thread peer bytes
  | .hangUp peer => machine.hangUp thread peer
  | .describe => machine.describe thread
  | .observeSignals signals => machine.observeSignals thread signals
  | .raise signal => machine.raise thread { signal := Int32.ofInt signal, address := 0 }
  | .touch address => machine.raise thread { signal := badAddress, address }
  | .enter child => machine.enter thread child
  | .install => machine.setInstalled thread (some (machine.number thread.member))
  | .uninstall => machine.setInstalled thread none
  | .reportInstalled text => machine.onInstalled thread text .sendFatal
  | .noteInstalled text => machine.onInstalled thread text .setNote
  | .installedForkId =>
    let fork := (machine.installedContext? thread.member).map Context.fork
    some (machine, thread.reply (.forkId (fork.getD noForkId)))
  | .installedFork =>
    some (machine,
      thread.reply (.installed ((machine.installedContext? thread.member).map Context.fork)))

end Machine

end Playback
