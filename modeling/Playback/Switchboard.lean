import Playback.Monitor
import Playback.Network

set_option autoImplicit false

namespace Playback

/-- A channel under its name, with what it has received since the last look. -/
structure Line where
  name : String
  endpoint : Nat
  got : List Message := []
  /-- How often the process was told to exit because of this channel. -/
  exits : Nat := 0
  deriving DecidableEq, Repr

/-- Named channels of one process whose messages are collected, and the raw peers of the same
names. A frame that cannot be read ends the process. -/
structure Switchboard where
  /-- The folder of all socket files. -/
  folder : String
  network : Network
  lines : List Line := []
  aborted : Bool := false
  deriving DecidableEq, Repr

namespace Switchboard

/-- Where the other end of a new channel comes from. -/
inductive Via where
  | pair
  | socket
  /-- A connecting channel is there first, and its peer listens a little later. -/
  | latePeer
  deriving DecidableEq, Repr

inductive Request where
  | openChannel (kind : ChannelKind) (id pid : UInt32) (via : Via) (folder : String)
  | dial (socket : String)
  | makeFolder
  | makeFile
  | send (message : Message)
  | sendEncoded (bytes : Bytes)
  | write (bytes : Bytes) (checked : Bool)
  | hangUp
  | deafen
  | deadline (deadline : Deadline)
  | describe
  deriving DecidableEq, Repr

inductive Reply where
  | opened (path : String)
  | connected
  | made (done : Bool)
  | queued
  | written
  | hungUp
  | deaf
  | armed
  | described (id : UInt32) (kind : ChannelKind) (text : String)
  | fault (fault : IoFault)
  | defect (error : FrameError)
  | unknownName
  deriving DecidableEq, Repr

def line? (board : Switchboard) (name : String) : Option Line :=
  board.lines.find? fun line => line.name = name

def mapLine (board : Switchboard) (endpoint : Nat) (change : Line → Line) : Switchboard :=
  { board with lines := board.lines.map fun line =>
      if line.endpoint = endpoint then change line else line }

def addLine (board : Switchboard) (name : String) (endpoint : Nat) : Switchboard :=
  { board with
    lines := (board.lines.filter fun line => line.name ≠ name) ++ [{ name, endpoint }] }

def open? (board : Switchboard) (name : String) (kind : ChannelKind) (id : UInt32) (via : Via)
    (path : String) : Except IoFault Nat × Network :=
  let connect (network : Network) : Except IoFault Nat × Network :=
    match network.openConnecting id kind path with
    | .error fault => (.error (Network.gaveUp path fault), network)
    | .ok (endpoint, network) => (.ok endpoint, network)
  match via with
  | .pair =>
    let (endpoint, network) := board.network.openPair id kind name
    (.ok endpoint, network)
  | .socket =>
    if kind.isListener then board.network.openListening id kind path else connect board.network
  | .latePeer =>
    match board.network.listen path (.peer board.network.peers.length) with
    | (.error fault, network) => (.error fault, network)
    | (.ok (), network) => connect (network.addPeer { name }).2

/-- Reads one channel until nothing more is found. -/
def receiveAll : Nat → Switchboard → Nat → Switchboard
  | 0, board, _ => board
  | fuel + 1, board, endpoint =>
    let (received, network) := board.network.receive endpoint
    let board := { board with network }
    match received with
    | .nothing => board
    | .message message =>
      receiveAll fuel
        (board.mapLine endpoint fun line => { line with got := line.got ++ [message] }) endpoint
    | .disconnected =>
      let exits := (network.channel? endpoint).any fun channel => channel.kind.exitsOnDisconnect
      if exits then board.mapLine endpoint fun line => { line with exits := line.exits + 1 }
      else board
    | .corrupt _ => { board with aborted := true }

/-- Lets everything that was written arrive and be read. -/
def settle (board : Switchboard) : Switchboard :=
  let board := { board with network := board.network.pumpAll }
  (List.range board.network.endpoints.length).foldl (fun board endpoint =>
    let arrived := (board.network.channel? endpoint).map fun channel => channel.arrived.length
    receiveAll (arrived.getD 0 + 1) board endpoint) board

/-- The line of a channel takes a step, if there is one of the name. -/
def onLine (board : Switchboard) (name : String) (reply : Reply)
    (change : Switchboard → Nat → Switchboard) : Reply × Switchboard :=
  match board.line? name with
  | none => (.unknownName, board)
  | some line => (reply, change board line.endpoint)

def onPeer (board : Switchboard) (name : String)
    (change : Nat → Reply × Network) : Reply × Switchboard :=
  match board.network.peerIndex? name with
  | none => (.unknownName, board)
  | some peer =>
    let (reply, network) := change peer
    (reply, { board with network })

def sendOn (board : Switchboard) (name : String) (change : Channel → Channel) :
    Reply × Switchboard :=
  board.onLine name .queued fun board endpoint =>
    { board with network := board.network.mapChannel endpoint change }

def request (board : Switchboard) (name : String) : Request → Reply × Switchboard
  | .openChannel kind id pid via folder =>
    let folder := if folder.isEmpty then board.folder else joinPath board.folder folder
    let path := socketPath folder pid id
    match board.open? name kind id via path with
    | (.error fault, network) => (.fault fault, { board with network })
    | (.ok endpoint, network) => (.opened path, { board with network }.addLine name endpoint)
  | .dial socket =>
    match board.network.dial (joinPath board.folder socket) name with
    | .error fault => (.fault fault, board)
    | .ok network => (.connected, { board with network })
  | .makeFolder =>
    let place := Disk.placeOf (joinPath board.folder name)
    (.made true,
      { board with network := { board.network with disk := board.network.disk.makeFolders place } })
  | .makeFile =>
    match board.network.disk.write (joinPath board.folder name) [] with
    | .ok disk => (.made true, { board with network := { board.network with disk } })
    | .error _ => (.made false, board)
  | .send message => board.sendOn name fun channel => channel.send message
  | .sendEncoded bytes => board.sendOn name fun channel => channel.sendEncoded bytes
  | .write bytes checked =>
    board.onPeer name fun peer =>
      let network :=
        if checked then board.network.peerWriteChecked peer bytes
        else board.network.peerWrite peer bytes
      match network with
      | .ok network => (.written, network)
      | .error (.defect error) => (.defect error, board.network)
      | .error (.io fault) => (.fault fault, board.network)
  | .hangUp => board.onPeer name fun peer => (.hungUp, board.network.hangUp peer)
  | .deafen => board.onPeer name fun peer => (.deaf, board.network.deafen peer)
  | .deadline deadline =>
    board.onLine name .armed fun board endpoint =>
      let missed := (board.network.channel? endpoint).any Channel.misses
      if deadline = .past && missed then
        board.mapLine endpoint fun line => { line with exits := line.exits + 1 }
      else board
  | .describe =>
    match (board.line? name).bind fun line => board.network.channel? line.endpoint with
    | none => (.unknownName, board)
    | some channel => (.described channel.id channel.kind channel.debugText, board)

/-- Makes a request and waits until nothing more happens. -/
def step (board : Switchboard) (name : String) (request : Request) : Reply × Switchboard :=
  let (reply, board) := board.request name request
  (reply, board.settle)

/-- What is to be seen of the channels and peers, and the board after the look. -/
def look (board : Switchboard) : List (Line × Channel) × List (String × Bytes) × Switchboard :=
  let seen := board.lines.filterMap fun line =>
    (board.network.channel? line.endpoint).map fun channel => (line, channel)
  let (heard, network) := board.network.listenIn
  (seen, heard,
    { board with network, lines := board.lines.map fun line => { line with got := [] } })

end Switchboard

end Playback
