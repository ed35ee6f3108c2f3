import Playback.Address
import Playback.Channel
import Playback.Disk

set_option autoImplicit false

namespace Playback

/-- Who is at the other end of a connection. -/
inductive Far where
  | nobody
  | peer (index : Nat)
  | channel (index : Nat)
  /-- A channel that listens and has answered somebody else. -/
  | busy (index : Nat)
  deriving DecidableEq, Repr

structure Endpoint where
  channel : Channel
  far : Far := .nobody
  /-- How much the connection holds of what nobody reads. -/
  load : Nat := 0
  deriving DecidableEq, Repr

/-- The raw end of a connection. -/
structure Peer where
  name : String
  far : Far := .nobody
  /-- Bytes that have come out and were not looked at yet. -/
  heard : Bytes := []
  reads : Bool := true
  writes : Bool := true
  /-- The end of what it has written, as far as it is not a whole frame. -/
  unfinished : Bytes := []
  /-- It is about to write something, and may have to wait. -/
  writing : Bool := false
  deriving DecidableEq, Repr

inductive Ear where
  | channel (index : Nat)
  | peer (index : Nat)
  deriving DecidableEq, Repr

structure Listener where
  place : Place
  ear : Ear
  answered : Bool := false
  deriving DecidableEq, Repr

/-- Channels, the peers outside that they talk to, and the socket files under which they find
each other. A connection to a socket file goes to whoever listened there last; it stands at
once, but a listener answers only the first one. The others hold what is written to them for as
long as the listener is there, and end with it. -/
structure Network where
  endpoints : List Endpoint := []
  peers : List Peer := []
  /-- The latest listener for a place stands first. -/
  listeners : List Listener := []
  disk : Disk := {}
  pathLimit : Nat := socketPathLimit
  deriving DecidableEq, Repr

namespace Network

def endpoint? (network : Network) (index : Nat) : Option Endpoint := network.endpoints[index]?

def channel? (network : Network) (index : Nat) : Option Channel :=
  (network.endpoint? index).map Endpoint.channel

def mapEndpoint (network : Network) (index : Nat) (change : Endpoint → Endpoint) : Network :=
  { network with endpoints := network.endpoints.modify index change }

def mapChannel (network : Network) (index : Nat) (change : Channel → Channel) : Network :=
  network.mapEndpoint index fun endpoint => { endpoint with channel := change endpoint.channel }

def mapPeer (network : Network) (index : Nat) (change : Peer → Peer) : Network :=
  { network with peers := network.peers.modify index change }

/-- The latest peer of a name. -/
def peerIndex? (network : Network) (name : String) : Option Nat :=
  (network.peers.zipIdx.filter fun (peer, _) => peer.name = name).getLast?.map Prod.snd

/-- A name for a new peer. Further peers of a name are numbered from two. -/
def freshName (network : Network) (name : String) : String :=
  let numbered (number : Nat) : String := name ++ "." ++ toString number
  let taken (name : String) : Bool := network.peers.any fun peer => peer.name = name
  if taken name then
    let numbers := (List.range network.peers.length).map (· + 2)
    numbered ((numbers.find? fun number => !taken (numbered number)).getD 0)
  else name

/-- A new channel, which is connected if somebody is at its other end. -/
def addChannel (network : Network) (id : UInt32) (kind : ChannelKind) (far : Far) :
    Nat × Network :=
  (network.endpoints.length,
    { network with
      endpoints := network.endpoints ++
        [{ channel := { id, kind, connected := far ≠ .nobody }, far }] })

def addPeer (network : Network) (peer : Peer) : Nat × Network :=
  (network.peers.length, { network with peers := network.peers ++ [peer] })

/-- A channel whose other end is a new peer. -/
def openPair (network : Network) (id : UInt32) (kind : ChannelKind) (name : String) :
    Nat × Network :=
  let (peer, network) := network.addPeer { name, far := .channel network.endpoints.length }
  network.addChannel id kind (.peer peer)

/-- Two channels whose other ends are each other. -/
def openJoined (network : Network) (firstId secondId : UInt32)
    (firstKind secondKind : ChannelKind) : Nat × Nat × Network :=
  let count := network.endpoints.length
  let (first, network) := network.addChannel firstId firstKind (.channel (count + 1))
  let (second, network) := network.addChannel secondId secondKind (.channel count)
  (first, second, network)

def checkSocketPath (network : Network) (path : String) : Except IoFault Unit :=
  if path.toList.contains '\x00' then .error .zeroInPath
  else if network.pathLimit < (Utf8.encode path).length then .error .pathTooLong
  else .ok ()

/-- Makes room for a socket file. -/
def removeFile (network : Network) (path : String) : Except IoFault Network := do
  Disk.checkPath path .zeroInName
  match network.disk.follow [] (Disk.components path) with
  | .error .missingFile => .ok network
  | .error fault => .error fault
  | .ok place =>
    match network.disk.node? place with
    | some .folder => .error .isFolder
    | _ => .ok { network with disk := network.disk.erase place }

def bind (network : Network) (path : String) (ear : Ear) : Except IoFault Network := do
  network.checkSocketPath path
  let place ← network.disk.follow [] (Disk.components path)
  .ok { network with
        disk := network.disk.put place .socket
        listeners := { place, ear } :: network.listeners.filter fun one => one.place ≠ place }

/-- Listens under a path, replacing any file there. The file is gone even if nobody can listen in
its place. -/
def listen (network : Network) (path : String) (ear : Ear) : Except IoFault Unit × Network :=
  match network.removeFile path with
  | .error fault => (.error fault, network)
  | .ok cleared =>
    match cleared.bind path ear with
    | .error fault => (.error (.bindFailed path fault), cleared)
    | .ok listening => (.ok (), listening)

/-- A channel that waits for a connection under a path. -/
def openListening (network : Network) (id : UInt32) (kind : ChannelKind) (path : String) :
    Except IoFault Nat × Network :=
  match network.listen path (.channel network.endpoints.length) with
  | (.error fault, network) => (.error fault, network)
  | (.ok (), network) =>
    let (endpoint, network) := network.addChannel id kind .nobody
    (.ok endpoint, network)

/-- The listener under a path, still there to take a connection. -/
def listener? (network : Network) (path : String) : Except IoFault Listener := do
  network.checkSocketPath path
  let place ← network.disk.follow [] (Disk.components path)
  match network.disk.node? place with
  | none => .error .missingFile
  | some .socket =>
    match network.listeners.find? fun one => one.place = place with
    | none => .error .connectionRefused
    | some listener =>
      let lost : Bool := match listener.ear with
        | .channel index => (network.channel? index).any fun channel => !channel.receiving
        | .peer _ => false
      if lost then .error .connectionRefused else .ok listener
  | some _ => .error .connectionRefused

def answer (network : Network) (place : Place) : Network :=
  { network with
    listeners := network.listeners.map fun one =>
      if one.place = place then { one with answered := true } else one }

/-- Connects a new peer to the listener under a path. -/
def dial (network : Network) (path name : String) : Except IoFault Network := do
  let listener ← network.listener? path
  let peer := network.peers.length
  match listener.answered, listener.ear with
  | false, .channel index =>
    let (_, network) := network.addPeer { name, far := .channel index }
    .ok ((network.answer listener.place).mapEndpoint index fun endpoint =>
      { endpoint with channel := endpoint.channel.connect, far := .peer peer })
  | true, .channel index => .ok (network.addPeer { name, far := .busy index }).2
  | _, .peer _ => .ok (network.addPeer { name }).2

/-- Faults of a connection that are no reason to give up. -/
def maySucceedLater : IoFault → Bool
  | .missingFile | .connectionRefused => true
  | _ => false

/-- Connects a new channel to the listener under a path. -/
def openConnecting (network : Network) (id : UInt32) (kind : ChannelKind) (path : String) :
    Except IoFault (Nat × Network) := do
  let listener ← network.listener? path
  let index := network.endpoints.length
  match listener.answered, listener.ear with
  | false, .channel far =>
    let (_, network) := network.addChannel id kind (.channel far)
    .ok (index, (network.answer listener.place).mapEndpoint far fun endpoint =>
      { endpoint with channel := endpoint.channel.connect, far := .channel index })
  | false, .peer far =>
    let (_, network) := network.addChannel id kind (.peer far)
    .ok (index, (network.answer listener.place).mapPeer far fun peer =>
      { peer with far := .channel index })
  | true, .channel far => .ok (network.addChannel id kind (.busy far))
  | true, .peer _ =>
    let (_, network) := network.addChannel id kind .nobody
    .ok (index, network.mapChannel index Channel.connect)

/-- The fault of a connection that was tried for too long. -/
def gaveUp (path : String) (fault : IoFault) : IoFault :=
  if maySucceedLater fault then .connectFailed path fault else fault

/-- The defect of bytes that hold a frame which is none, or the unfinished frame at their end. -/
def checkFrames : Nat → Bytes → Except FrameError Bytes
  | 0, bytes => .ok bytes
  | fuel + 1, bytes =>
    match cut bytes with
    | .waiting => .ok bytes
    | .corrupt error => .error error
    | .frame _ rest => checkFrames fuel rest

/-- Why nothing comes of what a peer writes. -/
inductive WriteFault where
  | defect (error : FrameError)
  | io (fault : IoFault)
  deriving DecidableEq, Repr

/-- Bytes written by a peer, as they are. A peer that has hung up can still write nothing. -/
def peerWrite (network : Network) (index : Nat) (bytes : Bytes) : Except WriteFault Network :=
  match network.peers[index]? with
  | none => .ok network
  | some peer =>
    if !peer.writes && !bytes.isEmpty then .error (.io .brokenPipe)
    else
      match peer.far with
      | .channel endpoint => .ok (network.mapChannel endpoint fun channel => channel.arrive bytes)
      | _ => .ok network

/-- A peer takes care to write whole frames in the end. -/
def checkWrite (network : Network) (index : Nat) (bytes : Bytes) : Except WriteFault Network := do
  let unfinished := (network.peers[index]?.map Peer.unfinished).getD []
  let whole := unfinished ++ bytes
  let rest ← (checkFrames whole.length whole).mapError .defect
  .ok (network.mapPeer index fun peer => { peer with unfinished := rest })

def peerWriteChecked (network : Network) (index : Nat) (bytes : Bytes) :
    Except WriteFault Network := do
  (← network.checkWrite index bytes).peerWrite index bytes

/-- The peer neither reads nor writes any more, and the other end finds out. -/
def hangUp (network : Network) (index : Nat) : Network :=
  let silent := network.mapPeer index fun peer => { peer with reads := false, writes := false }
  match network.peers[index]?.map Peer.far with
  | some (.channel endpoint) => silent.mapChannel endpoint Channel.hangUp
  | _ => silent

/-- A channel listens no more: the connections that it has not answered end. -/
def turnAway (network : Network) (listener : Nat) : Network :=
  { network with
    endpoints := network.endpoints.map fun endpoint =>
      if endpoint.far = .busy listener then
        { endpoint with channel := endpoint.channel.hangUp }
      else endpoint
    peers := network.peers.map fun peer =>
      if peer.far = .busy listener then { peer with writes := false } else peer }

/-- The next thing that the receiver of a channel finds. -/
def receive (network : Network) (index : Nat) : Received × Network :=
  match network.channel? index with
  | none => (.nothing, network)
  | some channel =>
    let (received, channel) := channel.receive
    let network := network.mapChannel index fun _ => channel
    (received, if received = .disconnected then network.turnAway index else network)

def deafen (network : Network) (index : Nat) : Network :=
  network.mapPeer index fun peer => { peer with reads := false }

/-- Lets the writer of one channel go on, and carries what it writes to the other end. -/
def pump (network : Network) (index : Nat) : Network :=
  match network.endpoint? index with
  | none => network
  | some endpoint =>
    match endpoint.far with
    | .nobody => network.mapChannel index fun channel => (channel.flush true).2
    | .peer peer =>
      let reads := (network.peers[peer]?.map Peer.reads).getD true
      let (bytes, channel) := endpoint.channel.flush reads
      (network.mapChannel index fun _ => channel).mapPeer peer fun peer =>
        { peer with heard := peer.heard ++ bytes }
    | .channel far =>
      let (bytes, channel) := endpoint.channel.flush (!endpoint.channel.ended)
      (network.mapChannel index fun _ => channel).mapChannel far fun channel =>
        channel.arrive bytes
    | .busy _ =>
      network.mapEndpoint index fun endpoint =>
        if endpoint.channel.ended then
          { endpoint with channel := (endpoint.channel.flush false).2 }
        else
          let (load, channel) := endpoint.channel.fill endpoint.load
          { endpoint with channel, load }

/-- Lets all writers go on. -/
def pumpAll (network : Network) : Network :=
  (List.range network.endpoints.length).foldl pump network

/-- What has come out at the peers that heard something, and the network after the look. -/
def listenIn (network : Network) : List (String × Bytes) × Network :=
  ((network.peers.filter fun peer => !peer.heard.isEmpty).map fun peer => (peer.name, peer.heard),
    { network with peers := network.peers.map fun peer => { peer with heard := [] } })

/-- Byte strings as long as the size fields in them say; a rest that does not begin with a whole
frame stands for itself. -/
def splitFrames : Nat → Bytes → List Bytes
  | 0, bytes => if bytes.isEmpty then [] else [bytes]
  | fuel + 1, bytes =>
    let size := (ofWord32 (bytes.take 4)).toNat
    if bytes.isEmpty then []
    else if size < headerSize || bytes.length < size then [bytes]
    else bytes.take size :: splitFrames fuel (bytes.drop size)

def frames (bytes : Bytes) : List Bytes := splitFrames bytes.length bytes

end Network

end Playback
