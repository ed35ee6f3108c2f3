import Playback.Channel
import Playback.Config
import Playback.Context.Reply
import Playback.CrashReport
import Playback.ForkTable
import Playback.Lock.Word
import Playback.Manifests
import Playback.Monitor
import Playback.Recording
import Playback.SharedKeys
import Playback.TaskQueue

set_option autoImplicit false

/- The state of one recording or replaying child, and the actions that its threads take on it.
A thread runs a program, a list of actions; each action is one step that no other thread sees
half done, and may put further actions in front of what is left of the program. -/
namespace Playback

/-- Steps that reach beyond the state of one child. -/
inductive Operation where
  /-- Takes a new connected channel as the channel of the child. -/
  | attach (kind : ChannelKind)
  | openForkStream (fork pid : UInt32)
  /-- Joins a root with another child, which becomes one of its forks. -/
  | link (child : Nat) (pid : UInt32)
  /-- Lets a raw peer listen where a process would. -/
  | listen (pid id : UInt32) (peer : String)
  /-- Connects to the middleman, and waits to be introduced if that is asked for. -/
  | connectMiddleman (introduced : Bool)
  | connectFork (pid fork : UInt32)
  | startForkListener
  | awaitAnnouncement
  | duplicate (fork : UInt32) (awaited : Bool)
  /-- Waits for the end of the oldest fork of the process. -/
  | reap
  | receive (endpoint : Nat)
  | deliver (peer : String) (bytes : Bytes)
  /-- Writes what is left of what a peer delivers. -/
  | pour (peer : Nat) (bytes : Bytes)
  | hangUp (peer : String)
  | describe
  | observeSignals (signals : List Int)
  | raise (signal : Int)
  | touch (address : UInt64)
  /-- Goes on in another child. -/
  | enter (child : Nat)
  | install
  | uninstall
  | reportInstalled (text : Option Bytes)
  | noteInstalled (text : Option Bytes)
  | installedForkId
  | installedFork
  deriving DecidableEq, Repr

inductive Action where
  /- The fork lock. -/
  | enterRead
  | leaveRead
  | claimWrite
  | awaitDrained
  | releaseWrite
  /- Messages that arrive from the middleman or the root, and from forks. -/
  | handle (message : Message)
  | passOn (message : Message)
  | dispatch (message : Message)
  | handleFork (message : Message)
  | dispatchFork (message : Message)
  /- Messages that leave. -/
  | send (message : Message)
  | route (message : Message)
  | register (fork pid : UInt32) (endpoint : Nat)
  /- Manifests and the main thread. -/
  | startManifest (manifest : Bytes)
  | runManifest (manifest : Bytes)
  | conclude (manifest : Bytes)
  | sendFinished (output : Bytes) (bulk : Bool)
  | finishManifest
  | awaitIdle
  | clearPending
  | runPending (ran : Nat)
  | runOne
  /-- The main thread of a fork, which runs tasks for ever. -/
  | serve
  | queueScript (steps : List (List Action))
  | noteStep
  | setProgress (progress : UInt64)
  /- The introduction and the recording. -/
  | awaitIntroduction
  | awaitFirst
  | ensureLength (length : UInt64)
  | awaitLength (length : UInt64)
  | answerRange (fork : UInt32) (start stop : UInt64)
  | append (data : Bytes)
  | snapshot
  | range (start stop : UInt64)
  | takePending (requireMore : Bool)
  | sendRecording (start : UInt64) (data : Bytes)
  | save (name : String)
  | fetch
  | fetchOrReport
  | sendScan (data : Bytes)
  /- External calls. -/
  | lookupCall (id : CallId) (input : Bytes)
  | claimCall (request : Message)
  | takeCall (id : CallId)
  | keepCall (id : CallId) (output : Bytes)
  | performUnlessKnown (id : CallId) (input output : Bytes)
  | publishCall (id : CallId) (output : Bytes)
  | cached (id : CallId)
  /- Shared keys. -/
  | setKey (key value : String)
  | getKey (key : String)
  | claimKey (request : Message)
  | takeKey
  | ownKey (key : String)
  /- Forks. -/
  | forkNews (fork pid : UInt32)
  | awaitFork (fork : UInt32) (deadline : Deadline)
  | awaitRegistration (fork pid : UInt32)
  | performFork (fork : UInt32) (awaited : Bool)
  | forkSocket (pid : UInt32)
  /- Errors and diagnostics. -/
  | reportFatal (text : String)
  | sendFatal (text : String)
  | halt
  | reportCritical (text : String)
  | allowDivergence (allowed : Bool)
  | reportDivergence
  | reportCrash (fault : Fault)
  | pushNote (note : String)
  | popNote
  | setNote (note : String)
  | notes
  | observe (refuses : Bool)
  | handleFault (fault : Fault)
  | notifyPaint (width height : UInt32)
  | printLog (text : String)
  | roles
  | answer (reply : Reply)
  | outside (operation : Operation)

abbrev Program := List Action

/-- What the program around a child is told. -/
inductive HostEvent where
  | dispatched
  | manifest (manifest : Bytes) (paused : Bool)
  | step (reply : Reply)
  | checkpoint
  | scan (data : Bytes)
  | terminate
  | halt
  deriving DecidableEq, Repr

/-- How the program around a child does its part. -/
inductive HostStyle where
  /-- Runs a manifest where it starts, with no step of its own, and never returns from a halt. -/
  | plain
  /-- Queues manifests for the main thread, runs a script for each, and notes all that happens. -/
  | scripted
  deriving DecidableEq, Repr

/-- All that the run of a manifest depends on when it comes to its end. -/
structure ManifestRun where
  manifest : Bytes
  fork : UInt32
  /-- How far the execution has come. -/
  progress : UInt64
  recording : Recording
  /-- What the last step of the run was answered. -/
  value : Reply

/-- What a run gives back, and whether it counts as large. -/
structure ManifestOutput where
  data : Bytes := []
  bulk : Bool := false
  deriving DecidableEq, Repr

structure Host where
  style : HostStyle := .plain
  output : ManifestRun → ManifestOutput := fun run => { data := run.manifest }
  /-- How far the execution has come. -/
  progress : UInt64 := 0
  /-- Manifests that the main thread has to run. -/
  tasks : TaskQueue Bytes := {}
  /-- What the next manifests do, step by step. -/
  scripts : List (List Program) := []
  /-- What the host was told since somebody looked. -/
  events : List HostEvent := []

namespace Host

/-- A plain host takes no notes. -/
def note (host : Host) (event : HostEvent) : Host :=
  match host.style with
  | .plain => host
  | .scripted => { host with events := host.events ++ [event] }

/-- A plain host counts no progress. -/
def advance (host : Host) (progress : UInt64) : Host :=
  match host.style with
  | .plain => host
  | .scripted => { host with progress }

end Host

/-- The observer of faults that a fork starts again for itself. -/
inductive Observer where
  | nobody
  /-- One that keeps a handler for whoever calls it. -/
  | handler
  | signals
  deriving DecidableEq, Repr

structure Context where
  config : Config
  fork : UInt32 := config.forkId
  lock : LockWord := {}
  /-- The endpoint of the channel to the middleman or the root. -/
  channel : Option Nat := none
  introduction : Option Introduction := none
  recording : Recording := {}
  manifests : Manifests := {}
  calls : ExternalCalls := {}
  /-- Forks are reached through endpoints. -/
  forks : ForkTable Nat := {}
  keys : SharedKeys := {}
  crash : CrashReport := {}
  observer : Observer := .nobody
  /-- A handler is kept that can be called with faults. -/
  handles : Bool := false
  /-- The pipe on which forks announce themselves. -/
  pipe : Option Nat := none
  logging : Bool := false
  divergenceAllowed : Bool := true
  exiting : Bool := false
  host : Host := {}

namespace Context

def isRoot (context : Context) : Bool := context.fork = rootFork

def isRecording (context : Context) : Bool := context.config.isRecording

def isReplaying (context : Context) : Bool := context.config.isReplaying

/-- A child is paused while it runs no manifest. -/
def isPaused (context : Context) : Bool := !context.manifests.processing

def tell (context : Context) (event : HostEvent) : Context :=
  { context with host := context.host.note event }

/-- A root that replays has a pipe for the announcements of its forks. -/
def wantsPipe (config : Config) : Bool := config.isReplaying && config.forkId = rootFork

def debugText (context : Context) (connected : Option Bool) : String :=
  let connection := match connected with
    | none => "None"
    | some connected => "Some(" ++ toString connected ++ ")"
  "ChildContext \x7b role: " ++ context.config.role.name ++
    ", channel_id: " ++ toString context.config.channelId.toNat ++
    ", fork_id: " ++ toString context.fork.toNat ++
    ", connected: " ++ connection ++
    ", recording: " ++ context.recording.debugText ++
    ", processing_manifest: " ++ toString context.manifests.processing ++
    ", pending_manifests: " ++ toString context.manifests.pending.length ++
    ", cached_calls: " ++ toString context.calls.cache.length ++
    ", forks: " ++ context.forks.debugText ++
    ", fork_lock_readers: " ++ toString context.lock.readers.toNat ++ ", .. \x7d"

end Context

end Playback
