import Playback.Address
import Playback.Context.Handling
import Playback.LogStamp

set_option autoImplicit false

namespace Playback

namespace Context

/-! Manifests -/

/-- A plain host runs a manifest on the spot; others queue it for their main thread. -/
def startManifest (context : Context) (manifest : Bytes) : Outcome :=
  match context.host.style with
  | .plain => context.followedBy [.runManifest manifest]
  | .scripted =>
    let host := context.host.note .dispatched
    { context := { context with host := { host with tasks := host.tasks.push manifest } } }

def runManifest (context : Context) (manifest : Bytes) : Outcome :=
  match context.host.style with
  | .plain => context.followedBy [.conclude manifest]
  | .scripted =>
    let host := context.host.note (.manifest manifest context.isPaused)
    let script := host.scripts.headD []
    { context := { context with host := { host with scripts := host.scripts.drop 1 } }
      next := script.flatMap (fun step => .answer .done :: step ++ [.noteStep]) ++
        [.conclude manifest] }

def manifestOutput (context : Context) (value : Reply) (manifest : Bytes) : ManifestOutput :=
  context.host.output
    { manifest, value
      fork := context.fork
      progress := context.host.progress
      recording := context.recording }

def sendFinished (context : Context) (main : Bool) (output : Bytes) (bulk : Bool) : Outcome :=
  let message := Message.manifestFinished context.fork output
  context.send main (if bulk then message.withBulk else message)

def finishManifest (context : Context) : Outcome :=
  let (start, manifests) := context.manifests.finish
  { context := { context with manifests }, next := (start.map .startManifest).toList }

/-- Takes the first task of the main thread. -/
def nextTask? (context : Context) : Option (Bytes × Context) :=
  context.host.tasks.next?.map fun (manifest, tasks) =>
    (manifest, { context with host := { context.host with tasks } })

def runPending (context : Context) (ran : Nat) : Outcome :=
  match context.nextTask? with
  | none => context.answering (.count ran)
  | some (manifest, context) =>
    context.followedBy [.runManifest manifest, .runPending (ran + 1)]

/-! The recording -/

/-- A fork that is short of bytes first asks its root for them. -/
def ensureLength (context : Context) (length : UInt64) : Outcome :=
  let there := context.recording.length
  if !context.isRoot && there < length.toNat then
    context.followedBy
      [.send (.updateRecording context.fork (UInt64.ofNat there) length), .awaitLength length]
  else context.followedBy [.awaitLength length]

def takePending (context : Context) (requireMore : Bool) : Option Outcome :=
  (context.recording.takePending requireMore).map fun (result, recording) =>
    { context := { context with recording }
      records := match result with
        | .error (.endOfRecording length) =>
          [record .error "Hit end of recording" [("length", .number length)]]
        | _ => []
      value := match result with
        | .ok data => some (.bytes data)
        | .error failure => some (.failed failure) }

def offlinePath (context : Context) (name : String) : Except Failure String :=
  match context.config.offlineFolder with
  | some folder => .ok (joinPath folder name)
  | none => .error .offlineFolderUnset

/-- Writes the whole recording into a file of the offline folder. -/
def save (context : Context) (disk : Disk) (name : String) : Outcome :=
  let saved : Except Failure String := do
    let path ← context.offlinePath name
    let _ ← context.recording.save disk path
    return path
  match saved with
  | .error failure => context.answering (.failed failure)
  | .ok path =>
    let contents := context.recording.contents
    { context
      effects := [.write path contents]
      records := [record .info "SavedRecording"
        [("path", .bare path), ("length", .number contents.length)]]
      value := some (.saved path contents) }

/-- Appends the configured file of the offline folder to the recording. -/
def fetch (context : Context) (disk : Disk) : Except Failure (Nat × Record) × Context :=
  let path : Except Failure String :=
    match context.config.recordingName with
    | none => .error .recordingNameUnset
    | some name => context.offlinePath name
  match path with
  | .error failure => (.error failure, context)
  | .ok path =>
    let (result, recording) := context.recording.load disk path
    (result.map fun length =>
      (length, record .info "FetchedRecording"
        [("path", .bare path), ("length", .number length)]),
      { context with recording })

def fetchAnd (context : Context) (disk : Disk) (orElse : Failure → Outcome) : Outcome :=
  match context.fetch disk with
  | (.ok (length, record), context) =>
    { context, records := [record], value := some (.count length) }
  | (.error failure, _) => orElse failure

/-! External calls and shared keys -/

/-- Claims the slot for a response and sends the request. -/
def claimCall (context : Context) (main : Bool) (request : Message) : Option Outcome :=
  context.calls.slot.claim?.map fun slot =>
    { context.send main request with
      context := { context with calls := { context.calls with slot } } }

def takeCall (context : Context) (id : CallId) : Option Outcome :=
  context.calls.slot.take?.map fun ((tag, output), slot) =>
    { context := { context with calls := { context.calls with slot } }
      records := ExternalCalls.responseRecords id tag
      next := if tag.isSome then [.keepCall id output] else []
      value := if tag.isSome then none else some (.output .unavailable) }

/-- Remembers an output, unless one is known. -/
def keepCall (context : Context) (id : CallId) (output : Bytes) : Outcome where
  context := { context with calls := context.calls.insert id output }
  records := context.calls.insertRecords id output

def lookupCall (context : Context) (id : CallId) (input : Bytes) : Outcome :=
  match context.calls.output? id with
  | some output => context.answering (.output (.available output))
  | none =>
    context.followedBy
      [.claimCall (.externalCallRequest context.fork id.number input), .takeCall id]

/-- After a lookup: performs the call if its output is not known, and publishes the output. -/
def performUnlessKnown (context : Context) (value : Reply) (id : CallId) (input output : Bytes) :
    Outcome :=
  match value with
  | .output (.available known) => context.answering (.performed known none)
  | _ =>
    context.followedBy [.publishCall id output, .answer (.performed output (some input))]

def claimKey (context : Context) (main : Bool) (request : Message) : Option Outcome :=
  context.keys.slot.claim?.map fun slot =>
    { context.send main request with
      context := { context with keys := { context.keys with slot } } }

def takeKey (context : Context) : Option Outcome :=
  context.keys.slot.take?.map fun (value, slot) =>
    { context := { context with keys := { context.keys with slot } }, value := some (.text value) }

def setKey (context : Context) (main : Bool) (key value : String) : Outcome :=
  if context.isRoot then
    { context := { context with keys := context.keys.set key value }
      records := [SharedKeys.setRecord key] }
  else context.send main (.sharedKeySet context.fork key value)

def getKey (context : Context) (key : String) : Outcome :=
  if context.isRoot then context.answering (.text (context.keys.get key))
  else context.followedBy [.claimKey (.sharedKeyRequest context.fork key), .takeKey]

/-! Forks -/

def forkNews (context : Context) (fork pid : UInt32) : ForkNews where
  registered := context.forks.contains fork
  pid := context.forks.pid? fork
  held := (context.forks.pendingFor fork).length
  ofPid := context.forks.forkOfPid? pid
  nobody := context.forks.isEmpty

def awaitFork (context : Context) (fork : UInt32) (deadline : Deadline) : Option Outcome :=
  if context.forks.contains fork then some (context.answering (.truth true))
  else if deadline = .past then some (context.answering (.truth false))
  else none

def awaitRegistration (context : Context) (fork pid : UInt32) : Option Outcome :=
  if context.forks.contains fork then
    some (context.answering
      (.registered (context.forks.pid? fork = some pid) (context.forks.forkOfPid? pid)))
  else none

/-- A process is duplicated under the write side of the fork lock. -/
def performFork (context : Context) (fork : UInt32) (awaited : Bool) : Outcome :=
  match context.pipe with
  | none => context.answering (.failed (.wrongRole .performFork))
  | some _ =>
    context.followedBy [.claimWrite, .awaitDrained, .outside (.duplicate fork awaited)]

/-! Errors and diagnostics -/

def fatalTitle (context : Context) : String :=
  "***** Fatal Record/Replay Error #" ++ toString context.config.channelId.toNat ++ ":" ++
    toString context.fork.toNat ++ " *****"

def sendFatal (context : Context) (main : Bool) (text : String) : Outcome :=
  let sent := context.send main (.fatalError context.fork text)
  { sent with records := record .error (context.fatalTitle ++ "\n" ++ text) [] :: sent.records }

/-- A process that exits has nothing more to report. -/
def reportFatal (context : Context) (text : String) : Outcome :=
  if context.exiting then { context }
  else
    { context := { context with crash := context.crash.record text }
      next := [.sendFatal text, .halt] }

/-- With a plain host nobody returns from a halt. -/
def halt (context : Context) : Option Outcome :=
  match context.host.style with
  | .plain => none
  | .scripted => some { context := context.tell .halt }

def reportCritical (context : Context) (main : Bool) (text : String) : Outcome :=
  let sent := context.send main (.criticalError context.fork text)
  { sent with records := record .error ("Critical Error: " ++ text) [] :: sent.records }

def reportDivergence (context : Context) (main : Bool) : Outcome :=
  if main && context.divergenceAllowed then
    context.followedBy [.send (.unhandledDivergence context.fork), .halt]
  else context.followedBy [.reportFatal "Unhandled divergence not allowed"]

def reportCrash (context : Context) (fault : Fault) : Outcome :=
  if context.exiting then { context }
  else
    let (frame, crash) := context.crash.takeFrame fault context.fork
    { context := { context with crash }
      effects := match context.channel with
        | some endpoint => [.sendEncoded endpoint frame]
        | none => []
      records := [record .error context.fatalTitle
        [forkField context.fork, ("signal", .signed fault.signal.toInt)]] }

/-- A recording child sends log text to the middleman. Others log it once they were told to. -/
def printLog (context : Context) (main : Bool) (text : String) : Outcome :=
  if context.isRecording then
    context.send main (.logText rootFork (LogStamp.line text))
  else if context.logging then
    { context
      records := [record .info
        ("[#" ++ toString context.fork.toNat ++ " 0.000] " ++ text) []] }
  else { context }

def roleNews (context : Context) : RoleNews where
  root := context.isRoot
  recording := context.isRecording
  replaying := context.isReplaying
  progress := context.host.progress

/-! All actions -/

/-- The action is taken, or has to wait. `main` tells whether the main thread takes it, and
`value` is what the program has come to so far. -/
def step (context : Context) (main : Bool) (value : Reply) (disk : Disk) :
    Action → Option Outcome
  | .enterRead => context.lock.enter?.map fun lock => { context := { context with lock } }
  | .leaveRead => some { context := { context with lock := context.lock.leave } }
  | .claimWrite => context.lock.claim?.map fun lock => { context := { context with lock } }
  | .awaitDrained => if context.lock.isDrained then some { context } else none
  | .releaseWrite => some { context := { context with lock := context.lock.release } }
  | .handle message => some (context.handle message)
  | .passOn message => some (context.passOn message)
  | .dispatch message => some (context.dispatch main message)
  | .handleFork message =>
    some (context.followedBy [.enterRead, .dispatchFork message, .leaveRead])
  | .dispatchFork message => some (context.dispatchFork main message)
  | .send message => some (context.send main message)
  | .route message => some (context.route message)
  | .register fork pid endpoint => some (context.register fork pid endpoint)
  | .startManifest manifest => some (context.startManifest manifest)
  | .runManifest manifest => some (context.runManifest manifest)
  | .conclude manifest =>
    let output := context.manifestOutput value manifest
    some (context.followedBy [.sendFinished output.data output.bulk, .finishManifest])
  | .sendFinished output bulk => some (context.sendFinished main output bulk)
  | .finishManifest => some context.finishManifest
  | .awaitIdle => if context.manifests.isIdle then some { context } else none
  | .clearPending =>
    some { context := { context with manifests := context.manifests.clearPending } }
  | .runPending ran => some (context.runPending ran)
  | .runOne =>
    context.nextTask?.map fun (manifest, context) =>
      context.followedBy [.runManifest manifest, .answer .done]
  | .serve =>
    context.nextTask?.map fun (manifest, context) =>
      context.followedBy [.runManifest manifest, .serve]
  | .queueScript steps =>
    let host := { context.host with scripts := context.host.scripts ++ [steps] }
    some { context := { context with host } }
  | .noteStep => some { context := context.tell (.step value) }
  | .setProgress progress =>
    some { context := { context with host := context.host.advance progress } }
  | .awaitIntroduction =>
    context.introduction.map fun content => context.answering (.introduction content)
  | .awaitFirst =>
    if context.isReplaying && context.recording.isEmpty then none else some { context }
  | .ensureLength length => some (context.ensureLength length)
  | .awaitLength length =>
    if length.toNat ≤ context.recording.length then some { context } else none
  | .answerRange fork start stop =>
    some (context.route (.recordingData fork start (context.recording.range start stop)))
  | .append data =>
    let recording := context.recording.append data
    some { context := { context with recording }, value := some (.count recording.length) }
  | .snapshot => some (context.answering (.bytes context.recording.contents))
  | .range start stop => some (context.answering (.bytes (context.recording.range start stop)))
  | .takePending requireMore => context.takePending requireMore
  | .sendRecording start data =>
    some (context.send main (.recordingData context.fork start data))
  | .save name => some (context.save disk name)
  | .fetch => some (context.fetchAnd disk fun failure => context.answering (.failed failure))
  | .fetchOrReport =>
    some (context.fetchAnd disk fun failure => context.followedBy
      [.reportFatal ("FetchCloudRecordingData failed: " ++ failure.message)])
  | .sendScan data => some (context.send main (.scanData context.fork data))
  | .lookupCall id input => some (context.lookupCall id input)
  | .claimCall request => context.claimCall main request
  | .takeCall id => context.takeCall id
  | .keepCall id output =>
    some { context.keepCall id output with value := some (.output (.available output)) }
  | .performUnlessKnown id input output =>
    some (context.performUnlessKnown value id input output)
  | .publishCall id output =>
    some { context.keepCall id output with
           next := [.send (.externalCallResponse context.fork id.number output)] }
  | .cached id => some (context.answering (.known (context.calls.output? id)))
  | .setKey key text => some (context.setKey main key text)
  | .getKey key => some (context.getKey key)
  | .claimKey request => context.claimKey main request
  | .takeKey => context.takeKey
  | .ownKey key =>
    some (context.answering (.entry context.keys.count (context.keys.get key)))
  | .forkNews fork pid => some (context.answering (.forkNews (context.forkNews fork pid)))
  | .awaitFork fork deadline => context.awaitFork fork deadline
  | .awaitRegistration fork pid => context.awaitRegistration fork pid
  | .performFork fork awaited => some (context.performFork fork awaited)
  | .forkSocket pid =>
    some (context.answering (.description (socketPath context.config.socketFolder pid 0)))
  | .reportFatal text => some (context.reportFatal text)
  | .sendFatal text => some (context.sendFatal main text)
  | .halt => context.halt
  | .reportCritical text => some (context.reportCritical main text)
  | .allowDivergence divergenceAllowed =>
    some { context := { context with divergenceAllowed } }
  | .reportDivergence => some (context.reportDivergence main)
  | .reportCrash fault => some (context.reportCrash fault)
  | .pushNote note => some { context := { context with crash := context.crash.pushNote note } }
  | .popNote => some { context := { context with crash := context.crash.popNote.2 } }
  | .setNote note => some { context := { context with crash := context.crash.setNote note } }
  | .notes =>
    some (context.answering (.notes context.crash.notes context.crash.recorded))
  | .observe refuses =>
    if refuses then some (context.answering (.failed (.io .observerRefused)))
    else some { context := { context with observer := .handler, handles := true } }
  | .handleFault fault =>
    if context.handles then some (context.followedBy [.reportCrash fault])
    else some (context.answering .noHandler)
  | .notifyPaint width height =>
    some (context.send main ((Message.paint width height).withFork context.fork))
  | .printLog text => some (context.printLog main text)
  | .roles => some (context.answering (.roles context.roleNews))
  | .answer reply => some (context.answering reply)
  | .outside _ => none

end Context

end Playback
