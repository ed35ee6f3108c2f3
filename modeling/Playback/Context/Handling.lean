import Playback.Context.Outcome

set_option autoImplicit false

namespace Playback

/-- Log text without the zeros and line ends behind it. -/
def trimLogText (text : String) : String :=
  String.ofList (text.toList.reverse.dropWhile fun char => char = '\x00' || char = '\n').reverse

namespace Context

/-- The first look at a message from the middleman or the root. A message for this process is
handled under the read side of the fork lock, except for those that end the process: the main thread
may be stuck with the lock. A message for another process is passed on by the root and ignored by
everybody else. -/
def handle (context : Context) (message : Message) : Outcome :=
  if message.fork = context.fork then
    match message.kind with
    | .terminate =>
      { context.terminate with
        records := [record .info "Terminate message received, exiting" [forkField context.fork]] }
    | .crash =>
      { context
        records := [record .error "Crashing hung process" [forkField context.fork]]
        next := [.sendFatal "Hung replaying process"] }
    | _ => context.followedBy [.enterRead, .dispatch message, .leaveRead]
  else context.followedBy [.enterRead, .passOn message, .leaveRead]

def passOn (context : Context) (message : Message) : Outcome :=
  if context.isRoot then context.route message
  else
    { context
      records := [record .warn "Ignoring message for another fork"
        [("target_fork", .number message.fork.toNat), forkField context.fork]] }

def introduce (context : Context) (content : Introduction) : Outcome :=
  match context.introduction with
  | some _ => { context, records := [record .warn "Ignoring repeated introduction" []] }
  | none => { context := { context with introduction := some content } }

/-- What a message for this process does. -/
def dispatch (context : Context) (main : Bool) (message : Message) : Outcome :=
  match message.kind, message.payload with
  | .introduction, .introduction content => context.introduce content
  | .ping, .ping id =>
    context.send main (.pingResponse context.fork id context.host.progress)
  | .createCheckpoint, .empty =>
    { context := if context.isRecording then context.tell .checkpoint else context }
  | .enableLogging, .empty => { context := { context with logging := true } }
  | .fetchRecording, .empty => context.followedBy [.fetchOrReport]
  | .manifestStart, .binary _ manifest =>
    let (start, manifests) := context.manifests.push manifest
    { context := { context with manifests }, next := (start.map .startManifest).toList }
  | .externalCallResponse, .binary tag output =>
    let id := CallId.ofNumber? tag
    let (accepted, calls) := context.calls.deliver id output
    { context := { context with calls }, records := ExternalCalls.deliverRecords accepted id }
  | .recordingData, .binary offset data =>
    let chunk : Chunk := { offset, data }
    { context := { context with recording := (context.recording.addChunk chunk).2 }
      records := context.recording.chunkRecords chunk }
  | .logText, .binary _ data =>
    { context, records := [record .info (trimLogText (Utf8.decodeLossy data)) []] }
  | .sharedKeyResponse, .binary _ data =>
    let (accepted, keys) := context.keys.deliver (Utf8.decodeLossy data)
    { context := { context with keys }, records := SharedKeys.deliverRecords accepted }
  | _, _ => { context, records := [record .warn "Unexpected message" [kindField message]] }

/-- The root's answer to a request for the output of an external call. -/
def callResponse (context : Context) (fork : UInt32) (id : Option CallId) : Message :=
  match id.bind fun id => (context.calls.output? id).map fun output => (id, output) with
  | some (id, output) => .externalCallResponse fork id.number output
  | none => .externalCallUnavailable fork

/-- What a message from a fork does. The root answers what it can and sends the rest on. -/
def dispatchFork (context : Context) (main : Bool) (message : Message) : Outcome :=
  match message.kind, message.payload with
  | .updateRecording, .updateRecording start required =>
    context.followedBy [.ensureLength required, .answerRange message.fork start required]
  | .externalCallRequest, .binary tag _ =>
    context.followedBy [.route (context.callResponse message.fork (CallId.ofNumber? tag))]
  | .externalCallResponse, .binary tag output =>
    match CallId.ofNumber? tag with
    | none => { context }
    | some id =>
      { context := { context with calls := context.calls.insert id output }
        records := context.calls.insertRecords id output }
  | .scanData, .binary _ data => { context := context.tell (.scan data) }
  | .sharedKeySet, _ =>
    match message.sharedKeyEntry? with
    | none => { context }
    | some (key, value) =>
      let key := Utf8.decodeLossy key
      { context := { context with keys := context.keys.set key (Utf8.decodeLossy value) }
        records := [SharedKeys.setRecord key] }
  | .sharedKeyRequest, .binary _ key =>
    let value := context.keys.get (Utf8.decodeLossy key)
    context.followedBy [.route (.sharedKeyResponse message.fork value)]
  | _, _ => context.send main message

end Context

end Playback
