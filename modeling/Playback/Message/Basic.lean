import Playback.Message.Kind
import Playback.Text.Utf8

set_option autoImplicit false

namespace Playback

/-- Startup arguments that the middleman hands to a child. -/
structure Introduction where
  parentPid : UInt32 := 0
  argv : List String := []
  deriving DecidableEq, Repr

inductive Payload where
  | empty
  | introduction (content : Introduction)
  | error (text : String)
  | ping (id : UInt32)
  | pingResponse (id : UInt32) (progress : UInt64)
  | paint (width height : UInt32)
  | updateRecording (start required : UInt64)
  | binary (tag : UInt64) (data : Bytes)
  deriving DecidableEq, Repr

namespace Payload

def layout : Payload → Layout
  | empty => .empty
  | introduction _ => .introduction
  | error _ => .error
  | ping _ => .ping
  | pingResponse _ _ => .pingResponse
  | paint _ _ => .paint
  | updateRecording _ _ => .updateRecording
  | binary _ _ => .binary

def encodeArgument (argument : String) : Bytes := Utf8.encode argument ++ [0]

def encode : Payload → Bytes
  | empty => []
  | introduction content =>
    word32 content.parentPid ++ word32 (UInt32.ofNat content.argv.length) ++
      content.argv.flatMap encodeArgument
  | error text => Utf8.encode text ++ [0]
  | ping id => word32 id
  | pingResponse id progress => word32 id ++ word64 progress
  | paint width height => word32 width ++ word32 height
  | updateRecording start required => word64 start ++ word64 required
  | binary tag data => word64 tag ++ data

/-- The room that arguments take, each with the zero byte behind it. -/
def argumentsSize : List String → Nat
  | [] => 0
  | argument :: rest => (Utf8.encode argument).length + 1 + argumentsSize rest

theorem length_encodeArguments (argv : List String) :
    (argv.flatMap encodeArgument).length = argumentsSize argv := by
  induction argv with
  | nil => rfl
  | cons argument rest ih =>
    simp only [List.flatMap_cons, List.length_append, ih, argumentsSize, encodeArgument,
      List.length_cons, List.length_nil]

/-- The number of bytes that `encode` writes. -/
def size : Payload → Nat
  | empty => 0
  | introduction content => 8 + argumentsSize content.argv
  | error text => (Utf8.encode text).length + 1
  | ping _ => 4
  | pingResponse _ _ => 12
  | paint _ _ => 8
  | updateRecording _ _ => 16
  | binary _ data => 8 + data.length

@[simp] theorem length_encode (payload : Payload) : payload.encode.length = payload.size := by
  cases payload with
  | introduction content =>
    simp only [encode, size, List.length_append, length_word32, length_encodeArguments]
  | _ => simp [encode, size]

end Payload

/-- The flag of messages whose payload is large. -/
def bulkFlag : UInt16 := 1

/-- The fork id of a process that was never forked. -/
def rootFork : UInt32 := 0

/-- A message between a middleman, its recording and replaying children, and the forks of a root. It
carries a payload of the layout of its kind. -/
structure Message where
  flags : UInt16 := 0
  kind : Kind
  fork : UInt32
  payload : Payload
  fits : payload.layout = kind.layout
  deriving DecidableEq, Repr

namespace Message

/-- A message whose payload may not have the layout of the kind. -/
def make? (kind : Kind) (fork : UInt32) (payload : Payload) : Option Message :=
  if fits : payload.layout = kind.layout then some { kind, fork, payload, fits } else none

def empty? (kind : Kind) (fork : UInt32) : Option Message := make? kind fork .empty

def binary? (kind : Kind) (fork : UInt32) (tag : UInt64) (data : Bytes) : Option Message :=
  make? kind fork (.binary tag data)

def introduction (parentPid : UInt32) (argv : List String) : Message where
  kind := .introduction
  fork := rootFork
  payload := .introduction { parentPid, argv }
  fits := rfl

def terminate (fork : UInt32) : Message where
  kind := .terminate
  fork := fork
  payload := .empty
  fits := rfl

def crash (fork : UInt32) : Message where
  kind := .crash
  fork := fork
  payload := .empty
  fits := rfl

def createCheckpoint (fork : UInt32) : Message where
  kind := .createCheckpoint
  fork := fork
  payload := .empty
  fits := rfl

def fetchRecording (fork : UInt32) : Message where
  kind := .fetchRecording
  fork := fork
  payload := .empty
  fits := rfl

def enableLogging (fork : UInt32) : Message where
  kind := .enableLogging
  fork := fork
  payload := .empty
  fits := rfl

def unhandledDivergence (fork : UInt32) : Message where
  kind := .unhandledDivergence
  fork := fork
  payload := .empty
  fits := rfl

def fatalError (fork : UInt32) (text : String) : Message where
  kind := .fatalError
  fork := fork
  payload := .error text
  fits := rfl

def criticalError (fork : UInt32) (text : String) : Message where
  kind := .criticalError
  fork := fork
  payload := .error text
  fits := rfl

def ping (fork id : UInt32) : Message where
  kind := .ping
  fork := fork
  payload := .ping id
  fits := rfl

def pingResponse (fork id : UInt32) (progress : UInt64) : Message where
  kind := .pingResponse
  fork := fork
  payload := .pingResponse id progress
  fits := rfl

def paint (width height : UInt32) : Message where
  kind := .paint
  fork := rootFork
  payload := .paint width height
  fits := rfl

def updateRecording (fork : UInt32) (start required : UInt64) : Message where
  kind := .updateRecording
  fork := fork
  payload := .updateRecording start required
  fits := rfl

def manifestStart (fork : UInt32) (manifest : Bytes) : Message where
  kind := .manifestStart
  fork := fork
  payload := .binary 0 manifest
  fits := rfl

def manifestFinished (fork : UInt32) (response : Bytes) : Message where
  kind := .manifestFinished
  fork := fork
  payload := .binary 0 response
  fits := rfl

def externalCallRequest (fork : UInt32) (call : UInt64) (input : Bytes) : Message where
  kind := .externalCallRequest
  fork := fork
  payload := .binary call input
  fits := rfl

def externalCallResponse (fork : UInt32) (call : UInt64) (output : Bytes) : Message where
  kind := .externalCallResponse
  fork := fork
  payload := .binary call output
  fits := rfl

/-- Tells the requester that the output of its call is not known. -/
def externalCallUnavailable (fork : UInt32) : Message where
  kind := .externalCallResponse
  fork := fork
  payload := .binary 0 []
  fits := rfl

def recordingData (fork : UInt32) (offset : UInt64) (data : Bytes) : Message where
  kind := .recordingData
  fork := fork
  payload := .binary offset data
  fits := rfl

def scanData (fork : UInt32) (data : Bytes) : Message where
  kind := .scanData
  fork := fork
  payload := .binary 0 data
  fits := rfl

def logText (fork : UInt32) (text : String) : Message where
  kind := .logText
  fork := fork
  payload := .binary 0 (Utf8.encode text)
  fits := rfl

/-- Key and value stand back to back, and the tag is the length of the key. -/
def sharedKeySet (fork : UInt32) (key value : String) : Message where
  kind := .sharedKeySet
  fork := fork
  payload := .binary (UInt64.ofNat (Utf8.encode key).length) (Utf8.encode key ++ Utf8.encode value)
  fits := rfl

def sharedKeyRequest (fork : UInt32) (key : String) : Message where
  kind := .sharedKeyRequest
  fork := fork
  payload := .binary 0 (Utf8.encode key)
  fits := rfl

def sharedKeyResponse (fork : UInt32) (value : String) : Message where
  kind := .sharedKeyResponse
  fork := fork
  payload := .binary 0 (Utf8.encode value)
  fits := rfl

def withBulk (message : Message) : Message :=
  { message with flags := message.flags ||| bulkFlag }

def withFork (message : Message) (fork : UInt32) : Message := { message with fork }

def isBulk (message : Message) : Bool := message.flags &&& bulkFlag != 0

def tag? (message : Message) : Option UInt64 :=
  match message.payload with
  | .binary tag _ => some tag
  | _ => none

def data? (message : Message) : Option Bytes :=
  match message.payload with
  | .binary _ data => some data
  | _ => none

def introduction? (message : Message) : Option Introduction :=
  match message.payload with
  | .introduction content => some content
  | _ => none

def errorText? (message : Message) : Option String :=
  match message.payload with
  | .error text => some text
  | _ => none

/-- The key and value of a message that sets a shared key. -/
def sharedKeyEntry? (message : Message) : Option (Bytes × Bytes) :=
  match message.kind, message.payload with
  | .sharedKeySet, .binary tag data =>
    if tag.toNat ≤ data.length then some (data.splitAt tag.toNat) else none
  | _, _ => none

end Message

end Playback
