set_option autoImplicit false

/- The closed catalog of message kinds: the number of each on the wire, its name, the shape of
its payload, and when the rule on send directions lets it cross. The number 9 is retired. -/
namespace Playback

inductive Layout where
  | empty
  | introduction
  | error
  | ping
  | pingResponse
  | paint
  | updateRecording
  | binary
  deriving DecidableEq, Repr

def Layout.name : Layout → String
  | .empty => "Empty"
  | .introduction => "Introduction"
  | .error => "Error"
  | .ping => "Ping"
  | .pingResponse => "PingResponse"
  | .paint => "Paint"
  | .updateRecording => "UpdateRecording"
  | .binary => "Binary"

inductive Kind where
  | introduction
  | criticalError
  | ping
  | terminate
  | crash
  | createCheckpoint
  | manifestStart
  | externalCallResponse
  | fetchRecording
  | enableLogging
  | manifestFinished
  | pingResponse
  | unhandledDivergence
  | fatalError
  | paint
  | externalCallRequest
  | updateRecording
  | scanData
  | recordingData
  | logText
  | sharedKeySet
  | sharedKeyRequest
  | sharedKeyResponse
  deriving DecidableEq, Repr

/-- The side a message is sent towards, seen from the child process. -/
inductive Direction where
  | toChild
  | fromChild
  deriving DecidableEq, Repr

namespace Kind

/-- The catalog in the order of its numbers. -/
def all : List Kind :=
  [introduction, criticalError, ping, terminate, crash, createCheckpoint, manifestStart,
    externalCallResponse, fetchRecording, enableLogging, manifestFinished, pingResponse,
    unhandledDivergence, fatalError, paint, externalCallRequest, updateRecording, scanData,
    recordingData, logText, sharedKeySet, sharedKeyRequest, sharedKeyResponse]

def number : Kind → UInt16
  | introduction => 0
  | criticalError => 1
  | ping => 2
  | terminate => 3
  | crash => 4
  | createCheckpoint => 5
  | manifestStart => 6
  | externalCallResponse => 7
  | fetchRecording => 8
  | enableLogging => 10
  | manifestFinished => 11
  | pingResponse => 12
  | unhandledDivergence => 13
  | fatalError => 14
  | paint => 15
  | externalCallRequest => 16
  | updateRecording => 17
  | scanData => 18
  | recordingData => 19
  | logText => 20
  | sharedKeySet => 21
  | sharedKeyRequest => 22
  | sharedKeyResponse => 23

def ofNumber? (number : UInt16) : Option Kind := all.find? fun kind => kind.number = number

def name : Kind → String
  | introduction => "Introduction"
  | criticalError => "CriticalError"
  | ping => "Ping"
  | terminate => "Terminate"
  | crash => "Crash"
  | createCheckpoint => "CreateCheckpoint"
  | manifestStart => "ManifestStart"
  | externalCallResponse => "ExternalCallResponse"
  | fetchRecording => "FetchCloudRecordingData"
  | enableLogging => "EnableLogging"
  | manifestFinished => "ManifestFinished"
  | pingResponse => "PingResponse"
  | unhandledDivergence => "UnhandledDivergence"
  | fatalError => "FatalError"
  | paint => "Paint"
  | externalCallRequest => "ExternalCallRequest"
  | updateRecording => "UpdateRecordingFromRoot"
  | scanData => "ScanData"
  | recordingData => "RecordingData"
  | logText => "LogText"
  | sharedKeySet => "SharedKeySet"
  | sharedKeyRequest => "SharedKeyRequest"
  | sharedKeyResponse => "SharedKeyResponse"

def ofName? (name : String) : Option Kind := all.find? fun kind => kind.name = name

def layout : Kind → Layout
  | introduction => .introduction
  | criticalError | fatalError => .error
  | ping => .ping
  | pingResponse => .pingResponse
  | paint => .paint
  | updateRecording => .updateRecording
  | terminate | crash | createCheckpoint | fetchRecording | enableLogging
  | unhandledDivergence => .empty
  | manifestStart | manifestFinished | externalCallRequest | externalCallResponse | scanData
  | recordingData | logText | sharedKeySet | sharedKeyRequest | sharedKeyResponse => .binary

/-- A hung main thread may hold the fork lock, so stopping a process and asking whether it is
alive do not wait for a pause. -/
def isUrgent : Kind → Bool
  | terminate | crash | ping => true
  | _ => false

/-- Children send while they run and middlemen while the child is paused, so that a child that
rewinds loses nothing. -/
def maySend (kind : Kind) (direction : Direction) (paused : Bool) : Bool :=
  kind.isUrgent ||
    match direction with
    | .fromChild => !paused
    | .toChild => paused

@[simp] theorem ofNumber?_number (kind : Kind) : ofNumber? kind.number = some kind := by
  cases kind <;> rfl

theorem number_of_ofNumber? {number : UInt16} {kind : Kind}
    (found : ofNumber? number = some kind) : kind.number = number := by
  simpa using List.find?_some found

end Kind

end Playback
