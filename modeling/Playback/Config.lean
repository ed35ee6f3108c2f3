import Playback.Failure
import Playback.Text.Number

set_option autoImplicit false

namespace Playback

inductive Role where
  | recording
  | replaying
  deriving DecidableEq, Repr

def Role.name : Role → String
  | recording => "Recording"
  | replaying => "Replaying"

def Role.parse? (text : String) : Option Role :=
  if text = "record" || text = "recording" then some recording
  else if text = "replay" || text = "replaying" then some replaying
  else none

inductive LaunchOption where
  | middlemanPid
  | channelId
  deriving DecidableEq, Repr

def LaunchOption.name : LaunchOption → String
  | middlemanPid => "-middlemanPid"
  | channelId => "-recordReplayChannelID"

def LaunchOption.ofName? (argument : String) : Option LaunchOption :=
  if argument = middlemanPid.name then some middlemanPid
  else if argument = channelId.name then some channelId
  else none

inductive Setting where
  | socketFolder
  | offlineFolder
  | recordingName
  | recordingMode
  | logFilter
  deriving DecidableEq, Repr

/-- The environment variable that holds a setting. -/
def Setting.variable : Setting → String
  | socketFolder => "REPLAY_IPC_SOCKET_DIR"
  | offlineFolder => "WEBREPLAY_OFFLINE"
  | recordingName => "REPLAY_IPC_RECORDING"
  | recordingMode => "REPLAY_IPC_RECORDING_MODE"
  | logFilter => "REPLAY_IPC_LOG"

def defaultLogFilter : String := "replay_ipc=info"

/-- Launch-time configuration of a recording or replaying child, read from launch options and
overlaid with settings from the environment. -/
structure Config where
  role : Role := .replaying
  channelId : UInt32 := 0
  middlemanPid : UInt32 := 0
  forkId : UInt32 := rootFork
  socketFolder : String := "/tmp"
  offlineFolder : Option String := none
  recordingName : Option String := none
  /-- How many milliseconds a new fork waits for its root to connect. -/
  forkTimeout : UInt64 := 10000
  logFilter : String := defaultLogFilter
  deriving DecidableEq, Repr

namespace Config

def isRecording (config : Config) : Bool := config.role = .recording

def isReplaying (config : Config) : Bool := config.role = .replaying

/-- The value behind an option. -/
def optionValue (option : LaunchOption) (text : String) : Except Failure UInt32 :=
  match Number.word32? text with
  | some value => .ok value
  | none => .error (.invalidOption option.name text)

def readOptions (config : Config) (channelId : Option UInt32) : List String →
    Except Failure Config
  | [] =>
    match channelId with
    | some value => .ok { config with channelId := value }
    | none => .error (.missingOption LaunchOption.channelId.name)
  | [argument] =>
    match LaunchOption.ofName? argument with
    | some option => .error (.missingOption option.name)
    | none => readOptions config channelId []
  | argument :: value :: rest =>
    match LaunchOption.ofName? argument with
    | none => readOptions config channelId (value :: rest)
    | some .channelId => do
      let id ← optionValue .channelId value
      readOptions config (some id) rest
    | some .middlemanPid => do
      let pid ← optionValue .middlemanPid value
      readOptions { config with middlemanPid := pid } channelId rest

/-- Options are read from the left, among other arguments, and the last value of an option stands.
The channel id has to be there. -/
def ofArguments (role : Role) (arguments : List String) : Except Failure Config :=
  readOptions { role } none arguments

/-- The configuration with what the environment sets. -/
def overlay (config : Config) (lookup : String → Option String) : Except Failure Config :=
  let found (setting : Setting) := lookup setting.variable
  let placed := { config with
    socketFolder := (found .socketFolder).getD config.socketFolder
    offlineFolder := (found .offlineFolder).orElse fun _ => config.offlineFolder
    recordingName := (found .recordingName).orElse fun _ => config.recordingName
    logFilter := (found .logFilter).getD config.logFilter }
  match found .recordingMode with
  | none => .ok placed
  | some mode =>
    match Role.parse? mode with
    | some role => .ok { placed with role }
    | none => .error (.invalidOption Setting.recordingMode.variable mode)

end Config

end Playback
