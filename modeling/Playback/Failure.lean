import Playback.Message.Frame
import Playback.Text.Quoted

set_option autoImplicit false

namespace Playback

/-- Failures reported by the system: streams, files, sockets, mappings and signals. -/
inductive IoFault where
  | endInHeader
  | endInBody
  | connectionReset
  | wouldBlock
  | missingFile
  | isFolder
  | notFolder
  | notSocketFile
  | connectionRefused
  | nameTooLong
  | zeroInName
  | zeroInPath
  | pathTooLong
  | bindFailed (path : String) (cause : IoFault)
  | connectFailed (path : String) (cause : IoFault)
  | emptyMapping
  | outOfMemory
  | observerRunning
  | observerRefused
  | uncatchableSignal
  | brokenPipe
  deriving DecidableEq, Repr

def IoFault.message : IoFault → String
  | endInHeader => "unexpected end of file"
  | endInBody => "failed to fill whole buffer"
  | connectionReset => "connection reset"
  | wouldBlock => "operation would block"
  | missingFile => "No such file or directory (os error 2)"
  | isFolder => "Is a directory (os error 21)"
  | notFolder => "Not a directory (os error 20)"
  | notSocketFile => "No such device or address (os error 6)"
  | connectionRefused => "Connection refused (os error 111)"
  | nameTooLong => "File name too long (os error 36)"
  | zeroInName => "file name contained an unexpected NUL byte"
  | zeroInPath => "paths must not contain interior null bytes"
  | pathTooLong => "path must be shorter than SUN_LEN"
  | bindFailed path cause =>
    "Failed to bind channel socket at " ++ path ++ ": " ++ cause.message
  | connectFailed path cause =>
    "Failed to connect to channel socket at " ++ path ++ ": " ++ cause.message
  | emptyMapping => "Anonymous mapping must not be empty"
  | outOfMemory => "Cannot allocate memory (os error 12)"
  | observerRunning => "A crash observer is already running"
  | observerRefused => "observer refused"
  | uncatchableSignal => "Invalid argument (os error 22)"
  | brokenPipe => "Broken pipe (os error 32)"

/-- A fault on the way to a socket is filed under its cause. -/
def IoFault.category : IoFault → String
  | endInHeader | endInBody => "UnexpectedEof"
  | connectionReset => "ConnectionReset"
  | wouldBlock => "WouldBlock"
  | missingFile => "NotFound"
  | isFolder => "IsADirectory"
  | notFolder => "NotADirectory"
  | notSocketFile => "Uncategorized"
  | connectionRefused => "ConnectionRefused"
  | nameTooLong => "InvalidFilename"
  | zeroInName | zeroInPath | pathTooLong | emptyMapping | uncatchableSignal => "InvalidInput"
  | bindFailed _ cause | connectFailed _ cause => cause.category
  | outOfMemory => "OutOfMemory"
  | observerRunning | observerRefused => "AlreadyExists"
  | brokenPipe => "BrokenPipe"

/-- Operations that exist only in some roles of a process. -/
inductive RoleOperation where
  | forkListener
  | performFork
  deriving DecidableEq, Repr

def RoleOperation.name : RoleOperation → String
  | forkListener => "fork listener"
  | performFork => "perform_fork"

inductive Failure where
  | io (fault : IoFault)
  | frame (error : FrameError)
  | endOfRecording (length : Nat)
  | missingOption (name : String)
  | invalidOption (name value : String)
  | offlineFolderUnset
  | recordingNameUnset
  | wrongRole (operation : RoleOperation)
  deriving DecidableEq, Repr

def Failure.category : Failure → String
  | io fault => "Io:" ++ fault.category
  | frame error => error.category
  | endOfRecording _ => "EndOfRecording"
  | missingOption _ => "MissingArgument"
  | invalidOption _ _ => "InvalidArgument"
  | offlineFolderUnset => "OfflineDirectoryUnset"
  | recordingNameUnset => "RecordingNameUnset"
  | wrongRole _ => "WrongRole"

def Failure.message : Failure → String
  | io fault => "I/O error: " ++ fault.message
  | frame error => error.message
  | endOfRecording length => "hit end of recording (" ++ toString length ++ " bytes)"
  | missingOption name => "missing launch argument " ++ name
  | invalidOption name value => "invalid value for " ++ name ++ ": " ++ Quoted.quote value
  | offlineFolderUnset =>
    "offline recording directory is not configured (set WEBREPLAY_OFFLINE)"
  | recordingNameUnset => "no recording name is configured"
  | wrongRole operation => operation.name ++ " is not available in this process role"

end Playback
