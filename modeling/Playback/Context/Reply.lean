import Playback.ExternalCalls
import Playback.Failure

set_option autoImplicit false

namespace Playback

/-- What a root knows of a fork, and of the process with some number. -/
structure ForkNews where
  registered : Bool
  pid : Option UInt32
  held : Nat
  ofPid : Option UInt32
  /-- No fork at all is registered. -/
  nobody : Bool
  deriving DecidableEq, Repr

structure RoleNews where
  root : Bool
  recording : Bool
  replaying : Bool
  progress : UInt64
  deriving DecidableEq, Repr

/-- What starting an observer of signals did. -/
structure ObserverNews where
  before : Bool
  failure : Option Failure
  after : Bool
  deriving DecidableEq, Repr

inductive Reply where
  | done
  | failed (failure : Failure)
  /-- The fault of a peer that writes. -/
  | fault (fault : IoFault)
  | defect (error : FrameError)
  | text (text : String)
  /-- A text of the library's own making: a path, or the state of a child. -/
  | description (text : String)
  | bytes (bytes : Bytes)
  | known (bytes : Option Bytes)
  | count (count : Nat)
  | truth (value : Bool)
  | introduction (content : Introduction)
  | output (output : CallOutput)
  /-- The output of a call, and the input of the run that made it, if there was one. -/
  | performed (output : Bytes) (input : Option Bytes)
  | saved (path : String) (contents : Bytes)
  | entry (count : Nat) (value : String)
  | notes (notes : List String) (recorded : String)
  | roles (news : RoleNews)
  | forkNews (news : ForkNews)
  /-- The calling process goes on beside its new fork. -/
  | parent
  | registered (samePid : Bool) (ofPid : Option UInt32)
  | exited (normally : Bool) (code : Nat)
  | status (code : Int)
  | forkId (fork : UInt32)
  | installed (fork : Option UInt32)
  | observing (news : ObserverNews)
  | noHandler
  | written
  | hungUp
  | unknownName
  deriving DecidableEq, Repr

end Playback
