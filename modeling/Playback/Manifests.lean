import Playback.Crew
import Playback.Bytes

set_option autoImplicit false

namespace Playback

/-- Manifests waiting for the main thread. At most one is being processed; pushing one or finishing
one tells which manifest, if any, has to be started now. -/
structure Manifests where
  pending : List Bytes := []
  processing : Bool := false
  deriving DecidableEq, Repr

namespace Manifests

/-- Takes the first pending manifest for processing, unless one is being processed. -/
def startNext (manifests : Manifests) : Option Bytes × Manifests :=
  match manifests.processing, manifests.pending with
  | false, manifest :: rest => (some manifest, { pending := rest, processing := true })
  | _, _ => (none, manifests)

def push (manifests : Manifests) (manifest : Bytes) : Option Bytes × Manifests :=
  startNext { manifests with pending := manifests.pending ++ [manifest] }

def finish (manifests : Manifests) : Option Bytes × Manifests :=
  startNext { manifests with processing := false }

/-- Drops what waits; what is being processed goes on. -/
def clearPending (manifests : Manifests) : Manifests := { manifests with pending := [] }

def isIdle (manifests : Manifests) : Bool := !manifests.processing && manifests.pending.isEmpty

inductive Call where
  | push (manifest : Bytes)
  | finish
  | clearPending
  | awaitIdle
  deriving DecidableEq, Repr

inductive Answer where
  | start (manifest : Option Bytes)
  | cleared
  | idle
  deriving DecidableEq, Repr

def Call.move (call : Call) (manifests : Manifests) : Option (Move Manifests Call Answer) :=
  match call with
  | .push manifest =>
    let (start, changed) := manifests.push manifest
    some { state := changed, next := .inr (.start start) }
  | .finish =>
    let (start, changed) := manifests.finish
    some { state := changed, next := .inr (.start start) }
  | .clearPending => some { state := manifests.clearPending, next := .inr .cleared }
  | .awaitIdle => if manifests.isIdle then some { state := manifests, next := .inr .idle } else none

end Manifests

end Playback
