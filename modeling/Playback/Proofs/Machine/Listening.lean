import Playback.Machine.Run
import Playback.Proofs.Disk.Paths

set_option autoImplicit false

namespace Playback

namespace Network

variable {network : Network} {path : String}

theorem endpoints_removeFile {free : Network} (removed : network.removeFile path = .ok free) :
    free.endpoints = network.endpoints := by
  unfold removeFile at removed
  cases checked : Disk.checkPath path .zeroInName with
  | error fault =>
    rw [checked] at removed
    cases removed
  | ok _ =>
    rw [checked] at removed
    dsimp only [Bind.bind, Except.bind] at removed
    split at removed
    · cases removed
      rfl
    · cases removed
    · split at removed <;> cases removed
      rfl

theorem endpoints_bind {ear : Ear} {listening : Network}
    (bound : network.bind path ear = .ok listening) :
    listening.endpoints = network.endpoints := by
  unfold Network.bind at bound
  cases checked : network.checkSocketPath path with
  | error fault =>
    rw [checked] at bound
    cases bound
  | ok _ =>
    cases place : network.disk.follow [] (Disk.components path) with
    | error fault =>
      rw [checked, place] at bound
      cases bound
    | ok place =>
      rw [checked, place] at bound
      cases bound
      rfl

/-- To listen takes a socket file, and no endpoint. -/
theorem endpoints_listen (network : Network) (path : String) (ear : Ear) :
    (network.listen path ear).2.endpoints = network.endpoints := by
  unfold listen
  cases removed : network.removeFile path with
  | error fault => rfl
  | ok cleared =>
    have same := endpoints_removeFile removed
    dsimp only
    cases bound : cleared.bind path ear with
    | error fault => exact same
    | ok listening => exact (endpoints_bind bound).trans same

theorem endpoint_openListening {opened : Network} {id : UInt32} {kind : ChannelKind}
    {endpoint : Nat} (opens : network.openListening id kind path = (.ok endpoint, opened)) :
    endpoint = network.endpoints.length := by
  have same := endpoints_listen network path (.channel network.endpoints.length)
  unfold openListening at opens
  split at opens
  · cases opens
  · rename_i listened
    rw [listened] at same
    cases opens
    exact congrArg List.length same

theorem endpoints_of_unopened {left : Network} {id : UInt32} {kind : ChannelKind} {fault : IoFault}
    (fails : network.openListening id kind path = (.error fault, left)) :
    left.endpoints = network.endpoints := by
  have same := endpoints_listen network path (.channel network.endpoints.length)
  unfold openListening at fails
  split at fails
  · rename_i listened
    rw [listened] at same
    cases fails
    exact same
  · cases fails

theorem length_of_opened {opened : Network} {id : UInt32} {kind : ChannelKind} {endpoint : Nat}
    (opens : network.openListening id kind path = (.ok endpoint, opened)) :
    opened.endpoints.length = network.endpoints.length + 1 := by
  have same := endpoints_listen network path (.channel network.endpoints.length)
  unfold openListening at opens
  split at opens
  · cases opens
  · rename_i listened
    rw [listened] at same
    cases opens
    change (_ ++ [_]).length = _
    rw [List.length_append, same]
    rfl

/-- A socket file in the current folder. -/
def nearbySocket : String := "replay-ipc-4194306-0.sock"

/-- On an empty disk it can be made. -/
theorem opens_nearbySocket (disk : network.disk = {})
    (limit : network.pathLimit = ({} : Network).pathLimit) : ∃ opened,
    network.openListening 0 .replayForked nearbySocket =
      (.ok network.endpoints.length, opened) := by
  have names : Disk.components nearbySocket = [nearbySocket] :=
    Disk.components_of_plain (by decide)
  have opens : (network.openListening 0 .replayForked nearbySocket).1.isOk = true := by
    obtain ⟨endpoints, peers, listeners, _, _⟩ := network
    cases disk
    cases limit
    unfold openListening listen removeFile Network.bind
    simp only [names]
    rfl
  cases found : network.openListening 0 .replayForked nearbySocket with
  | mk outcome opened =>
    cases outcome with
    | error fault =>
      rw [found] at opens
      cases opens
    | ok endpoint =>
      cases endpoint_openListening found
      exact ⟨opened, rfl⟩

end Network

end Playback
