import Playback.Config
import Playback.CrashReport
import Playback.Demo.Tour
import Playback.ExternalCalls
import Playback.ForkDesk
import Playback.Lock.Threads
import Playback.Main
import Playback.Manifests
import Playback.Proofs.Channel.Delivery
import Playback.Proofs.Config.Arguments
import Playback.Proofs.CrashReport.Frame
import Playback.Proofs.ExternalCalls.Answering
import Playback.Proofs.ExternalCalls.Cache
import Playback.Proofs.ExternalCalls.Returning
import Playback.Proofs.ForkTable.Conservation
import Playback.Proofs.ForkTable.Ending
import Playback.Proofs.Handling.Confined
import Playback.Proofs.Handling.ForkMessages
import Playback.Proofs.Handling.Terminating
import Playback.Proofs.Keys.Store
import Playback.Proofs.Lock.Pull
import Playback.Proofs.Lock.Sleepers
import Playback.Proofs.Lock.Standing
import Playback.Proofs.Lock.Strands
import Playback.Proofs.Lock.Urgent
import Playback.Proofs.Manifests.InTurn
import Playback.Proofs.Manifests.Pausing
import Playback.Proofs.Manifests.Queueing
import Playback.Proofs.Manifests.Splitting
import Playback.Proofs.Message.Canonical
import Playback.Proofs.Message.Hash
import Playback.Proofs.Message.Reading
import Playback.Proofs.Message.RoundTrip
import Playback.Proofs.Network.Sockets
import Playback.Proofs.Outputs.Spread
import Playback.Proofs.Recording.Overtaking
import Playback.Proofs.Recording.Taking
import Playback.Proofs.Region.Access
import Playback.Proofs.Slot.Inherited
import Playback.Proofs.Slot.Pairing
import Playback.Proofs.TaskQueue.Draining
import Playback.Proofs.Tree.Acts
import Playback.Proofs.Tree.Agreement
import Playback.Proofs.Tree.CatchingUp
import Playback.Proofs.Tree.Changes
import Playback.Proofs.Tree.Sane
import Playback.Proofs.Tree.Turns
import Playback.Recording
import Playback.SharedKeys
import Playback.Switchboard
import Playback.TaskQueue
