import Playback.Proofs.Keys.Wire
import Playback.Proofs.Tree.Moves

set_option autoImplicit false

namespace Playback

namespace Tree

/-- What a fork sends to the root. -/
inductive KeyUp (fork : UInt32) : Message → Prop where
  | set {key value : String} (framed : (Message.sharedKeySet fork key value).Framed) :
      KeyUp fork (.sharedKeySet fork key value)
  | request {key : String} (framed : (Message.sharedKeyRequest fork key).Framed) :
      KeyUp fork (.sharedKeyRequest fork key)

/-- What the root sends to a fork. -/
inductive KeyDown (fork : UInt32) : Message → Prop where
  | response {value : String} (framed : (Message.sharedKeyResponse fork value).Framed) :
      KeyDown fork (.sharedKeyResponse fork value)

theorem KeyUp.fork {fork : UInt32} {message : Message} (up : KeyUp fork message) :
    message.fork = fork := by
  cases up <;> rfl

theorem KeyDown.fork {fork : UInt32} {message : Message} (down : KeyDown fork message) :
    message.fork = fork := by
  cases down
  rfl

section
variable {fork : UInt32} {message : Message}

theorem KeyDown.not_ends (down : KeyDown fork message) : ForkTable.endsProcess message = false := by
  cases down
  rfl

theorem KeyDown.framed (down : KeyDown fork message) : message.Framed := by
  cases down with
  | response framed => exact framed

/-- What is sent up has a frame, and the frame brings it over. -/
theorem KeyUp.decodes (up : KeyUp fork message) :
    ∃ frame, message.encode = .ok frame ∧ Message.decode frame = .ok message := by
  cases up with
  | set framed => exact framed.decodes framed.readable_sharedKeySet
  | request framed => exact framed.decodes (Message.readable_sharedKeyRequest fork _)

theorem KeyDown.decodes (down : KeyDown fork message) :
    ∃ frame, message.encode = .ok frame ∧ Message.decode frame = .ok message := by
  cases down with
  | response framed => exact framed.decodes (Message.readable_sharedKeyResponse fork _)

end

section
variable {context : Context} {fork : UInt32}

theorem setKey_of_root (own : context.fork = fork) (root : fork = rootFork) (main : Bool)
    (key value : String) :
    context.setKey main key value =
      { context := { context with keys := context.keys.set key value }
        records := [SharedKeys.setRecord key] } :=
  if_pos (decide_eq_true (own.trans root))

theorem setKey_of_fork (own : context.fork = fork) (other : fork ≠ rootFork) (main : Bool)
    (key value : String) :
    context.setKey main key value = context.send main (.sharedKeySet fork key value) := by
  rw [Context.setKey, if_neg, own]
  exact fun root => other (own.symm.trans (of_decide_eq_true root))

theorem getKey_of_root (own : context.fork = fork) (root : fork = rootFork) (key : String) :
    context.getKey key = context.answering (.text (context.keys.get key)) :=
  if_pos (decide_eq_true (own.trans root))

theorem getKey_of_fork (own : context.fork = fork) (other : fork ≠ rootFork) (key : String) :
    context.getKey key =
      context.followedBy [.claimKey (.sharedKeyRequest fork key), .takeKey] := by
  rw [Context.getKey, if_neg, own]
  exact fun root => other (own.symm.trans (of_decide_eq_true root))

theorem handle_of_keyDown (own : context.fork = fork) {message : Message}
    (down : KeyDown fork message) :
    context.handle message =
      context.followedBy [.enterRead, .dispatch message, .leaveRead] := by
  rw [Context.handle, if_pos (down.fork.trans own.symm)]
  cases down
  rfl

theorem dispatch_response (context : Context) (main : Bool) (value : String) :
    context.dispatch main (.sharedKeyResponse fork value) =
      { context := { context with keys := (context.keys.deliver value).2 }
        records := SharedKeys.deliverRecords (context.keys.deliver value).1 } := by
  have same : context.dispatch main (.sharedKeyResponse fork value) =
      { context := { context with
          keys := (context.keys.deliver (Utf8.decodeLossy (Utf8.encode value))).2 }
        records := SharedKeys.deliverRecords
          (context.keys.deliver (Utf8.decodeLossy (Utf8.encode value))).1 } := rfl
  rw [same, Utf8.decodeLossy_encode]

theorem dispatchFork_set {key value : String}
    (framed : (Message.sharedKeySet fork key value).Framed) (context : Context) (main : Bool) :
    context.dispatchFork main (.sharedKeySet fork key value) =
      { context := { context with keys := context.keys.set key value }
        records := [SharedKeys.setRecord key] } := by
  have kind : (Message.sharedKeySet fork key value).kind = .sharedKeySet := rfl
  unfold Context.dispatchFork
  simp only [kind, framed.splits, Utf8.decodeLossy_encode]

theorem dispatchFork_request (context : Context) (main : Bool) (key : String) :
    context.dispatchFork main (.sharedKeyRequest fork key) =
      context.followedBy [.route (.sharedKeyResponse fork (context.keys.get key))] := by
  have same : context.dispatchFork main (.sharedKeyRequest fork key) =
      context.followedBy [.route (.sharedKeyResponse fork
        (context.keys.get (Utf8.decodeLossy (Utf8.encode key))))] := rfl
  rw [same, Utf8.decodeLossy_encode]

theorem route_sent {message : Message} (down : KeyDown fork message)
    {process : ForkedProcess Nat} (present : context.forks.process? message.fork = some process)
    (leads : process.handle = message.fork.toNat) :
    context.route message =
      { context
        effects := [message].map (Effect.send fork.toNat)
        records := ForkTable.routeRecords message (.sent process.handle false) } := by
  rw [route_delivers down.not_ends present leads, down.fork]

end

end Tree

end Playback
