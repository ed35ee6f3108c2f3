import Playback.Proofs.ExternalCalls.Cache
import Playback.Proofs.ForkTable.Lookup
import Playback.Proofs.Tree.Turns

set_option autoImplicit false

namespace Playback

namespace Tree

/-! Outputs and where they come from -/

/-- What was performed in a tree so far, and which outputs its root knows. -/
structure Knowledge where
  outputs : List Performed
  atRoot : CallId → Option Bytes

def knowledge (tree : Tree) : Knowledge where
  outputs := tree.outputs
  atRoot := tree.output? rootFork

/-- Nothing that was performed or that the root knows is lost. -/
structure Knowledge.Grows (before after : Knowledge) : Prop where
  outputs : before.outputs ⊆ after.outputs
  atRoot : ∀ id output, before.atRoot id = some output → after.atRoot id = some output

/-- An output was performed somewhere in the tree, and outside the root it is what the root knows or
what a fork has performed. -/
structure Sourced (known : Knowledge) (fork : UInt32) (id : CallId) (output : Bytes) : Prop where
  performed : ∃ who, { fork := who, id, output } ∈ known.outputs
  shared : fork = rootFork ∨ known.atRoot id = some output ∨
    ∃ who, who ≠ rootFork ∧ { fork := who, id, output } ∈ known.outputs

theorem Sourced.grows {before after : Knowledge} (grows : before.Grows after) {fork : UInt32}
    {id : CallId} {output : Bytes} (sourced : Sourced before fork id output) :
    Sourced after fork id output where
  performed := sourced.performed.imp fun _ there => grows.outputs there
  shared := sourced.shared.imp_right fun elsewhere =>
    elsewhere.imp (grows.atRoot id output) fun ⟨who, other, there⟩ =>
      ⟨who, other, grows.outputs there⟩

theorem Sourced.atRoot {known : Knowledge} {fork : UInt32} {id : CallId} {output : Bytes}
    (sourced : Sourced known fork id output) : Sourced known rootFork id output where
  performed := sourced.performed
  shared := Or.inl rfl

theorem Sourced.ofPerformed {known : Knowledge} {fork : UInt32} {id : CallId} {output : Bytes}
    (there : { fork, id, output } ∈ known.outputs) : Sourced known fork id output where
  performed := ⟨fork, there⟩
  shared := by
    by_cases root : fork = rootFork
    · exact Or.inl root
    · exact Or.inr (Or.inr ⟨fork, root, there⟩)

/-! Messages -/

/-- What a process sends up: requests for the call that it asks for, and outputs. -/
inductive Upward (known : Knowledge) (asked : Option CallId) (fork : UInt32) : Message → Prop where
  | request {id : CallId} (input : Bytes) (same : asked = some id) :
      Upward known asked fork (.externalCallRequest fork id.number input)
  | report {id : CallId} {output : Bytes} (sourced : Sourced known rootFork id output) :
      Upward known asked fork (.externalCallResponse fork id.number output)

/-- What comes down to a process: answers for the call that it asks for. -/
inductive Downward (known : Knowledge) (asked : Option CallId) (fork : UInt32) :
    Message → Prop where
  | available {id : CallId} {output : Bytes} (same : asked = some id)
      (sourced : Sourced known fork id output) :
      Downward known asked fork (.externalCallResponse fork id.number output)
  | unavailable : Downward known asked fork (.externalCallUnavailable fork)

theorem Upward.grows {before after : Knowledge} (grows : before.Grows after) {asked : Option CallId}
    {fork : UInt32} {message : Message} (upward : Upward before asked fork message) :
    Upward after asked fork message := by
  cases upward with
  | request input same => exact .request input same
  | report sourced => exact .report (sourced.grows grows)

theorem Downward.grows {before after : Knowledge} (grows : before.Grows after)
    {asked : Option CallId} {fork : UInt32} {message : Message}
    (downward : Downward before asked fork message) :
    Downward after asked fork message := by
  cases downward with
  | available same sourced => exact .available same (sourced.grows grows)
  | unavailable => exact .unavailable

theorem Upward.fork {known : Knowledge} {asked : Option CallId} {fork : UInt32} {message : Message}
    (upward : Upward known asked fork message) : message.fork = fork := by
  cases upward <;> rfl

theorem Downward.fork {known : Knowledge} {asked : Option CallId} {fork : UInt32}
    {message : Message} (downward : Downward known asked fork message) : message.fork = fork := by
  cases downward <;> rfl

theorem Downward.kind {known : Knowledge} {asked : Option CallId} {fork : UInt32}
    {message : Message} (downward : Downward known asked fork message) :
    message.kind = .externalCallResponse := by
  cases downward <;> rfl

theorem Downward.not_ends {known : Knowledge} {asked : Option CallId} {fork : UInt32}
    {message : Message} (down : Downward known asked fork message) :
    ForkTable.endsProcess message = false := by
  rw [ForkTable.endsProcess, down.kind]
  rfl

def isRequest (message : Message) : Bool := message.kind = .externalCallRequest

/-- Of what a process sends up, only a request depends on what it asks for. -/
theorem Upward.ask {known : Knowledge} {asked : Option CallId} {fork : UInt32} {message : Message}
    (upward : Upward known asked fork message) (idle : isRequest message = false)
    (next : Option CallId) : Upward known next fork message := by
  cases upward with
  | request input same => cases idle
  | report sourced => exact .report sourced

/-! Programs -/

/-- An action of a thread for which nobody claims or awaits anything. -/
inductive Sound (known : Knowledge) (asked : UInt32 → Option CallId) (owner : UInt32) :
    Action → Prop where
  | lookupCall (id : CallId) (input : Bytes) : Sound known asked owner (.lookupCall id input)
  | performUnlessKnown (id : CallId) (input output : Bytes) :
      Sound known asked owner (.performUnlessKnown id input output)
  | publishCall (id : CallId) (output : Bytes) : Sound known asked owner (.publishCall id output)
  | keepCall {id : CallId} {output : Bytes} (sourced : Sourced known owner id output) :
      Sound known asked owner (.keepCall id output)
  | send {id : CallId} {output : Bytes} (sourced : Sourced known rootFork id output) :
      Sound known asked owner (.send (.externalCallResponse owner id.number output))
  | answer (reply : Reply) : Sound known asked owner (.answer reply)
  | enterRead : Sound known asked owner .enterRead
  | leaveRead : Sound known asked owner .leaveRead
  | handle {message : Message} (down : Downward known (asked owner) owner message) :
      Sound known asked owner (.handle message)
  | dispatch {message : Message} (down : Downward known (asked owner) owner message) :
      Sound known asked owner (.dispatch message)
  | handleFork {fork : UInt32} {message : Message} (root : owner = rootFork)
      (other : fork ≠ rootFork) (up : Upward known (asked fork) fork message) :
      Sound known asked owner (.handleFork message)
  | dispatchFork {fork : UInt32} {message : Message} (root : owner = rootFork)
      (other : fork ≠ rootFork) (up : Upward known (asked fork) fork message) :
      Sound known asked owner (.dispatchFork message)
  | route {fork : UInt32} {message : Message} (root : owner = rootFork) (other : fork ≠ rootFork)
      (down : Downward known (asked fork) fork message) : Sound known asked owner (.route message)
  | register {fork : UInt32} (pid : UInt32) (root : owner = rootFork) (other : fork ≠ rootFork) :
      Sound known asked owner (.register fork pid fork.toNat)

theorem Sound.grows {before after : Knowledge} (grows : before.Grows after)
    {asked : UInt32 → Option CallId} {owner : UInt32} {action : Action}
    (sound : Sound before asked owner action) :
    Sound after asked owner action := by
  cases sound with
  | lookupCall id input => exact .lookupCall id input
  | performUnlessKnown id input output => exact .performUnlessKnown id input output
  | publishCall id output => exact .publishCall id output
  | keepCall sourced => exact .keepCall (sourced.grows grows)
  | send sourced => exact .send (sourced.grows grows)
  | answer reply => exact .answer reply
  | enterRead => exact .enterRead
  | leaveRead => exact .leaveRead
  | handle down => exact .handle (down.grows grows)
  | dispatch down => exact .dispatch (down.grows grows)
  | handleFork root other up => exact .handleFork root other (up.grows grows)
  | dispatchFork root other up => exact .dispatchFork root other (up.grows grows)
  | route root other down => exact .route root other (down.grows grows)
  | register pid root other => exact .register pid root other

/-- What a thread has still to do. It claims the slot for a response and awaits the response right
behind that. -/
inductive Shape (known : Knowledge) (asked : UInt32 → Option CallId) (owner : UInt32) :
    Program → Prop where
  | plain {todo : Program} (sound : ∀ action ∈ todo, Sound known asked owner action) :
      Shape known asked owner todo
  | claims {id : CallId} (input : Bytes) {rest : Program}
      (sound : ∀ action ∈ rest, Sound known asked owner action) :
      Shape known asked owner
        (.claimCall (.externalCallRequest owner id.number input) :: .takeCall id :: rest)
  | takes {id : CallId} {rest : Program} (same : asked owner = some id)
      (sound : ∀ action ∈ rest, Sound known asked owner action) :
      Shape known asked owner (.takeCall id :: rest)

theorem Shape.grows {before after : Knowledge} (grows : before.Grows after)
    {asked : UInt32 → Option CallId} {owner : UInt32} {todo : Program}
    (shape : Shape before asked owner todo) :
    Shape after asked owner todo := by
  cases shape with
  | plain sound => exact .plain fun action there => (sound action there).grows grows
  | claims input sound => exact .claims input fun action there => (sound action there).grows grows
  | takes same sound => exact .takes same fun action there => (sound action there).grows grows

/-! Errands -/

/-- Requests of a fork and answers to them that an action of some thread deals with. -/
def errand (owner fork : UInt32) : Action → Nat
  | .handle _ | .dispatch _ => if owner = fork then 1 else 0
  | .handleFork message | .dispatchFork message =>
    if message.fork = fork ∧ isRequest message then 1 else 0
  | .route message => if message.fork = fork then 1 else 0
  | _ => 0

def errands (owner fork : UInt32) (todo : Program) : Nat := (todo.map (errand owner fork)).sum

/-- A thread awaits the response to the request of its process. -/
def taking (owner fork : UInt32) : Program → Nat
  | .takeCall _ :: _ => if owner = fork then 1 else 0
  | _ => 0

/-- A weight of programs, over all threads. -/
def load (threads : List (UInt32 × Strand)) (weight : UInt32 → Program → Nat) : Nat :=
  (threads.map fun one => weight one.1 one.2.todo).sum

def heldFor (tree : Tree) (fork : UInt32) : Nat :=
  ((tree.members rootFork).map fun root => (root.forks.pendingFor fork).length).getD 0

/-- Errands of a fork that are not done. -/
def inFlight (tree : Tree) (fork : UInt32) : Nat :=
  (tree.up fork).countP isRequest + load tree.threads (errands · fork) + tree.heldFor fork +
    (tree.down fork).length

def takers (tree : Tree) (fork : UInt32) : Nat := load tree.threads (taking · fork)

def slot (tree : Tree) (fork : UInt32) : Slot (Option CallId × Bytes) :=
  ((tree.members fork).map fun context => context.calls.slot).getD {}

/-- A slot holds a response, or has nobody but its claimant. -/
def filled (slot : Slot (Option CallId × Bytes)) : Nat := slot.response.isSome.toNat

/-- A process has one errand out and one thread that awaits it, and both only while its slot is
claimed. -/
structure Fits (inFlight takers : Nat) (slot : Slot (Option CallId × Bytes)) : Prop where
  errands : inFlight + filled slot ≤ slot.waiting.toNat
  takers : takers ≤ slot.waiting.toNat

/-- What a slot may hold for somebody who awaits it. -/
inductive Response (known : Knowledge) (asked : Option CallId) (fork : UInt32) :
    Option CallId → Bytes → Prop where
  | available {id : CallId} {output : Bytes} (same : asked = some id)
      (sourced : Sourced known fork id output) : Response known asked fork (some id) output
  | unavailable (output : Bytes) : Response known asked fork none output

/-- The table of the root leads to its forks, and holds answers for them. -/
structure Leads (known : Knowledge) (asked : UInt32 → Option CallId)
    (table : ForkTable Nat) : Prop where
  handles : ∀ fork process, table.process? fork = some process → process.handle = fork.toNat
  pending : ∀ message ∈ table.pending,
    ∃ fork, fork ≠ rootFork ∧ Downward known (asked fork) fork message

theorem Response.grows {before after : Knowledge} (grows : before.Grows after)
    {asked : Option CallId} {fork : UInt32} {tag : Option CallId} {output : Bytes}
    (response : Response before asked fork tag output) : Response after asked fork tag output := by
  cases response with
  | available same sourced => exact .available same (sourced.grows grows)
  | unavailable => exact .unavailable output

theorem Leads.grows {before after : Knowledge} (grows : before.Grows after)
    {asked : UInt32 → Option CallId} {table : ForkTable Nat} (leads : Leads before asked table) :
    Leads after asked table where
  handles := leads.handles
  pending := fun message there =>
    (leads.pending message there).imp fun _ ⟨other, down⟩ => ⟨other, down.grows grows⟩

/-- External calls in a tree are as they should be. A process asks for one call at a time. -/
structure Sane (tree : Tree) (asked : UInt32 → Option CallId) : Prop where
  root : ∃ root, tree.members rootFork = some root ∧ Leads tree.knowledge asked root.forks
  own : ∀ fork context, tree.members fork = some context →
    context.fork = fork ∧ context.channel = some upstream
  cached : ∀ fork id output, tree.output? fork id = some output →
    Sourced tree.knowledge fork id output
  shapes : ∀ one ∈ tree.threads, Shape tree.knowledge asked one.1 one.2.todo
  ups : ∀ fork, ∀ message ∈ tree.up fork, Upward tree.knowledge (asked fork) fork message
  downs : ∀ fork, ∀ message ∈ tree.down fork, Downward tree.knowledge (asked fork) fork message
  responses : ∀ fork tag output, (tree.slot fork).response = some (tag, output) →
    0 < tree.takers fork → Response tree.knowledge (asked fork) fork tag output
  fits : ∀ fork, Fits (tree.inFlight fork) (tree.takers fork) (tree.slot fork)

theorem Sane.leads {tree : Tree} {asked : UInt32 → Option CallId}
    (sane : Sane tree asked) {root : Context}
    (here : tree.members rootFork = some root) : Leads tree.knowledge asked root.forks := by
  obtain ⟨one, there, leads⟩ := sane.root
  rw [here] at there
  cases there
  exact leads

end Tree

end Playback
