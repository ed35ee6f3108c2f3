import Playback.Context.Program
import Playback.Machine.Operate
import Playback.Proofs.Channel.Queueing
import Playback.Proofs.Lock.Strands
import Mathlib.Logic.Function.Basic

set_option autoImplicit false

/- A root and its forks, with the messages that are on their way between them. The lines between
two processes keep their order, but whoever receives may begin with a message before it is done
with the one before, and any message may be lost. -/
namespace Playback

/-- An output that is new to the tree: a process has performed the call, or the root was told by
the middleman. -/
structure Performed where
  fork : UInt32
  id : CallId
  output : Bytes
  deriving DecidableEq, Repr

structure Tree where
  /-- The processes, by the forks that they run. -/
  members : UInt32 → Option Context
  /-- The threads, with the forks in whose processes they run. -/
  threads : List (UInt32 × Strand) := []
  /-- What a fork has sent to the root, and the root to the middleman. -/
  up : UInt32 → List Message := fun _ => []
  /-- What the root has sent to a fork, and the middleman to the root. -/
  down : UInt32 → List Message := fun _ => []
  /-- What was performed so far. -/
  outputs : List Performed := []

namespace Tree

/-- The endpoint that leads a process towards the root, and the root towards the middleman. At the
root, the other endpoints bear the numbers of the forks to which they lead. -/
def upstream : Nat := 0

/-- A root that is alone. -/
def ofRoot (root : Context) : Tree where
  members := Function.update (fun _ => none) rootFork (some root)

def output? (tree : Tree) (fork : UInt32) (id : CallId) : Option Bytes :=
  (tree.members fork).bind fun context => context.calls.output? id

def setMember (tree : Tree) (fork : UInt32) (context : Context) : Tree :=
  { tree with members := Function.update tree.members fork (some context) }

def perform (tree : Tree) (outputs : List Performed) : Tree :=
  { tree with outputs := tree.outputs ++ outputs }

def start (tree : Tree) (fork : UInt32) (strand : Strand) : Tree :=
  { tree with threads := tree.threads ++ [(fork, strand)] }

def setThread (tree : Tree) (index : Nat) (fork : UInt32) (strand : Strand) : Tree :=
  { tree with threads := tree.threads.set index (fork, strand) }

def setUp (tree : Tree) (fork : UInt32) (messages : List Message) : Tree :=
  { tree with up := Function.update tree.up fork messages }

def setDown (tree : Tree) (fork : UInt32) (messages : List Message) : Tree :=
  { tree with down := Function.update tree.down fork messages }

def sendUp (tree : Tree) (fork : UInt32) (message : Message) : Tree :=
  tree.setUp fork (tree.up fork ++ [message])

def sendDown (tree : Tree) (endpoint : Nat) (message : Message) : Tree :=
  { tree with down := fun fork =>
      if fork.toNat = endpoint then tree.down fork ++ [message] else tree.down fork }

/-- What channels carry of messages. -/
def carried (messages : List Message) : List Message :=
  messages.filter fun message => message.Framed

/-- What an action does beyond its process. A message without a frame is dropped, as by
`Channel.send`, and endpoints that a fork has copied from its root lead nowhere. -/
def post (tree : Tree) (fork : UInt32) : Effect → Tree
  | .send endpoint message =>
    if message.Framed then
      if endpoint = upstream then tree.sendUp fork message
      else if fork = rootFork then tree.sendDown endpoint message
      else tree
    else tree
  | _ => tree

/-- What is performed with an action. -/
def performed (fork : UInt32) : Action → List Performed
  | .publishCall id output => [{ fork, id, output }]
  | _ => []

/-- One action of a thread. -/
def act? (tree : Tree) (index : Nat) : Option Tree := do
  let (fork, strand) ← tree.threads[index]?
  let context ← tree.members fork
  let action ← strand.todo.head?
  let outcome ← context.step strand.main strand.value {} action
  let later : Strand :=
    { strand with todo := outcome.next ++ strand.todo.tail
                  value := outcome.value.getD strand.value }
  let acted := ((tree.perform (performed fork action)).setMember fork outcome.context).setThread
    index fork later
  return outcome.effects.foldl (fun tree effect => tree.post fork effect) acted

/-- What may happen next in a tree. -/
inductive Turn where
  /-- A thread begins in a process. -/
  | begin (fork : UInt32) (main : Bool) (program : Program)
  /-- A thread takes an action. -/
  | act (thread : Nat)
  /-- A process takes the first message that is on its way down to it. -/
  | hear (fork : UInt32)
  /-- The root takes the first message that is on its way up from a fork. -/
  | attend (fork : UInt32)
  /-- The middleman takes the first message from the root and sends a reply to it, or none. -/
  | reply (message : Option Message)
  /-- A process is duplicated, and a new fork runs in the copy. -/
  | duplicate (parent fork : UInt32)
  | loseUp (fork : UInt32) (position : Nat)
  | loseDown (fork : UInt32) (position : Nat)

/-- What is performed when the root is told something. -/
def told (message : Message) : List Performed :=
  match message.payload with
  | .binary tag output =>
    ((CallId.ofNumber? tag).map fun id => { fork := rootFork, id, output }).toList
  | _ => []

def take? (tree : Tree) : Turn → Option Tree
  | .begin fork main program =>
    (tree.members fork).map fun _ => tree.start fork { main, todo := program }
  | .act thread => tree.act? thread
  | .hear fork =>
    match tree.members fork, tree.down fork with
    | some _, message :: rest =>
      some ((tree.setDown fork rest).start fork { todo := Program.handle message })
    | _, _ => none
  | .attend fork =>
    match tree.up fork with
    | message :: rest =>
      if fork = rootFork then none
      else some ((tree.setUp fork rest).start rootFork { todo := Program.handleFork message })
    | [] => none
  | .reply message =>
    match tree.up rootFork with
    | _ :: rest =>
      some (((tree.setUp rootFork rest).setDown rootFork
        (tree.down rootFork ++ message.toList)).perform (message.toList.flatMap told))
    | [] => none
  | .duplicate parent fork =>
    match tree.members parent, tree.members fork with
    | some context, none => some (tree.setMember fork (Machine.forked context fork upstream))
    | _, _ => none
  | .loseUp fork position => some (tree.setUp fork ((tree.up fork).eraseIdx position))
  | .loseDown fork position => some (tree.setDown fork ((tree.down fork).eraseIdx position))

/-- A process is asked for an external call, its output is asked for, or it is given one. -/
inductive CallUse : Program → Prop where
  | call (id : CallId) (input output : Bytes) : CallUse (Program.externalCall id input output)
  | request (id : CallId) (input : Bytes) : CallUse [.lookupCall id input]
  | publish (id : CallId) (output : Bytes) : CallUse [.publishCall id output]

/-- An answer to a request for the output of a call. -/
inductive Answers (fork : UInt32) (id : CallId) : Message → Prop where
  | available (output : Bytes) : Answers fork id (.externalCallResponse fork id.number output)
  | unavailable : Answers fork id (.externalCallUnavailable fork)

/-- What may happen in a tree whose processes are used for external calls. The root enters its
forks into its table at any time, and the middleman answers what it is asked. -/
inductive CallTurn (tree : Tree) : Turn → Prop where
  | use (fork : UInt32) (main : Bool) {program : Program} (use : CallUse program) :
      CallTurn tree (.begin fork main program)
  | register {fork : UInt32} (pid : UInt32) (other : fork ≠ rootFork) :
      CallTurn tree (.begin rootFork false (Machine.registering fork pid fork.toNat))
  | act (thread : Nat) : CallTurn tree (.act thread)
  | hear (fork : UInt32) : CallTurn tree (.hear fork)
  | attend (fork : UInt32) : CallTurn tree (.attend fork)
  | answer {id : CallId} {input : Bytes} {rest : List Message}
      (asked : tree.up rootFork = .externalCallRequest rootFork id.number input :: rest)
      {message : Message} (answers : Answers rootFork id message) :
      CallTurn tree (.reply (some message))
  | ignore : CallTurn tree (.reply none)
  | duplicate (parent fork : UInt32) : CallTurn tree (.duplicate parent fork)
  | loseUp (fork : UInt32) (position : Nat) : CallTurn tree (.loseUp fork position)
  | loseDown (fork : UInt32) (position : Nat) : CallTurn tree (.loseDown fork position)

/-- The trees that come from a root that knows no output and no fork. -/
inductive Reachable : Tree → Prop where
  | root {root : Context} (own : root.fork = rootFork) (connected : root.channel = some upstream)
      (nothing : root.calls = {}) (alone : root.forks = {}) : Reachable (ofRoot root)
  | turn {tree next : Tree} {turn : Turn} (reachable : Reachable tree)
      (allowed : CallTurn tree turn) (taken : tree.take? turn = some next) : Reachable next

/-- What it takes for a thread to take an action, and what becomes of the tree. -/
theorem act?_eq_some {tree next : Tree} {index : Nat} (taken : tree.act? index = some next) :
    ∃ before fork strand after context action rest outcome,
      tree.threads = before ++ (fork, strand) :: after ∧ index = before.length ∧
      tree.members fork = some context ∧ strand.todo = action :: rest ∧
      context.step strand.main strand.value {} action = some outcome ∧
      next = outcome.effects.foldl (fun tree effect => tree.post fork effect)
        (((tree.perform (performed fork action)).setMember fork outcome.context).setThread
          index fork { strand with
            todo := outcome.next ++ rest, value := outcome.value.getD strand.value }) := by
  simp only [act?, Option.bind_eq_bind, Option.bind_eq_some_iff, Option.pure_def, Option.some.injEq,
    Prod.exists] at taken
  obtain ⟨fork, strand, there, context, here, action, first, outcome, step, same⟩ := taken
  obtain ⟨inside, at_⟩ := List.getElem?_eq_some_iff.mp there
  obtain ⟨rest, todo⟩ := List.head?_eq_some_iff.mp first
  refine ⟨tree.threads.take index, fork, strand, tree.threads.drop (index + 1), context, action,
    rest, outcome, ?_, ?_, here, todo, step, ?_⟩
  · rw [← at_, List.getElem_cons_drop inside, List.take_append_drop]
  · rw [List.length_take_of_le (Nat.le_of_lt inside)]
  · rw [← same, todo]
    rfl

/-! Runs that can be played -/

def play (tree : Tree) (turns : List Turn) : Option Tree := turns.foldlM take? tree

/-- A turn that may come at any time. -/
def Free (turn : Turn) : Prop := ∀ tree, CallTurn tree turn

theorem Reachable.play {tree next : Tree} (reachable : tree.Reachable) {turns : List Turn}
    (free : ∀ turn ∈ turns, Free turn) (played : tree.play turns = some next) :
    next.Reachable := by
  induction turns generalizing tree with
  | nil =>
    cases played
    exact reachable
  | cons turn turns ih =>
    obtain ⟨middle, taken, rest⟩ := Option.bind_eq_some_iff.mp played
    obtain ⟨now, later⟩ := List.forall_mem_cons.mp free
    exact ih (.turn reachable (now tree) taken) later rest

/-- So many actions of a thread. -/
def acts (thread count : Nat) : List Turn := List.replicate count (.act thread)

theorem free_acts (thread count : Nat) : ∀ turn ∈ acts thread count, Free turn := by
  intro turn there
  rw [List.eq_of_mem_replicate there]
  exact fun _ => .act thread

/-- A fork comes to be and is entered into the table of the root, by a thread of that number. -/
def joins (fork pid : UInt32) (thread : Nat) : List Turn :=
  .duplicate rootFork fork ::
    .begin rootFork false (Machine.registering fork pid fork.toNat) :: acts thread 3

theorem free_joins {fork : UInt32} (other : fork ≠ rootFork) (pid : UInt32) (thread : Nat) :
    ∀ turn ∈ joins fork pid thread, Free turn :=
  List.forall_mem_cons.mpr ⟨fun _ => .duplicate rootFork fork, List.forall_mem_cons.mpr
    ⟨fun _ => .register pid other, free_acts thread 3⟩⟩

/-- A thread of a process finds that the output of a call is not known there, and asks for it. -/
def asks (fork : UInt32) (id : CallId) (output : Bytes) (thread : Nat) : List Turn :=
  .begin fork false (Program.externalCall id [] output) :: acts thread 2

theorem free_asks (fork : UInt32) (id : CallId) (output : Bytes) (thread : Nat) :
    ∀ turn ∈ asks fork id output thread, Free turn :=
  List.forall_mem_cons.mpr ⟨fun _ => .use fork false (.call id [] output), free_acts thread 2⟩

/-- A thread of the root handles the next message from a fork. -/
def attends (fork : UInt32) (thread : Nat) : List Turn := .attend fork :: acts thread 5

theorem free_attends (fork : UInt32) (thread : Nat) : ∀ turn ∈ attends fork thread, Free turn :=
  List.forall_mem_cons.mpr ⟨fun _ => .attend fork, free_acts thread 5⟩

/-- A thread of a process handles the next message from above. -/
def hears (fork : UInt32) (thread : Nat) : List Turn := .hear fork :: acts thread 4

theorem free_hears (fork : UInt32) (thread : Nat) : ∀ turn ∈ hears fork thread, Free turn :=
  List.forall_mem_cons.mpr ⟨fun _ => .hear fork, free_acts thread 4⟩

end Tree

end Playback
