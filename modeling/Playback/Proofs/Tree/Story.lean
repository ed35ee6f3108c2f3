import Playback.Proofs.Tree.Acts

set_option autoImplicit false

namespace Playback

namespace Tree

/-- An action that a thread has taken in a process. -/
structure Act where
  thread : Nat
  fork : UInt32
  /-- The process before the action. -/
  context : Context
  action : Action

/-- The message that an action passes on. -/
def Act.message? (act : Act) : Option Message :=
  match act.action with
  | .send message => some message
  | .answerRange fork start stop =>
    some (.recordingData fork start (act.context.recording.range start stop))
  | _ => none

/-- The message that an action takes in. -/
def takenIn? : Action → Option Message
  | .dispatch message => some message
  | _ => none

/-- The action that is taken with a turn. -/
def acted? (tree : Tree) : Turn → Option Act
  | .act thread => do
    let (fork, strand) ← tree.threads[thread]?
    let context ← tree.members fork
    let action ← strand.todo.head?
    return { thread, fork, context, action }
  | _ => none

structure Story where
  tree : Tree
  /-- What each thread began with. -/
  begun : List Program := []
  /-- What was done, oldest first. -/
  acts : List Act := []

namespace Story

def take? (story : Story) (turn : Turn) : Option Story :=
  (story.tree.take? turn).map fun next =>
    { tree := next
      begun := story.begun ++
        (next.threads.drop story.tree.threads.length).map fun one => one.2.todo
      acts := story.acts ++ (story.tree.acted? turn).toList }

def play (story : Story) (turns : List Turn) : Option Story := turns.foldlM take? story

/-- A thread of a process waits for the recording to reach a length. -/
def Calls (story : Story) (thread : Nat) (fork : UInt32) (length : UInt64) : Prop :=
  story.begun[thread]? = some [.ensureLength length] ∧
    ∃ strand, story.tree.threads[thread]? = some (fork, strand)

/-- A thread has sent a request. -/
def Asked (story : Story) (thread : Nat) (request : Message) : Prop :=
  ∃ act ∈ story.acts, act.thread = thread ∧ act.action = .send request

/-- A thread of the root handles a request, and has passed on its answer. -/
def Answered (story : Story) (server : Nat) (request answer : Message) : Prop :=
  story.begun[server]? = some (Program.handleFork request) ∧
    ∃ act ∈ story.acts, act.thread = server ∧ act.message? = some answer

/-- A process has taken a message in. -/
def Delivered (story : Story) (fork : UInt32) (message : Message) : Prop :=
  ∃ act ∈ story.acts, act.fork = fork ∧ takenIn? act.action = some message

end Story

/-- A thread has nothing left to do. -/
def Returned (tree : Tree) (thread : Nat) : Prop :=
  ∃ one, tree.threads[thread]? = some one ∧ one.2.todo = []

/-- A thread has returned, or the next of its actions can be taken and is the last. -/
def CanReturn (tree : Tree) (thread : Nat) : Prop :=
  tree.Returned thread ∨ ∃ next, tree.take? (.act thread) = some next ∧ next.Returned thread

/-- What may happen while forks follow the recording of their root: threads of any process wait for
lengths, the recording of the root grows, and requests and answers go their ways. -/
inductive PullTurn : Turn → Prop where
  | ensure (fork : UInt32) (main : Bool) (length : UInt64) :
      PullTurn (.begin fork main [.ensureLength length])
  | append (main : Bool) (data : Bytes) : PullTurn (.begin rootFork main [.append data])
  | chunk (offset : UInt64) (data : Bytes) :
      PullTurn (.begin rootFork false (Program.handle (.recordingData rootFork offset data)))
  | register {fork : UInt32} (pid : UInt32) (other : fork ≠ rootFork) :
      PullTurn (.begin rootFork false (Machine.registering fork pid fork.toNat))
  | act (thread : Nat) : PullTurn (.act thread)
  | hear (fork : UInt32) : PullTurn (.hear fork)
  | attend (fork : UInt32) : PullTurn (.attend fork)

/-- What a process has of the recording. -/
def recorded (tree : Tree) (fork : UInt32) : Bytes :=
  ((tree.members fork).map fun context => context.recording.contents).getD []

/-- A root and forks that have the beginning of its recording, before anything happens. The root
holds no messages, and its table leads to its forks. -/
structure Aligned (tree : Tree) : Prop where
  root : ∃ root, tree.members rootFork = some root ∧ root.fork = rootFork ∧
    root.forks.pending = [] ∧
    ∀ fork process, root.forks.process? fork = some process → process.handle = fork.toNat
  forks : ∀ fork own, fork ≠ rootFork → tree.members fork = some own →
    own.fork = fork ∧ own.channel = some upstream ∧
    own.recording.contents <+: tree.recorded rootFork ∧ own.recording.deferred = []
  still : tree.threads = []
  ups : ∀ fork, tree.up fork = []
  downs : ∀ fork, tree.down fork = []

/-- The stories of a root and forks that follow its recording. -/
inductive Story.Told : Story → Prop where
  | begins {tree : Tree} (aligned : tree.Aligned) : Told { tree }
  | turn {story next : Story} {turn : Turn} (told : Told story) (allowed : PullTurn turn)
      (taken : story.take? turn = some next) : Told next

/-! What is on its way -/

/-- Recordings only get longer. -/
def Grows (before after : UInt32 → Bytes) : Prop := ∀ fork, before fork <+: after fork

/-- A request begins where the recording of the fork ended when it was sent. -/
inductive Request (known : UInt32 → Bytes) (fork : UInt32) : Message → Prop where
  | update {start stop : UInt64} (reached : start.toNat ≤ (known fork).length)
      (short : start.toNat < stop.toNat) : Request known fork (.updateRecording fork start stop)

/-- What comes to a process: anything to the root, and to a fork what the root has from a place that
the fork has reached. -/
inductive Feed (known : UInt32 → Bytes) (fork : UInt32) : Message → Prop where
  | news (root : fork = rootFork) (offset : UInt64) (data : Bytes) :
      Feed known fork (.recordingData fork offset data)
  | answer {start : UInt64} {data : Bytes} (other : fork ≠ rootFork)
      (reached : start.toNat ≤ (known fork).length)
      (part : Chunk.CutFrom { offset := start, data } (known rootFork)) :
      Feed known fork (.recordingData fork start data)

/-- Actions that have nothing to do with recordings. -/
def idle : Action → Bool
  | .leaveRead | .answer _ => true
  | _ => false

/-- Where a thread stands that began with a program. -/
inductive Place (known : UInt32 → Bytes) (owner : UInt32) : Program → Program → Prop where
  | asks (length : UInt64) : Place known owner [.ensureLength length] [.ensureLength length]
  | sends {start length : UInt64} (other : owner ≠ rootFork)
      (reached : start.toNat ≤ (known owner).length) (short : start.toNat < length.toNat) :
      Place known owner [.ensureLength length]
        [.send (.updateRecording owner start length), .awaitLength length]
  | waits (length : UInt64) : Place known owner [.ensureLength length] [.awaitLength length]
  | returned {length : UInt64} (enough : length.toNat ≤ (known owner).length) :
      Place known owner [.ensureLength length] []
  | appends (root : owner = rootFork) (data : Bytes) :
      Place known owner [.append data] [.append data]
  | hears {message : Message} (feed : Feed known owner message) {rest : Program}
      (quiet : ∀ action ∈ rest, idle action = true) :
      Place known owner (Program.handle message) (.handle message :: rest)
  | takes {message : Message} (feed : Feed known owner message) {rest : Program}
      (quiet : ∀ action ∈ rest, idle action = true) :
      Place known owner (Program.handle message) (.dispatch message :: rest)
  | attends {fork : UInt32} {message : Message} (root : owner = rootFork) (other : fork ≠ rootFork)
      (request : Request known fork message) {rest : Program}
      (quiet : ∀ action ∈ rest, idle action = true) :
      Place known owner (Program.handleFork message) (.handleFork message :: rest)
  | looks {fork : UInt32} {message : Message} (root : owner = rootFork) (other : fork ≠ rootFork)
      (request : Request known fork message) {rest : Program}
      (quiet : ∀ action ∈ rest, idle action = true) :
      Place known owner (Program.handleFork message) (.dispatchFork message :: rest)
  | serves {fork : UInt32} {start stop : UInt64} (root : owner = rootFork)
      (other : fork ≠ rootFork) (request : Request known fork (.updateRecording fork start stop))
      {rest : Program} (quiet : ∀ action ∈ rest, idle action = true) :
      Place known owner (Program.handleFork (.updateRecording fork start stop))
        (.ensureLength stop :: .answerRange fork start stop :: rest)
  | lacks {fork : UInt32} {start stop : UInt64} (root : owner = rootFork)
      (other : fork ≠ rootFork) (request : Request known fork (.updateRecording fork start stop))
      {rest : Program} (quiet : ∀ action ∈ rest, idle action = true) :
      Place known owner (Program.handleFork (.updateRecording fork start stop))
        (.awaitLength stop :: .answerRange fork start stop :: rest)
  | answers {fork : UInt32} {start stop : UInt64} (root : owner = rootFork)
      (other : fork ≠ rootFork) (request : Request known fork (.updateRecording fork start stop))
      (enough : stop.toNat ≤ (known rootFork).length) {rest : Program}
      (quiet : ∀ action ∈ rest, idle action = true) :
      Place known owner (Program.handleFork (.updateRecording fork start stop))
        (.answerRange fork start stop :: rest)
  | enrolls {fork pid : UInt32} (root : owner = rootFork) (other : fork ≠ rootFork)
      {rest : Program} (quiet : ∀ action ∈ rest, idle action = true) :
      Place known owner (Machine.registering fork pid fork.toNat)
        (.register fork pid fork.toNat :: rest)
  | enters {program todo : Program} (place : Place known owner program todo) :
      Place known owner program (.enterRead :: todo)
  | ends {program todo : Program} (apart : ∀ length, program ≠ [.ensureLength length])
      (quiet : ∀ action ∈ todo, idle action = true) : Place known owner program todo

/-- A thread passes on a message as its program has it: its own request, or the answer to the
request that it handles, which ends where the request does. -/
inductive Said : Program → Message → Prop where
  | request (owner : UInt32) (start length : UInt64) :
      Said [.ensureLength length] (.updateRecording owner start length)
  | answer {fork : UInt32} {start stop : UInt64} {data : Bytes}
      (reaches : start.toNat + data.length = stop.toNat) :
      Said (Program.handleFork (.updateRecording fork start stop))
        (.recordingData fork start data)

section Growth

variable {before after : UInt32 → Bytes}

theorem Request.grows (grows : Grows before after) {fork : UInt32} {message : Message}
    (request : Request before fork message) : Request after fork message := by
  cases request with
  | update reached short => exact .update (reached.trans (grows fork).length_le) short

theorem Feed.grows (grows : Grows before after) {fork : UInt32} {message : Message}
    (feed : Feed before fork message) : Feed after fork message := by
  cases feed with
  | news root offset data => exact .news root offset data
  | answer other reached part =>
    exact .answer other (reached.trans (grows fork).length_le)
      (List.IsPrefix.trans part ((grows rootFork).drop _))

theorem Place.grows (grows : Grows before after) {owner : UInt32} {program todo : Program}
    (place : Place before owner program todo) : Place after owner program todo := by
  induction place with
  | asks length => exact .asks length
  | sends other reached short => exact .sends other (reached.trans (grows owner).length_le) short
  | waits length => exact .waits length
  | returned enough => exact .returned (enough.trans (grows owner).length_le)
  | appends root data => exact .appends root data
  | hears feed quiet => exact .hears (feed.grows grows) quiet
  | takes feed quiet => exact .takes (feed.grows grows) quiet
  | attends root other request quiet => exact .attends root other (request.grows grows) quiet
  | looks root other request quiet => exact .looks root other (request.grows grows) quiet
  | serves root other request quiet => exact .serves root other (request.grows grows) quiet
  | lacks root other request quiet => exact .lacks root other (request.grows grows) quiet
  | answers root other request enough quiet =>
    exact .answers root other (request.grows grows)
      (enough.trans (grows rootFork).length_le) quiet
  | enrolls root other quiet => exact .enrolls root other quiet
  | enters _ ih => exact .enters ih
  | ends apart quiet => exact .ends apart quiet

end Growth

/-! What turns do to a story -/

section

variable {tree : Tree}

theorem foldl_post_inside (fork : UInt32) (effects : List Effect) (tree : Tree) :
    (effects.foldl (fun tree effect => tree.post fork effect) tree).threads = tree.threads ∧
      (effects.foldl (fun tree effect => tree.post fork effect) tree).members = tree.members := by
  induction effects generalizing tree with
  | nil => exact ⟨rfl, rfl⟩
  | cons effect effects ih =>
    have inside : (tree.post fork effect).threads = tree.threads ∧
        (tree.post fork effect).members = tree.members := by
      cases effect with
      | send endpoint message =>
        unfold post
        dsimp only
        split_ifs <;> exact ⟨rfl, rfl⟩
      | sendEncoded | write | terminate => exact ⟨rfl, rfl⟩
    rw [List.foldl_cons, (ih _).1, (ih _).2]
    exact inside

theorem threads_follow (index : Nat) (fork : UInt32) (strand : Strand) (rest : Program)
    (outcome : Outcome) :
    (tree.follow index fork strand rest outcome).threads =
      tree.threads.set index (fork, { strand with
        todo := outcome.next ++ rest, value := outcome.value.getD strand.value }) :=
  (foldl_post_inside fork outcome.effects _).1

/-- What it takes for a thread to take an action, and what becomes of the story. -/
theorem act_eq_some {story next : Story} {index : Nat}
    (taken : story.take? (.act index) = some next) :
    ∃ fork strand context action rest outcome,
      story.tree.threads[index]? = some (fork, strand) ∧
      story.tree.members fork = some context ∧ strand.todo = action :: rest ∧
      context.step strand.main strand.value {} action = some outcome ∧
      next.tree = (story.tree.perform (performed fork action)).follow index fork strand rest
        outcome ∧
      next.begun = story.begun ∧
      next.acts = story.acts ++ [{ thread := index, fork, context, action }] := by
  obtain ⟨changed, moved, rfl⟩ := Option.map_eq_some_iff.mp taken
  obtain ⟨before, fork, strand, after, context, action, rest, outcome, split, rfl, here, todo, step,
    same⟩ := act?_eq_some moved
  have there : story.tree.threads[before.length]? = some (fork, strand) := by
    rw [split, List.getElem?_append_right (Nat.le_refl _), Nat.sub_self]
    rfl
  have follows : changed = (story.tree.perform (performed fork action)).follow before.length fork
      strand rest outcome := same
  have nothing : changed.threads.drop story.tree.threads.length = [] := by
    rw [follows, threads_follow]
    exact List.drop_eq_nil_of_le (List.length_set ..).le
  have does : story.tree.acted? (.act before.length) =
      some { thread := before.length, fork, context, action } := by
    simp [acted?, there, here, todo]
  refine ⟨fork, strand, context, action, rest, outcome, there, here, todo, step, follows, ?_, ?_⟩
  · dsimp only
    rw [nothing, List.map_nil, List.append_nil]
  · dsimp only
    rw [does, Option.toList_some]

end

end Tree

end Playback
