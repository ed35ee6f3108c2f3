import Playback.Proofs.Lock.Receiver

set_option autoImplicit false

namespace Playback

namespace History

open Receiver Threads

/-- Where a receiver stands after anything that happens while the lock is not let go. -/
structure Stands (first : History) (messages : List Message) (number : Nat) (next : History) :
    Prop where
  fork : next.threads.state.fork = first.threads.state.fork
  begun : number < next.begun
  place : ∀ one ∈ next.threads.waiting, one.ticket = number →
    Receiver.Place first.threads.state.fork messages (Deed.own next.deeds number) one.call.todo
  /-- A receiver that has ended has handled all messages. -/
  gone : (∀ one ∈ next.threads.waiting, one.ticket ≠ number) →
    Receiver.HandlesAll first.threads.state.fork messages (Deed.own next.deeds number)

variable {first history next : History}

theorem Stands.start (sound : first.Sound) (nothing : first.deeds = [])
    {receiver : Waiting Strand} (there : receiver ∈ first.threads.waiting)
    {messages : List Message} (arrive : receiver.call.todo = messages.map .handle) :
    Stands first messages receiver.ticket first := by
  refine ⟨rfl, sound.numbered.given receiver there, ?_,
    fun none => absurd rfl (none receiver there)⟩
  intro one member same
  have equal := List.inj_on_of_nodup_map sound.numbered.apart member there same
  rw [equal, arrive, nothing]
  exact .ready (List.nil_append messages).symm .nil

theorem Stands.moves {messages : List Message} {number : Nat}
    (stands : Stands first messages number history) (sound : history.Sound) (held : history.Held)
    (moves : LockMoves history next) : Stands first messages number next := by
  have locked := held.locked sound.counted
  have fork := moves.threads.fork sound.counted
  cases moves with
  | begins main allowed =>
    refine ⟨fork.trans stands.fork, Nat.lt_succ_of_lt stands.begun, ?_, ?_⟩
    · intro one member same
      rcases List.mem_append.mp member with old | new
      · exact stands.place one old same
      · rw [List.mem_singleton.mp new] at same
        exact absurd same (Nat.ne_of_gt stands.begun)
    · exact fun none => stands.gone fun one old => none one (List.mem_append_left _ old)
  | @acts world law disk context before after one action rest outcome deeds begun todo taken =>
    have here : ∀ some : Waiting Strand, some ∈ before ++ some :: after :=
      fun _ => List.mem_append_right _ List.mem_cons_self
    by_cases moved : one.ticket = number
    · refine ⟨fork.trans stands.fork, stands.begun, ?_, fun none =>
        absurd moved (none { one with call := one.call.after outcome rest } (here _))⟩
      intro other member same
      have equal : other = { one with call := one.call.after outcome rest } := by
        by_contra apart
        exact sound.numbered.ticket_ne (mem_others member apart) (same.trans moved.symm)
      rw [equal, Deed.own_snoc_own moved]
      exact (stands.place one (here one) moved).acts todo stands.fork locked taken
    · refine ⟨fork.trans stands.fork, stands.begun, ?_, ?_⟩ <;> rw [Deed.own_snoc_other moved]
      · intro other member same
        have apart : other ≠ { one with call := one.call.after outcome rest } := by
          rintro rfl
          exact moved same
        have there := (sublist_of_others before after one).subset (mem_others member apart)
        exact stands.place other there same
      · intro none
        refine stands.gone fun other member => ?_
        by_cases same : other = one
        · exact same ▸ moved
        · exact none other ((sublist_of_others before after _).subset (mem_others member same))
  | @ends context before after one deeds begun done =>
    refine ⟨fork.trans stands.fork, stands.begun, ?_, ?_⟩
    · have wider := (sublist_of_others before after one).subset
      exact fun other member same => stands.place other (wider member) same
    · intro none
      by_cases ended : one.ticket = number
      · have place := stands.place one (List.mem_append_right _ List.mem_cons_self) ended
        exact place.handled_of_done done
      · refine stands.gone fun other member => ?_
        by_cases same : other = one
        · exact same ▸ ended
        · exact none other (mem_others member same)

theorem Stands.run (sound : first.Sound) (held : first.Held) (nothing : first.deeds = [])
    {receiver : Waiting Strand} (there : receiver ∈ first.threads.waiting)
    {messages : List Message} (arrive : receiver.call.todo = messages.map .handle)
    (run : HeldRun first next) : Stands first messages receiver.ticket next := by
  -- The lock is held at the start and after every move.
  have along : Stands first messages receiver.ticket next ∧ next.Sound ∧ next.Held := by
    induction run with
    | refl => exact ⟨.start sound nothing there arrive, sound, held⟩
    | tail _ moves ih =>
      obtain ⟨stands, still, before⟩ := ih
      exact ⟨stands.moves still before moves.1, still.moves moves.1, moves.2⟩
  exact along.1

/-- A thread outside of the lock takes an action, and whoever holds the lock keeps it. -/
theorem Held.act (held : history.Held) {before after : List (Waiting Strand)}
    {one : Waiting Strand} (there : history.threads.waiting = before ++ one :: after)
    {action : Action} {rest : Program} {outcome : Outcome}
    (todo : one.call.todo = action :: rest)
    (taken : one.call.take? World.still {} history.threads.state action = some outcome)
    (style : outcome.context.host.style = history.threads.state.host.style)
    (orderly : Orderly history.threads.state.host.style one.call.todo) :
    ∃ next, HeldRun history next ∧ next.Held ∧ next.threads.state = outcome.context ∧
      next.threads.waiting =
        before ++ { one with call := one.call.after outcome rest } :: after := by
  obtain ⟨⟨state, waiting⟩, deeds, begun⟩ := history
  dsimp only at there style orderly taken
  subst there
  let next : History :=
    { threads :=
        { state := outcome.context
          waiting := before ++ { one with call := one.call.after outcome rest } :: after }
      deeds := deeds ++ [{ context := state, thread := one, action, outcome }]
      begun }
  have still : next.Held := by
    obtain ⟨writer, member, writes⟩ := held
    have apart : writer ≠ one := by
      rintro rfl
      rw [Threads.stance?, Strand.stance?, orderly] at writes
      cases writes
    refine ⟨writer, ?_, style ▸ writes⟩
    rw [List.mem_append, List.mem_cons]
    exact (List.mem_append.mp (mem_others member apart)).imp_right Or.inr
  exact ⟨next, .single ⟨.acts World.still_lawful todo taken, still⟩, still, rfl, rfl⟩

/-- One look at a message leads a receiver to what comes next for it. -/
theorem Held.look (held : history.Held) {before after : List (Waiting Strand)}
    {receiver : Waiting Strand} (there : history.threads.waiting = before ++ receiver :: after)
    {message : Message} {left : List Message}
    (todo : receiver.call.todo = (message :: left).map .handle) :
    ∃ next one, HeldRun history next ∧ next.Held ∧
      next.threads.state.fork = history.threads.state.fork ∧
      next.threads.waiting = before ++ one :: after ∧ one.ticket = receiver.ticket ∧
      one.call.todo =
        (history.threads.state.handle message).next ++ left.map .handle := by
  have level := Context.handle_level history.threads.state message
  obtain ⟨next, run, still, state, waiting⟩ :=
    held.act there todo rfl level.style (todo ▸ orderly_handles _ _)
  exact ⟨next, _, run, still, by rw [state, level.fork], waiting, rfl, rfl⟩

/-- A receiver comes past messages that do not need the lock. -/
theorem Held.comes {passed : List Message} (held : history.Held)
    (passes : ∀ message ∈ passed, Passes history.threads.state.fork message)
    {before after : List (Waiting Strand)} {receiver : Waiting Strand}
    (there : history.threads.waiting = before ++ receiver :: after) {left : List Message}
    (todo : receiver.call.todo = (passed ++ left).map .handle) :
    ∃ next one, HeldRun history next ∧ next.Held ∧
      next.threads.state.fork = history.threads.state.fork ∧
      next.threads.waiting = before ++ one :: after ∧ one.ticket = receiver.ticket ∧
      one.call.todo = left.map .handle := by
  induction passed generalizing history receiver with
  | nil => exact ⟨history, receiver, .refl, held, rfl, there, rfl, todo⟩
  | cons message passed ih =>
    obtain ⟨first, others⟩ := List.forall_mem_cons.mp passes
    obtain ⟨middle, one, run, still, fork, waiting, ticket, rest⟩ := held.look there todo
    rcases handle_cases history.threads.state message with
      ⟨-, -, nothing, -⟩ | ⟨-, -, report⟩ | ⟨needs, -⟩
    · rw [nothing, List.nil_append] at rest
      obtain ⟨next, last, further, kept, same, around, number, program⟩ :=
        ih still (fork ▸ others) waiting rest
      exact ⟨next, last, run.trans further, kept, same.trans fork, around, number.trans ticket,
        program⟩
    · rw [report] at rest
      have orderly : Orderly middle.threads.state.host.style one.call.todo := by
        have report : Orderly middle.threads.state.host.style [.sendFatal hungText] := rfl
        rw [rest]
        exact report.append (orderly_handles _ _)
      obtain ⟨later, more, again, state, place⟩ := still.act waiting rest rfl rfl orderly
      have same : later.threads.state.fork = middle.threads.state.fork := by rw [state]; rfl
      obtain ⟨next, last, further, kept, equal, around, number, program⟩ :=
        ih again (same.trans fork ▸ others) place rfl
      exact ⟨next, last, (run.trans more).trans further, kept, (equal.trans same).trans fork,
        around, number.trans ticket, program⟩
    · exact absurd first needs

/-- An urgent message gets through to a receiver behind other messages: whatever happens while the
lock is not let go, the receiver does not stay blocked in front of it, and handles it after some
actions of its own. -/
structure GetsThrough (history : History) (receiver : Waiting Strand) (front : List Message)
    (message : Message) : Prop where
  free : ∀ next, HeldRun history.watch next →
    Handled (Deed.own next.deeds receiver.ticket) front message ∨
      ∀ one ∈ next.threads.waiting, one.ticket = receiver.ticket →
        ∀ world disk, (one.call.move world disk next.threads.state).isSome = true
  soon : ∃ patience, ∀ next, HeldRun history.watch next →
    patience ≤ (Deed.own next.deeds receiver.ticket).length →
    Handled (Deed.own next.deeds receiver.ticket) front message

theorem getsThrough_of_passes (sound : history.Sound) (held : history.Held)
    {receiver : Waiting Strand} (there : receiver ∈ history.threads.waiting)
    {front back : List Message} {message : Message}
    (arrive : receiver.call.todo = (front ++ message :: back).map .handle)
    (passes : ∀ one ∈ front ++ [message], Passes history.threads.state.fork one) :
    GetsThrough history receiver front message := by
  have stands : ∀ next, HeldRun history.watch next →
      Stands history.watch (front ++ message :: back) receiver.ticket next :=
    fun next run => Stands.run sound.watch held rfl there arrive run
  constructor
  · intro next run
    by_cases done : Handled (Deed.own next.deeds receiver.ticket) front message
    · exact Or.inl done
    · refine Or.inr fun one member ticket world disk => ?_
      have place := (stands next run).place one member ticket
      rcases place.goes_on rfl passes with handled | free
      · exact absurd handled done
      · exact free world disk _
  · refine ⟨2 * (front.length + 1), fun next run many => ?_⟩
    by_cases here : ∃ one ∈ next.threads.waiting, one.ticket = receiver.ticket
    · obtain ⟨one, member, ticket⟩ := here
      exact ((stands next run).place one member ticket).soon rfl many
    · exact ((stands next run).gone fun one member ticket => here ⟨one, member, ticket⟩).handled

theorem exists_first_needing {fork : UInt32} {messages : List Message}
    (needs : ¬ ∀ one ∈ messages, Passes fork one) :
    ∃ passed first left, messages = passed ++ first :: left ∧
      (∀ one ∈ passed, Passes fork one) ∧ ¬ Passes fork first := by
  induction messages with
  | nil => exact absurd (fun _ there => absurd there List.not_mem_nil) needs
  | cons message messages ih =>
    by_cases own : Passes fork message
    · have later : ¬ ∀ one ∈ messages, Passes fork one :=
        fun all => needs (List.forall_mem_cons.mpr ⟨own, all⟩)
      obtain ⟨passed, first, left, rfl, all, stops⟩ := ih later
      exact ⟨message :: passed, first, left, rfl, List.forall_mem_cons.mpr ⟨own, all⟩, stops⟩
    · exact ⟨[], message, messages, rfl, fun _ there => absurd there List.not_mem_nil, own⟩

theorem passes_of_getsThrough (sound : history.Sound) (held : history.Held)
    {receiver : Waiting Strand} (there : receiver ∈ history.threads.waiting)
    {front back : List Message} {message : Message}
    (arrive : receiver.call.todo = (front ++ message :: back).map .handle)
    (mine : message.fork = history.threads.state.fork)
    (through : GetsThrough history receiver front message) :
    ∀ one ∈ front ++ [message], Passes history.threads.state.fork one := by
  by_contra needs
  obtain ⟨passed, first, left, split, passes, stops⟩ := exists_first_needing needs
  obtain ⟨before, after, waiting⟩ := List.append_of_mem there
  have watched : history.watch.Held := held
  have program : receiver.call.todo = (passed ++ first :: (left ++ back)).map .handle := by
    have same : front ++ message :: back = passed ++ first :: (left ++ back) := by
      rw [← List.singleton_append, ← List.append_assoc, split, List.append_assoc]
      rfl
    rw [arrive, same]
  obtain ⟨middle, one, run, still, fork, around, number, todo⟩ :=
    watched.comes passes waiting program
  obtain ⟨next, last, further, kept, -, place, ticket, rest⟩ := still.look around todo
  obtain ⟨inner, stuck⟩ : ∃ inner,
      (middle.threads.state.handle first).next = [.enterRead, inner, .leaveRead] := by
    rcases handle_cases middle.threads.state first with ⟨own, -⟩ | ⟨own, -⟩ | ⟨-, guarded⟩
    · exact absurd (fork ▸ own) stops
    · exact absurd (fork ▸ own) stops
    · exact guarded
  rw [stuck] at rest
  have whole := run.trans further
  have member : last ∈ next.threads.waiting := place ▸ List.mem_append_right _ List.mem_cons_self
  have named : last.ticket = receiver.ticket := ticket.trans number
  have stands := (Stands.run sound.watch watched rfl there arrive whole).place last member named
  rcases through.free next whole with handled | free
  · rw [rest] at stands
    exact needs (stands.passes_of_handled mine handled)
  · have moves := free last member named World.still {}
    have locked := kept.locked (sound.watch.run whole).counted
    have shut : last.call.take? World.still {} next.threads.state .enterRead = none := by
      change next.threads.state.lock.enter?.map _ = none
      rw [LockWord.enter?, locked]
      rfl
    rw [Strand.move, rest] at moves
    dsimp only [List.cons_append] at moves
    rw [shut] at moves
    cases moves

/-- While some thread holds the write side of the lock and does not let go, an urgent message for
the child gets through to its receiver exactly if it ends the child, and so do all messages in front
of it. A probe waits for the lock, and so does whatever is behind a message that needs the lock. -/
theorem getsThrough_iff {history : History} (reachable : history.Reachable)
    (held : history.Held) {receiver : Waiting Strand} (there : receiver ∈ history.threads.waiting)
    {front back : List Message} {message : Message}
    (arrive : receiver.call.todo = (front ++ message :: back).map .handle)
    (mine : message.fork = history.threads.state.fork) :
    GetsThrough history receiver front message ↔
      ∀ one ∈ front ++ [message],
        one.fork = history.threads.state.fork ∧ ForkTable.endsProcess one = true :=
  ⟨passes_of_getsThrough reachable.sound held there arrive mine,
    getsThrough_of_passes reachable.sound held there arrive⟩

/-- A root that can be duplicated. -/
def quietRoot : Context where
  config := {}
  pipe := some 0

/-- A main thread that duplicates the process. -/
def forking (todo : Program) : Waiting Strand where
  ticket := 0
  call := { main := true, todo }

def receiving (messages : List Message) : Waiting Strand where
  ticket := 1
  call := { todo := messages.map .handle }

/-- The root with a main thread that hangs in the lock, and messages that arrive. -/
def hung (messages : List Message) : Threads where
  state := { quietRoot with lock := { word := LockWord.writerBit } }
  waiting := [forking [.outside (.duplicate 5 false)], receiving messages]

/-- One action of a main thread that is alone. -/
theorem forking_acts {context : Context} {action : Action} {rest : Program} {outcome : Outcome}
    {history : History}
    (alone : history.threads = { state := context, waiting := [forking (action :: rest)] })
    (taken : (forking (action :: rest)).call.take? World.still {} context action = some outcome)
    (quiet : outcome.value = none) :
    ∃ next, LockMoves history next ∧ next.begun = history.begun ∧
      next.threads = { state := outcome.context, waiting := [forking (outcome.next ++ rest)] } := by
  obtain ⟨_, deeds, begun⟩ := history
  cases alone
  have acts := @Moves.acts World.Lawful Threads.Admits _ World.still_lawful {} context [] [] _
    action rest outcome deeds begun rfl taken
  refine ⟨_, acts, rfl, ?_⟩
  dsimp only [Strand.after]
  rw [quiet]
  rfl

theorem hung_reachable (messages : List Message) :
    ∃ history : History, history.Reachable ∧ history.threads = hung messages := by
  let claimed : Context := { quietRoot with lock := { word := LockWord.writerBit } }
  let start : History :=
    { threads := { state := quietRoot, waiting := [forking [.performFork 5 false]] }, begun := 1 }
  have fresh : Threads.Fresh { state := quietRoot } := by
    refine ⟨rfl, ?_, rfl⟩
    intro script member
    cases member
  have begins : LockMoves { threads := { state := quietRoot } } start :=
    .begins true ⟨rfl, by decide⟩
  obtain ⟨first, performs, one, performed⟩ :=
    @forking_acts quietRoot (.performFork 5 false) [] (quietRoot.performFork 5 false) start
      rfl rfl rfl
  obtain ⟨second, claims, two, holding⟩ :=
    @forking_acts quietRoot .claimWrite [.awaitDrained, .outside (.duplicate 5 false)]
      { context := claimed } first performed rfl rfl
  obtain ⟨third, drains, three, alone⟩ :=
    @forking_acts claimed .awaitDrained [.outside (.duplicate 5 false)] { context := claimed }
      second holding rfl rfl
  have number : third.begun = 1 := three.trans (two.trans one)
  have few : third.threads.waiting.length + 1 < LockWord.limit := by
    rw [alone]
    decide
  have receives := @Moves.begins World.Lawful Threads.Admits third false (messages.map .handle)
    ⟨orderly_handles third.threads.state.host.style messages, few⟩
  have run : Relation.ReflTransGen LockMoves start third :=
    ((Relation.ReflTransGen.single performs).tail claims).tail drains
  refine ⟨_, ⟨_, fresh, (run.head begins).tail receives⟩, ?_⟩
  rw [alone, number]
  rfl

section Hung

variable {messages : List Message} {history : History}

theorem hung_held (hangs : history.threads = hung messages) : history.Held := by
  rw [Held, hangs]
  exact ⟨_, List.mem_cons_self, rfl⟩

theorem hung_mem (hangs : history.threads = hung messages) :
    receiving messages ∈ history.threads.waiting := by
  rw [hangs]
  exact List.mem_cons_of_mem _ List.mem_cons_self

theorem hung_fork (hangs : history.threads = hung messages) : history.threads.state.fork = 0 := by
  rw [hangs]
  rfl

theorem hung_blocks {front : List Message} {message : Message} (mine : message.fork = 0)
    (needs : ∃ one ∈ front ++ [message], ForkTable.endsProcess one = false) :
    ∃ history : History, history.Reachable ∧ history.Held ∧
      history.threads = hung (front ++ [message]) ∧
      ¬ GetsThrough history (receiving (front ++ [message])) front message := by
  obtain ⟨history, reachable, hangs⟩ := hung_reachable (front ++ [message])
  have held := hung_held hangs
  refine ⟨history, reachable, held, hangs, fun through => ?_⟩
  have arrive : (receiving (front ++ [message])).call.todo = (front ++ message :: []).map .handle :=
    rfl
  have passes := passes_of_getsThrough reachable.sound held (hung_mem hangs) arrive
    (mine.trans (hung_fork hangs).symm) through
  obtain ⟨one, member, stays⟩ := needs
  have ends := (passes one member).2
  rw [stays] at ends
  cases ends

end Hung

/-- A root that hangs in the lock can be told to crash and to end. -/
theorem hung_root_ends : ∃ history : History, history.Reachable ∧ history.Held ∧
    history.threads = hung [.crash 0, .terminate 0] ∧
    GetsThrough history (receiving [.crash 0, .terminate 0]) [.crash 0] (.terminate 0) := by
  obtain ⟨history, reachable, hangs⟩ := hung_reachable [.crash 0, .terminate 0]
  have held := hung_held hangs
  have root := hung_fork hangs
  have arrive : (receiving [.crash 0, .terminate 0]).call.todo =
      ([Message.crash 0] ++ Message.terminate 0 :: []).map .handle := rfl
  refine ⟨history, reachable, held, hangs,
    (getsThrough_iff reachable held (hung_mem hangs) arrive root.symm).mpr ?_⟩
  rw [root]
  intro one member
  rcases List.mem_cons.mp member with rfl | last
  · exact ⟨rfl, rfl⟩
  · rw [List.mem_singleton.mp last]
    exact ⟨rfl, rfl⟩

/-- A root that hangs in the lock does not answer a probe, and behind a message that needs the lock
it cannot be told to end. -/
theorem hung_root_stays :
    (∃ history : History, history.Reachable ∧ history.Held ∧
      history.threads = hung [.ping 0 7] ∧
      ¬ GetsThrough history (receiving [.ping 0 7]) [] (.ping 0 7)) ∧
    ∃ history : History, history.Reachable ∧ history.Held ∧
      history.threads = hung [.createCheckpoint 0, .terminate 0] ∧
      ¬ GetsThrough history (receiving [.createCheckpoint 0, .terminate 0]) [.createCheckpoint 0]
        (.terminate 0) := by
  constructor
  · exact @hung_blocks [] (.ping 0 7) rfl ⟨.ping 0 7, List.mem_cons_self, rfl⟩
  · exact @hung_blocks [.createCheckpoint 0] (.terminate 0) rfl
      ⟨.createCheckpoint 0, List.mem_cons_self, rfl⟩

end History

end Playback
