import Playback.Proofs.Lists
import Playback.Proofs.Lock.Receiver
import Playback.Proofs.Machine.Duplicating
import Playback.Proofs.Manifests.Addressed
import Playback.Proofs.Manifests.Resuming
import Playback.Proofs.Slot.Inherited

set_option autoImplicit false

namespace Playback

/-! A child that is given messages for many -/

/-- What lies beyond a child leaves it the fork that it is, and dispatches nothing for others. -/
def World.Directed (world : World) : Prop :=
  ∀ operation context outcome, world operation context = some outcome → outcome.Directed context

theorem Strand.take?_directed {world : World} (lawful : world.Directed) {disk : Disk}
    {strand : Strand} {context : Context} {action : Action} {outcome : Outcome}
    (addressed : Playback.Addressed context.fork action)
    (scripts : context.host.Addressed context.fork)
    (taken : strand.take? world disk context action = some outcome) :
    outcome.Directed context := by
  unfold Strand.take? at taken
  split at taken
  · exact lawful _ context outcome taken
  · exact Context.step_directed addressed scripts taken

theorem Addressed.own {fork : UInt32} {message : Message}
    (addressed : Addressed fork (.dispatch message)) : message.fork = fork := by
  cases addressed with
  | dispatches own => exact own
  | other apart => cases apart

/-- What a manifest for somebody makes of the message that starts it. -/
theorem Context.next_handle {context : Context} {message : Message} {manifest : Bytes}
    (starts : message.manifest? = some manifest) :
    (context.handle message).next =
      [.enterRead, if message.fork = context.fork then .dispatch message else .passOn message,
        .leaveRead] := by
  have kind : message.kind = .manifestStart := by
    unfold Message.manifest? at starts
    split at starts
    · assumption
    · cases starts
  unfold handle
  rw [kind]
  split <;> rfl

namespace History

/-- Threads that dispatch nothing but what is addressed to one fork. -/
abbrev ForkMoves (fork : UInt32) : History → History → Prop :=
  Moves (fun world => world.Calm ∧ world.Directed) fun _ program =>
    ∀ action ∈ program, Calm action ∧ Addressed fork action

/-- A fork remains what it is, and acts on messages that bear its number. -/
structure Attends (fork : UInt32) (deed : Deed) : Prop where
  remains : deed.context.fork = fork
  dispatched : ∀ message, deed.action = .dispatch message → message.fork = fork
  handled : ∀ message manifest, deed.action = .handle message →
    message.manifest? = some manifest → deed.outcome.next =
      [.enterRead, if message.fork = fork then .dispatch message else .passOn message, .leaveRead]

structure Attending (fork : UInt32) (history : History) : Prop where
  remains : history.threads.state.fork = fork
  host : history.threads.state.host.Addressed fork
  todo : ∀ one ∈ history.threads.waiting, ∀ action ∈ one.call.todo, Addressed fork action
  deeds : ∀ deed ∈ history.deeds, Attends fork deed

variable {fork : UInt32} {history next : History}

theorem Attending.moves (attending : Attending fork history) (moves : ForkMoves fork history next) :
    Attending fork next := by
  cases moves with
  | @begins _ main program allowed =>
    refine ⟨attending.remains, attending.host, ?_, attending.deeds⟩
    intro one there
    rcases List.mem_append.mp there with old | new
    · exact attending.todo one old
    · rw [List.mem_singleton.mp new]
      exact fun action member => (allowed action member).2
  | @acts world law disk context before after one action rest outcome deeds begun todo taken =>
    have own := attending.todo one (List.mem_append_right _ List.mem_cons_self)
    rw [todo, List.forall_mem_cons] at own
    have same : context.fork = fork := attending.remains
    have host := attending.host
    rw [← same] at own host
    have directed := Strand.take?_directed law.2 own.1 host taken
    rw [same] at own
    refine ⟨directed.fork.trans same, same ▸ directed.host host, ?_, ?_⟩
    · intro other there
      rw [List.mem_append, List.mem_cons] at there
      rcases there with front | rfl | back
      · exact attending.todo other (List.mem_append_left _ front)
      · exact List.forall_mem_append.mpr ⟨same ▸ directed.next, own.2⟩
      · exact attending.todo other (List.mem_append_right _ (List.mem_cons_of_mem _ back))
    · intro deed there
      rcases List.mem_append.mp there with old | new
      · exact attending.deeds deed old
      · rw [List.mem_singleton.mp new]
        refine ⟨same, ?_, ?_⟩
        · rintro message rfl
          exact own.1.own
        · rintro message manifest rfl starts
          cases taken
          rw [Context.next_handle starts, same]
  | @ends context before after one deeds begun done =>
    have fewer := sublist_of_others before after one
    exact ⟨attending.remains, attending.host,
      fun other there => attending.todo other (fewer.subset there), attending.deeds⟩

theorem Attending.run (attending : Attending fork history)
    (run : Relation.ReflTransGen (ForkMoves fork) history next) : Attending fork next := by
  induction run with
  | refl => exact attending
  | tail _ moves ih => exact ih.moves moves

end History

/-! The lock -/

/-- The one who writes is alone, and leaves a free lock. -/
theorem Tally.release_eq {lock : LockWord} {stances : List Stance} (tally : Tally lock stances)
    (writes : .writing ∈ stances) : lock.release = {} := by
  have writing : 0 < stances.count .writing := List.count_pos_iff.mpr writes
  have single : writers stances = 1 := by
    have most := tally.single
    have least : stances.count .writing ≤ writers stances := Nat.le_add_left _ _
    omega
  have counts := tally.counts
  rw [single, tally.alone writing] at counts
  have word : lock.release.word.toNat = 0 := counts.release.word
  exact congrArg LockWord.mk (UInt32.toNat_inj.mp word)

theorem Threads.Counted.release_eq {threads : Threads} (counted : Threads.Counted threads)
    {one : Waiting Strand} (there : one ∈ threads.waiting) {fork : UInt32} {awaited : Bool}
    {rest : Program} (todo : one.call.todo = .outside (.duplicate fork awaited) :: rest) :
    threads.state.lock.release = {} := by
  obtain ⟨stance, stands⟩ := counted.stands there
  have writes : stance = .writing := by
    rw [stance?, Strand.stance?, todo, standing, Option.bind_eq_some_iff] at stands
    obtain ⟨last, -, before⟩ := stands
    cases last <;> cases before
    rfl
  obtain ⟨stances, stand, tally⟩ := counted.tallied
  have member := List.mem_map_of_mem (f := stance? threads.state.host.style) there
  rw [stand, stands, writes] at member
  exact tally.release_eq (by simpa using member)

/-! Both processes -/

theorem inHand_append {more : Program} (calm : ∀ action ∈ more, Calm action) (todo : Program) :
    inHand (todo ++ more) = inHand todo := by
  have none := inHand_of_calm calm
  rw [inHand] at none ⊢
  rw [List.findSome?_append, none, Option.or_none, inHand]

theorem Duty.append {todo more : Program} (duty : Duty todo)
    (calm : ∀ action ∈ more, Calm action) : Duty (todo ++ more) := by
  have behind {rest : Program} (first : ∀ action ∈ rest, Calm action) :
      ∀ action ∈ rest ++ more, Calm action := List.forall_mem_append.mpr ⟨first, calm⟩
  induction duty with
  | nothing => exact .of_calm calm
  | calm first later ih => exact .calm first ih
  | starts manifest first => exact .starts manifest (behind first)
  | runs manifest first => exact .runs manifest (behind first)
  | concludes manifest first => exact .concludes manifest (behind first)
  | reports output bulk first => exact .reports output bulk (behind first)
  | finishes first => exact .finishes (behind first)

namespace History

/-- The parent behind the duplication. The thread that asked for it releases the lock and gets its
answer. -/
def ofParent (context : Context) (before : List (Waiting Strand)) (one : Waiting Strand)
    (after : List (Waiting Strand)) (answer : Action) (rest : Program) (begun : Nat) : History where
  threads :=
    { state := context
      waiting :=
        before ++ { one with call := { one.call with todo := .releaseWrite :: answer :: rest } } ::
          after }
  begun := begun

section
variable {context : Context} {before after : List (Waiting Strand)} {one : Waiting Strand}
  {deeds : List Deed} {begun : Nat} {fork : UInt32} {awaited : Bool} {rest : Program}
  {manifest : Bytes}
  (inTurn : InTurn (.among context before one after deeds begun))
  (todo : one.call.todo = .outside (.duplicate fork awaited) :: rest)
  (runs : inHand rest = some (.concludes manifest))

include inTurn todo runs

/-- Where the process is duplicated by a manifest, nothing else is on its way. -/
theorem alone_duplicating :
    Duty rest ∧ context.manifests.processing = true ∧ context.host.tasks.tasks = [] ∧
      ∀ other : Waiting Strand, inHand other.call.todo = some (.concludes manifest) →
        Threads.flight { state := context, waiting := before ++ other :: after } =
          [.concludes manifest] := by
  have there : one ∈ before ++ one :: after := List.mem_append_right _ List.mem_cons_self
  have hand : inHand one.call.todo = some (.concludes manifest) := by
    rw [todo, inHand_cons, runs]
    rfl
  have duty := inTurn.duties one there
  rw [todo] at duty
  obtain ⟨balanced, tasks, flight⟩ := inTurn.only hand
  refine ⟨?_, ?_, tasks, ?_⟩
  · cases duty with
    | calm _ later => exact later
  · obtain ⟨done, taken, token, -, same, -, processing, -⟩ := balanced
    cases token with
    | none => cases same
    | some token => exact processing
  · intro other held
    rw [flight, held, tasks]
    rfl

theorem resumes_ofParent {answer : Action} (calm : Calm answer) :
    (ofParent context before one after answer rest begun).Resumes manifest := by
  obtain ⟨duty, processing, -, flight⟩ := alone_duplicating inTurn todo runs
  have front : ∀ action ∈ [Action.releaseWrite, answer], Calm action := by
    simp only [List.forall_mem_cons]
    exact ⟨.other rfl, calm, List.forall_mem_nil _⟩
  refine ⟨rfl, inTurn.host, ?_, processing, ?_⟩
  · intro other there
    dsimp only [ofParent] at there
    rw [List.mem_append, List.mem_cons] at there
    rcases there with first | rfl | last
    · exact inTurn.duties other (List.mem_append_left _ first)
    · exact duty.prepend front
    · exact inTurn.duties other (List.mem_append_right _ (List.mem_cons_of_mem _ last))
  · exact flight _ ((inHand_prepend front rest).trans runs)

theorem resumes_ofFork (endpoint : Nat) :
    (ofFork (Machine.forked context fork endpoint) rest).Resumes manifest := by
  obtain ⟨duty, processing, tasks, -⟩ := alone_duplicating inTurn todo runs
  have behind : ∀ action ∈ [Action.serve], Calm action :=
    List.forall_mem_singleton.mpr (.other rfl)
  refine ⟨rfl, inTurn.host, ?_, processing, ?_⟩
  · exact List.forall_mem_singleton.mpr (duty.append behind)
  · have held : inHand (rest ++ [.serve]) = some (.concludes manifest) :=
      (inHand_append behind rest).trans runs
    change [({ ticket := 0, call := { main := true, todo := rest ++ [.serve] } } :
      Waiting Strand)].filterMap (fun one => inHand one.call.todo) ++
        context.host.tasks.tasks.map Token.waits = _
    rw [tasks, filterMap_cons_toList]
    dsimp only
    rw [held]
    rfl

end

/-- The duplicate attends to its own messages. -/
theorem attending_ofFork {context : Context} {fork : UInt32} {rest : Program}
    (scripts : context.host.Addressed fork) (ours : ∀ action ∈ rest, Addressed fork action)
    (endpoint : Nat) : Attending fork (ofFork (Machine.forked context fork endpoint) rest) := by
  refine ⟨rfl, scripts, ?_, List.forall_mem_nil _⟩
  refine List.forall_mem_singleton.mpr (List.forall_mem_append.mpr ⟨ours, ?_⟩)
  exact List.forall_mem_singleton.mpr (.other rfl)

end History

/-- What a manifest that duplicates its process leaves to the parent and to the duplicate. Between
them they have the manifest that runs, which both bring to its end, and those that wait, which are
the parent's. -/
structure Splits (history : History) (before : List (Waiting Strand)) (one : Waiting Strand)
    (after : List (Waiting Strand)) (fork : UInt32) (rest : Program) (manifest : Bytes)
    (child : Context) (answer : Action) : Prop where
  /-- The first thing that the parent does behind the duplication. -/
  released : ∀ main value disk, history.threads.state.step main value disk .releaseWrite =
    some { context := { history.threads.state with lock := {} } }
  parent : ∀ later,
    Relation.ReflTransGen History.CalmMoves
      (.ofParent history.threads.state before one after answer rest history.begun) later →
    later.Continues manifest history.threads.state.manifests.pending
  same : child.recording = history.threads.state.recording ∧
    child.calls.cache = history.threads.state.calls.cache ∧
    child.introduction = history.threads.state.introduction ∧
    child.crash = history.threads.state.crash
  free : child.lock = {}
  duplicate : ∀ later,
    Relation.ReflTransGen (History.ForkMoves fork) (.ofFork child rest) later →
    later.Continues manifest [] ∧ ∀ deed ∈ later.deeds, History.Attends fork deed

/-- A manifest duplicates its process while others wait, and the duplicate opens a channel of its
own. No child that was there is changed, and that of the parent releases the lock, brings the round
of the manifest to its end and then has the rounds of those that wait, each once and in their order.
The new child has the recording, the known outputs, the introduction and the notes of its parent and
a free lock. It brings the round of the manifest to its end as the fork that it is, and then has the
rounds of those that come in for this fork, and of no others. -/
theorem manifests_split {history : History} (serving : history.Serving)
    (reachable : history.Reachable) {before after : List (Waiting Strand)} {one : Waiting Strand}
    (there : history.threads.waiting = before ++ one :: after) {fork : UInt32} {awaited : Bool}
    {thread : Thread} (todo : one.call.todo = .outside (.duplicate fork awaited) :: thread.todo)
    {manifest : Bytes} (runs : inHand thread.todo = some (.concludes manifest))
    (scripts : history.threads.state.host.Addressed fork)
    (ours : ∀ action ∈ thread.todo, Addressed fork action)
    {machine next : Machine} (apart : machine.Apart) {moved : Thread}
    (here : machine.context? thread.member = some history.threads.state)
    (taken : machine.operate thread (.duplicate fork awaited) = some (next, moved))
    (opened : machine.network.endpoints.length < next.network.endpoints.length) :
    ∃ leader pid,
      machine.Duplicated next thread moved fork awaited history.threads.state leader pid ∧
      Splits history before one after fork thread.todo manifest
        (Machine.forked history.threads.state fork machine.network.endpoints.length)
        (if awaited then .awaitRegistration fork pid else .answer .parent) := by
  obtain ⟨leader, pid, duplicated⟩ := Machine.duplicate_opened apart here taken opened
  obtain ⟨⟨context, waiting⟩, deeds, begun⟩ := history
  cases there
  have inTurn : InTurn (.among context before one after deeds begun) := serving.inTurn
  have lock : context.lock.release = {} := reachable.sound.counted.release_eq
    (List.mem_append_right before List.mem_cons_self) todo
  refine ⟨leader, pid, duplicated, ?_, ?_, ⟨rfl, rfl, rfl, rfl⟩, rfl, ?_⟩
  · intro main value disk
    exact congrArg (fun lock => some ({ context := { context with lock } } : Outcome)) lock
  · intro later run
    refine (History.resumes_ofParent inTurn todo runs ?_).goesOn run
    split <;> exact .other rfl
  · intro later run
    have calm : Relation.ReflTransGen History.CalmMoves _ later :=
      run.lift id fun _ _ moves => moves.mono (fun _ law => law.1)
        fun _ _ all action member => (all action member).1
    exact ⟨(History.resumes_ofFork inTurn todo runs _).goesOn calm,
      ((History.attending_ofFork scripts ours _).run run).deeds⟩

/-- A root whose first manifest duplicates its process. -/
def splittingRoot : Threads where
  state :=
    { config := { socketFolder := "" }, channel := some 0, pipe := some 0
      host := { style := .scripted, scripts := [[[.performFork 5 false]]] } }

/-- Two manifests come in, and the first one runs until its process is to be duplicated. -/
def splittingTurns : List History.Turn :=
  .begins false (Program.handle (.manifestStart 0 [1])) :: List.replicate 5 (.acts 0) ++
    .begins false (Program.handle (.manifestStart 0 [2])) :: List.replicate 4 (.acts 1) ++
    .begins true [.serve] :: List.replicate 6 (.acts 2)

/-- What is left to do when the process is duplicated. -/
def behindSplit : Program := [.noteStep, .conclude [1], .serve]

/-- The main thread at that moment. -/
def splitter : Waiting Strand where
  ticket := 2
  call := { main := true, todo := .outside (.duplicate 5 false) :: behindSplit }

/-- The threads that brought the manifests. -/
def handlers : List (Waiting Strand) :=
  [{ ticket := 0, call := { todo := [.answer .done] } },
    { ticket := 1, call := { todo := [.answer .done] } }]

def splitting : Threads where
  state :=
    { splittingRoot.state with
      lock := { word := LockWord.writerBit }
      manifests := { pending := [[2]], processing := true }
      host := { style := .scripted, events := [.dispatched, .manifest [1] false] } }
  waiting := handlers ++ [splitter]

/-- This root as the first child of a machine. -/
def splittingSeat : Machine.Seat where
  config := splittingRoot.state.config
  host := splittingRoot.state.host

/-- The same turns there. The first thread of the machine receives. -/
def splittingMachineTurns : List Machine.Turn :=
  .starts { member := 0, todo := Program.handle (.manifestStart 0 [1]) } ::
    List.replicate 5 (.acts 1) ++
    .starts { member := 0, todo := Program.handle (.manifestStart 0 [2]) } ::
    List.replicate 4 (.acts 2) ++
    .starts { member := 0, main := true, todo := [.serve] } :: List.replicate 6 (.acts 3)

/-- The main thread behind the duplication. -/
def splitterThread : Thread where
  member := 0
  main := true
  todo := behindSplit

theorem splitting_reached : ∃ history : History, history.Serving ∧ history.Reachable ∧
    history.threads = splitting := by
  let lets (threads : Threads) (program : Program) : Bool :=
    threads.Admits program && program.all (!·.serves)
  have played : (({ threads := splittingRoot } : History).playIf lets splittingTurns).map
      History.threads = some splitting := rfl
  obtain ⟨history, ran, same⟩ := Option.map_eq_some_iff.mp played
  have run : Relation.ReflTransGen
      (History.Moves (fun world => world.Lawful ∧ world.Calm)
        fun threads program => threads.Admits program ∧ ∀ action ∈ program, Calm action)
      { threads := splittingRoot } history := by
    refine History.moves_of_playIf ⟨World.still_lawful, World.still_calm⟩ ?_ ran
    intro threads program admitted
    obtain ⟨orderly, idle⟩ := Bool.and_eq_true_iff.mp admitted
    exact ⟨of_decide_eq_true orderly, calm_of_serves idle⟩
  have scripted : splittingRoot.state.host.Scripted := by
    change ∀ script ∈ [[[Action.performFork 5 false]]], ∀ step ∈ script, Orderly .scripted step
    decide
  refine ⟨history, ⟨splittingRoot, rfl, rfl, Host.calm_of_all rfl, rfl, ?_⟩,
    ⟨splittingRoot, ⟨rfl, scripted, rfl⟩, ?_⟩, same⟩
  · exact run.lift id fun _ _ moves => moves.mono (fun _ law => law.2) fun _ _ all => all.2
  · exact run.lift id fun _ _ moves => moves.mono (fun _ law => law.1) fun _ _ all => all.1

theorem splittingMachine_reached : ∃ machine : Machine,
    Relation.ReflTransGen Machine.Goes (Machine.ofSeats {} [splittingSeat]) machine ∧
    machine.threads.getLast? = some { splitterThread with todo := splitter.call.todo } ∧
    machine.context? 0 = some splitting.state ∧
    machine.processes[machine.processOf 0]? = some { pid := 0 } ∧
    machine.processes.length = 1 ∧
    machine.network = (Machine.ofSeats {} [splittingSeat]).network := by
  have played : ((Machine.ofSeats {} [splittingSeat]).play splittingMachineTurns).map
      (fun machine => (machine.threads.getLast?, machine.context? 0,
        machine.processes[machine.processOf 0]?, machine.processes.length, machine.network)) =
      some (some { splitterThread with todo := splitter.call.todo }, some splitting.state,
        some { pid := 0 }, 1, (Machine.ofSeats {} [splittingSeat]).network) := rfl
  obtain ⟨machine, ran, found⟩ := Option.map_eq_some_iff.mp played
  simp only [Prod.mk.injEq] at found
  exact ⟨machine, Machine.goes_of_play ran, found⟩

/-- The first manifest duplicates the process of a root while another one waits. -/
theorem splits_while_one_waits : ∃ (history : History) (machine next : Machine) (moved : Thread)
    (leader : Nat) (pid : UInt32), history.threads = splitting ∧
    Relation.ReflTransGen Machine.Goes (Machine.ofSeats {} [splittingSeat]) machine ∧
    machine.threads.getLast? = some { splitterThread with todo := splitter.call.todo } ∧
    Machine.Duplicated { machine with threads := machine.threads.dropLast } next splitterThread
      moved 5 false splitting.state leader pid ∧
    Splits history handlers splitter [] 5 behindSplit [1] (Machine.forked splitting.state 5 1)
      (.answer .parent) := by
  obtain ⟨history, serving, reachable, same⟩ := splitting_reached
  obtain ⟨machine, run, last, state, alive, processes, network⟩ := splittingMachine_reached
  have path : socketPath splitting.state.config.socketFolder
      (UInt32.ofNat (Machine.firstPid + machine.processes.length)) 0 = Network.nearbySocket := by
    rw [processes]
    decide +kernel
  have count : machine.network.endpoints.length = 1 := by rw [network]; rfl
  obtain ⟨channel, opens⟩ : ∃ channel, machine.network.openListening 0 .replayForked
      Network.nearbySocket = (.ok machine.network.endpoints.length, channel) := by
    rw [network]
    exact Network.opens_nearbySocket rfl rfl
  rw [← path] at opens
  have apart : ({ machine with threads := machine.threads.dropLast } : Machine).Apart :=
    (Machine.apart_of_run run).keeps ⟨rfl, rfl⟩
  obtain ⟨next, moved, taken, opened⟩ := @Machine.duplicate_of_opens
    { machine with threads := machine.threads.dropLast } splitterThread splitting.state state _
    alive _ channel opens 5 false
  have there : history.threads.waiting = handlers ++ splitter :: [] := by rw [same]; rfl
  have here : machine.context? splitterThread.member = some history.threads.state := by
    rw [same]
    exact state
  have scripts : history.threads.state.host.Addressed 5 := by
    rw [same]
    exact List.forall_mem_nil _
  have ours : ∀ action ∈ behindSplit, Addressed 5 action := addressed_of_dispatches rfl
  obtain ⟨leader, pid, duplicated, splits⟩ :=
    manifests_split serving reachable there rfl rfl scripts ours apart here taken opened
  rw [same] at duplicated splits
  rw [count] at splits
  exact ⟨history, machine, next, moved, leader, pid, same, run, last, duplicated, splits⟩

end Playback
