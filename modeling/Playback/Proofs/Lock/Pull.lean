import Playback.Proofs.Lock.Strands

set_option autoImplicit false

namespace Playback

namespace Threads

/-- A thread with so much to do, among others. -/
def among (before : List (Waiting Strand)) (one : Waiting Strand)
    (after : List (Waiting Strand)) (context : Context) (todo : Program) : Threads where
  state := context
  waiting := before ++ { one with call := { one.call with todo } } :: after

/-- One action of one thread that leaves its value as it is. -/
theorem Run.single {before after : List (Waiting Strand)} {one : Waiting Strand}
    {context changed : Context} {action : Action} {next rest : Program} {records : List Record}
    {effects : List Effect}
    (taken : context.step one.call.main one.call.value {} action =
      some { context := changed, effects, records, next }) :
    Run (among before one after context (action :: rest))
      (among before one after changed (next ++ rest)) := by
  obtain ⟨strand, given⟩ : ∃ strand : Strand,
    strand = { one.call with todo := action :: rest } := ⟨_, rfl⟩
  have take : strand.take? .still {} context action =
      some { context := changed, effects, records, next } := by
    unfold Strand.take?
    rw [given]
    split
    · cases taken
    · exact taken
  have moved : strand.move .still {} context =
      some { state := changed, records, next := .inl { one.call with todo := next ++ rest } } := by
    rw [Strand.move, given]
    dsimp only
    rw [← given, take, Option.map_some]
    rfl
  have step := @Crew.Step.goesOn Context Strand Reply (Strand.move .still {}) context before after
    { one with call := strand } _ _ moved rfl
  rw [given] at step
  exact Relation.ReflTransGen.single (.acts World.still_lawful step)

/-- What arrives at a child as a part of the recording. -/
def dataMessage (fork : UInt32) (chunk : Chunk) : Message :=
  .recordingData fork chunk.offset chunk.data

theorem handle_data (context : Context) (chunk : Chunk) :
    context.handle (dataMessage context.fork chunk) =
      context.followedBy
        [.enterRead, .dispatch (dataMessage context.fork chunk), .leaveRead] := by
  have own : (dataMessage context.fork chunk).fork = context.fork := rfl
  rw [Context.handle, if_pos own]
  rfl

/-- Bytes that arrive while no writer wants the lock are taken in, and the lock is as before. -/
theorem Run.data {before after : List (Waiting Strand)} {one : Waiting Strand} {context : Context}
    (rest : Program) (chunk : Chunk) (free : context.lock.isWriteLocked = false) :
    Run (among before one after context (.handle (dataMessage context.fork chunk) :: rest))
      (among before one after
        { context with recording := (context.recording.addChunk chunk).2 } rest) := by
  have looks : context.step one.call.main one.call.value {}
      (.handle (dataMessage context.fork chunk)) =
        some (context.followedBy
          [.enterRead, .dispatch (dataMessage context.fork chunk), .leaveRead]) := by
    rw [Context.step, handle_data]
  obtain ⟨inside, given⟩ : ∃ inside : Context,
      inside = { context with lock := { word := context.lock.word + 1 } } := ⟨_, rfl⟩
  have enters : context.step one.call.main one.call.value {} .enterRead =
      some { context := inside } := by
    rw [Context.step, LockWord.enter?, free, given]
    rfl
  obtain ⟨filled, more⟩ : ∃ filled : Context,
      filled = { inside with recording := (context.recording.addChunk chunk).2 } := ⟨_, rfl⟩
  have takesIn : inside.step one.call.main one.call.value {}
      (.dispatch (dataMessage context.fork chunk)) =
        some { context := filled, records := context.recording.chunkRecords chunk } := by
    rw [more, given]
    rfl
  have leaves : filled.step one.call.main one.call.value {} .leaveRead =
      some { context := { context with recording := (context.recording.addChunk chunk).2 } } := by
    rw [Context.step, more, given, LockWord.leave]
    simp only [UInt32.add_sub_cancel]
  exact (Run.single looks).trans <| (Run.single enters).trans <| (Run.single takesIn).trans <|
    Run.single leaves

/-- A recording into which chunks are taken one after the other. -/
def fill (recording : Recording) (chunks : List Chunk) : Recording :=
  chunks.foldl (fun recording chunk => (recording.addChunk chunk).2) recording

def dataProgram (fork : UInt32) (chunks : List Chunk) : Program :=
  chunks.map fun chunk => .handle (dataMessage fork chunk)

theorem Run.allData {before after : List (Waiting Strand)} {one : Waiting Strand}
    {context : Context} (rest : Program) (chunks : List Chunk)
    (free : context.lock.isWriteLocked = false) :
    Run (among before one after context (dataProgram context.fork chunks ++ rest))
      (among before one after
        { context with recording := fill context.recording chunks } rest) := by
  induction chunks generalizing context with
  | nil => exact .refl
  | cons chunk chunks ih =>
    have first : Run
        (among before one after context
          (.handle (dataMessage context.fork chunk) :: (dataProgram context.fork chunks ++ rest)))
        (among before one after
          { context with recording := (context.recording.addChunk chunk).2 }
          (dataProgram context.fork chunks ++ rest)) := Run.data _ chunk free
    have others := @ih { context with recording := (context.recording.addChunk chunk).2 } free
    exact first.trans others

/-- What is left of an answer to a fork that asked for bytes up to some length. -/
def pullProgram (fork : UInt32) (start length : UInt64) (rest : Program) : Program :=
  .awaitLength length :: .answerRange fork start length :: .leaveRead :: rest

/-- A root that is asked for bytes while no writer wants the lock reads the lock and waits. -/
theorem Run.asked {before after : List (Waiting Strand)} {one : Waiting Strand}
    {context : Context} (root : context.isRoot = true) (fork : UInt32) (start length : UInt64)
    (rest : Program) (free : context.lock.isWriteLocked = false) :
    Run (among before one after context
        (.handleFork (.updateRecording fork start length) :: rest))
      (among before one after { context with lock := { word := context.lock.word + 1 } }
        (pullProgram fork start length rest)) := by
  obtain ⟨inside, given⟩ : ∃ inside : Context,
      inside = { context with lock := { word := context.lock.word + 1 } } := ⟨_, rfl⟩
  have looks : context.step one.call.main one.call.value {}
      (.handleFork (.updateRecording fork start length)) =
        some (context.followedBy
          [.enterRead, .dispatchFork (.updateRecording fork start length), .leaveRead]) := rfl
  have enters : context.step one.call.main one.call.value {} .enterRead =
      some { context := inside } := by
    rw [Context.step, LockWord.enter?, free, given]
    rfl
  have finds : inside.step one.call.main one.call.value {}
      (.dispatchFork (.updateRecording fork start length)) =
        some (inside.followedBy [.ensureLength length, .answerRange fork start length]) := rfl
  have waits : inside.step one.call.main one.call.value {} (.ensureLength length) =
      some (inside.followedBy [.awaitLength length]) := by
    have same : inside.isRoot = true := by rw [given]; exact root
    rw [Context.step, Context.ensureLength, same]
    rfl
  rw [← given]
  exact (Run.single looks).trans <| (Run.single enters).trans <| (Run.single finds).trans <|
    Run.single waits

/-- A root with the bytes that a fork has asked for, once it has sent them. -/
def answered (context : Context) (fork : UInt32) (start length : UInt64) : Context :=
  { context with
    forks := (context.forks.route
      (.recordingData fork start (context.recording.range start length))).2
    lock := context.lock.leave }

theorem Run.pull {before after : List (Waiting Strand)} {one : Waiting Strand} {context : Context}
    (fork : UInt32) (start length : UInt64) (rest : Program)
    (enough : length.toNat ≤ context.recording.length) :
    Run (among before one after context (pullProgram fork start length rest))
      (among before one after (answered context fork start length) rest) := by
  have goesOn : context.step one.call.main one.call.value {} (.awaitLength length) =
      some { context } := by
    rw [Context.step, if_pos enough]
  obtain ⟨answer, sends⟩ : ∃ answer, answer =
    Message.recordingData fork start (context.recording.range start length) := ⟨_, rfl⟩
  obtain ⟨sent, given⟩ : ∃ sent : Context,
    sent = { context with forks := (context.forks.route answer).2 } := ⟨_, rfl⟩
  have answers : context.step one.call.main one.call.value {} (.answerRange fork start length) =
      some { context := sent, effects := (context.route answer).effects,
             records := (context.route answer).records } := by
    rw [Context.step, given, sends]
    rfl
  have leaves : sent.step one.call.main one.call.value {} .leaveRead =
      some { context := answered context fork start length } := by
    rw [Context.step, given, sends]
    rfl
  exact (Run.single goesOn).trans <| (Run.single answers).trans <| Run.single leaves

/-- What is left of the handling of a message once it has been looked at. -/
def guarded (message : Message) (later : Program) : Program :=
  .enterRead :: .dispatch message :: .leaveRead :: later

/-- The bytes that arrive have not come past the lock. -/
def Waits (fork : UInt32) (chunk : Chunk) (later : Program) (data one : Waiting Strand) : Prop :=
  let message := dataMessage fork chunk
  one = { data with call := { data.call with todo := .handle message :: later } } ∨
  one = { data with call := { data.call with todo := guarded message later } }

/-- The answer waits for bytes, and the bytes wait for the lock that a writer has claimed. -/
structure Jammed (threads : Threads) (pull : Waiting Strand) (length : UInt64) (chunk : Chunk)
    (later : Program) (data : Waiting Strand) : Prop where
  pulls : pull ∈ threads.waiting
  waits : ∃ one ∈ threads.waiting, Waits threads.state.fork chunk later data one
  locked : threads.state.lock.isWriteLocked = true
  short : threads.state.recording.length < length.toNat

theorem stance_of_pull {style : HostStyle} {fork : UInt32} {start length : UInt64} {rest : Program}
    {stance : Stance}
    (stands : standing style .outside (pullProgram fork start length rest) = some stance) :
    stance = .reading := by
  obtain ⟨second, behind, same⟩ := Option.bind_eq_some_iff.mp stands
  obtain ⟨third, last, equal⟩ := Option.bind_eq_some_iff.mp behind
  obtain ⟨first, _, left⟩ := Option.bind_eq_some_iff.mp last
  cases first <;> cases left
  cases equal
  cases same
  rfl

/-- A thread among the others stands where one of them is counted. -/
theorem mem_stances {style : HostStyle} {before after : List (Waiting Strand)}
    {front back : List Stance} {one : Waiting Strand} {stance : Stance}
    (first : before.map (stance? style) = front.map some)
    (last : after.map (stance? style) = back.map some)
    (there : one ∈ before ++ after) (stands : stance? style one = some stance) :
    stance ∈ front ++ back := by
  have all : (before ++ after).map (stance? style) = (front ++ back).map some := by
    rw [List.map_append, first, last, List.map_append]
  have member := List.mem_map_of_mem (f := stance? style) there
  rw [all, stands] at member
  simpa using member

/-- Without the bytes the answer cannot go on. -/
theorem pull_move_eq_none {world : World} {disk : Disk} {context : Context} {pull : Strand}
    {fork : UInt32} {start length : UInt64} {rest : Program}
    (todo : pull.todo = pullProgram fork start length rest)
    (short : context.recording.length < length.toNat) : pull.move world disk context = none := by
  have waits : pull.take? world disk context (.awaitLength length) = none :=
    if_neg (Nat.not_le.mpr short)
  rw [Strand.move, todo, pullProgram]
  dsimp only
  rw [waits, Option.map_none]

/-- Behind a writer the bytes that arrive come as far as the lock. -/
theorem Waits.moves {world : World} {disk : Disk} {context : Context} {chunk : Chunk}
    {later : Program} {data one : Waiting Strand} (waits : Waits context.fork chunk later data one)
    (locked : context.lock.isWriteLocked = true) {moved : Move Context Strand Reply}
    (taken : one.call.move world disk context = some moved) :
    ∃ call, moved.next = .inl call ∧ Waits context.fork chunk later data { one with call } := by
  have looks : ∀ strand : Strand,
      strand.take? world disk context (.handle (dataMessage context.fork chunk)) =
        some (context.followedBy
          [.enterRead, .dispatch (dataMessage context.fork chunk), .leaveRead]) :=
    fun _ => congrArg some (handle_data context chunk)
  have shut : ∀ strand : Strand, strand.take? world disk context .enterRead = none := by
    intro strand
    change context.lock.enter?.map _ = none
    rw [LockWord.enter?, locked]
    rfl
  rcases waits with rfl | rfl <;> rw [Strand.move] at taken <;> dsimp only [guarded] at taken
  · rw [looks, Option.map_some] at taken
    cases taken
    exact ⟨_, rfl, Or.inr rfl⟩
  · rw [shut] at taken
    cases taken

theorem Jammed.acts {threads next : Threads} (counted : Counted threads) {world : World}
    (lawful : world.Lawful) {disk : Disk}
    (step : Crew.Step (Strand.move world disk) threads next) {pull data : Waiting Strand}
    {fork : UInt32} {start length : UInt64} {rest later : Program} {chunk : Chunk}
    (todo : pull.call.todo = pullProgram fork start length rest)
    (jammed : Jammed threads pull length chunk later data)
    (short : next.state.recording.length < length.toNat) :
    Jammed next pull length chunk later data := by
  obtain ⟨pulls, ⟨other, there, waits⟩, locked, lacking⟩ := jammed
  obtain ⟨stance, stands⟩ := counted.stands pulls
  have reads : stance? threads.state.host.style pull = some .reading := by
    have place := stands
    rw [stance?, Strand.stance?, todo] at place
    rw [stands, stance_of_pull place]
  cases step with
  | @goesOn state before after one moved call taken inside =>
    obtain ⟨front, stance, back, first, own, last, small, tally⟩ := counted.split
    have stays : pull ≠ one := by
      rintro rfl
      rw [pull_move_eq_none todo lacking] at taken
      cases taken
    have pulling := mem_others pulls stays
    rcases Strand.move_eq_some lawful counted.scripted own taken with
      ⟨value, -, -, -, ended⟩ | ⟨strand, place, goes, stands, changed⟩
    · rw [inside] at ended
      cases ended
    · refine ⟨?_, ?_, ?_, short⟩
      · rw [List.mem_append, List.mem_cons]
        exact (List.mem_append.mp pulling).imp_right Or.inr
      · rw [changed.fork]
        by_cases same : other = one
        · subst same
          obtain ⟨waiting, next, further⟩ := waits.moves locked taken
          rw [inside] at next
          cases next
          exact ⟨_, List.mem_append_right _ List.mem_cons_self, further⟩
        · refine ⟨other, ?_, waits⟩
          rw [List.mem_append, List.mem_cons]
          exact (List.mem_append.mp (mem_others there same)).imp_right Or.inr
      · exact tally.locked_step small (mem_stances first last pulling reads) locked changed.lock
  | @answers state before after one moved answer taken done =>
    obtain ⟨front, stance, back, first, own, last, small, tally⟩ := counted.split
    have stays : pull ≠ one := by
      rintro rfl
      rw [pull_move_eq_none todo lacking] at taken
      cases taken
    have waiting : other ≠ one := by
      rintro rfl
      obtain ⟨call, next, -⟩ := waits.moves locked taken
      rw [done] at next
      cases next
    rcases Strand.move_eq_some lawful counted.scripted own taken with
      ⟨value, -, -, same, -⟩ | ⟨strand, place, goes, -, -⟩
    · rw [same]
      exact ⟨mem_others pulls stays, ⟨other, mem_others there waiting, waits⟩, locked, lacking⟩
    · rw [done] at goes
      cases goes

theorem Jammed.run {threads next : Threads} (counted : Counted threads)
    (run : Run threads next) {pull data : Waiting Strand}
    {fork : UInt32} {start length : UInt64} {rest later : Program} {chunk : Chunk}
    (todo : pull.call.todo = pullProgram fork start length rest)
    (jammed : Jammed threads pull length chunk later data)
    (short : next.state.recording.length < length.toNat) :
    Jammed next pull length chunk later data := by
  induction run with
  | refl => exact jammed
  | @tail middle last through moves ih =>
    have still := counted.run through
    have lacking : middle.state.recording.length < length.toNat :=
      Nat.lt_of_le_of_lt (moves.recording still).length_le short
    have between := ih lacking
    cases moves with
    | begins one orderly few =>
      obtain ⟨pulls, ⟨other, there, waits⟩, locked, -⟩ := between
      exact ⟨List.mem_append_left _ pulls, ⟨other, List.mem_append_left _ there, waits⟩, locked,
        lacking⟩
    | acts lawful step => exact between.acts still lawful step todo short

/-- A fork's request waits for bytes that its root does not have, and bytes arrive that are
enough. While no writer wants the lock they can be taken in and the request answered. Once a writer
has claimed the lock they cannot: whatever the threads do, the request, the bytes and the writer
wait for one another until somebody gets the bytes into the recording another way. -/
theorem pull_released_unless_claimed {threads : Threads} (reachable : threads.Reachable)
    {before after : List (Waiting Strand)} {pull : Waiting Strand}
    (there : threads.waiting = before ++ pull :: after) {fork : UInt32} {start length : UInt64}
    {rest : Program} (todo : pull.call.todo = pullProgram fork start length rest)
    (lacking : threads.state.recording.length < length.toNat) {data : Waiting Strand}
    {chunk : Chunk} {chunks : List Chunk} {later : Program}
    (sends : data.call.todo = dataProgram threads.state.fork (chunk :: chunks) ++ later)
    (orderly : Orderly threads.state.host.style data.call.todo)
    (few : threads.waiting.length + 1 < LockWord.limit)
    (enough : length.toNat ≤ (fill threads.state.recording (chunk :: chunks)).length) :
    let started : Threads := { threads with waiting := threads.waiting ++ [data] }
    let filled : Context :=
      { threads.state with recording := fill threads.state.recording (chunk :: chunks) }
    started.Reachable ∧
    (threads.state.lock.isWriteLocked = false →
      started.Run
        { state := answered filled fork start length
          waiting := before ++ { pull with call := { pull.call with todo := rest } } ::
            (after ++ [{ data with call := { data.call with todo := later } }]) }) ∧
    (threads.state.lock.isWriteLocked = true → ∀ next : Threads, started.Run next →
      next.state.recording.length < length.toNat →
      Jammed next pull length chunk (dataProgram threads.state.fork chunks ++ later) data) := by
  intro started filled
  have counted : started.Counted := reachable.counted.begins orderly few
  obtain ⟨fresh, origin, run⟩ := reachable
  have begins : Moves threads started := .begins data orderly few
  refine ⟨⟨fresh, origin, run.tail begins⟩, ?_, ?_⟩
  · intro free
    have starts : among threads.waiting data [] threads.state
        (dataProgram threads.state.fork (chunk :: chunks) ++ later) = started := by
      rw [← sends]
      rfl
    have between : among threads.waiting data [] filled later =
        among before pull (after ++ [{ data with call := { data.call with todo := later } }]) filled
          (pullProgram fork start length rest) := by
      rw [among, among, there, ← todo, List.append_assoc]
      rfl
    have takesIn : Run
        (among threads.waiting data [] threads.state
          (dataProgram threads.state.fork (chunk :: chunks) ++ later))
        (among threads.waiting data [] filled later) := Run.allData later (chunk :: chunks) free
    rw [starts, between] at takesIn
    exact takesIn.trans (Run.pull fork start length rest enough)
  · intro locked next runs short
    have pulls : pull ∈ started.waiting := by
      simp [started, there]
    have arrives : Waits started.state.fork chunk
        (dataProgram threads.state.fork chunks ++ later) data data := by
      have first : data.call.todo = .handle (dataMessage started.state.fork chunk) ::
          (dataProgram threads.state.fork chunks ++ later) := sends
      refine Or.inl ?_
      rw [← first]
    have jammed : Jammed started pull length chunk
        (dataProgram threads.state.fork chunks ++ later) data :=
      ⟨pulls, ⟨data, List.mem_append_right _ List.mem_cons_self, arrives⟩, locked, lacking⟩
    exact jammed.run counted runs todo short

/-- A root with nothing in its recording, and a pipe for announcements. -/
def emptyRoot : Context where
  config := {}
  pipe := some 0

/-- Its lock with one reader, who waits for two bytes. -/
def askedRoot : Context := { emptyRoot with lock := { word := 1 } }

def asking : Waiting Strand where
  ticket := 0
  call := { todo := pullProgram 1 0 2 [.answer .done] }

theorem asked_reachable : Reachable { state := askedRoot, waiting := [asking] } := by
  let one : Waiting Strand :=
    { ticket := 0, call := { todo := Program.handleFork (.updateRecording 1 0 2) } }
  let fresh : Threads := { state := emptyRoot, waiting := [] }
  have scripted : emptyRoot.host.Scripted := by
    intro script member
    cases member
  have begins : Moves fresh { state := emptyRoot, waiting := [one] } :=
    .begins one (by decide) (by decide)
  have asked := @Run.asked [] [] one emptyRoot rfl 1 0 2 [.answer .done] rfl
  exact ⟨fresh, ⟨rfl, scripted, rfl⟩, (Relation.ReflTransGen.single begins).trans asked⟩

def twoBytes : Chunk where
  offset := 0
  data := [1, 2]

theorem fill_twoBytes : fill {} [twoBytes] = { contents := [1, 2] } := by
  have merged : Recording.incorporate [] twoBytes = some [1, 2] := rfl
  change ((Recording.addChunk {} twoBytes).2) = _
  rw [Recording.addChunk, merged]
  have nothing : Recording.settle [1, 2] [] = Recording.retry [1, 2] [] :=
    Recording.settle_of_idle (Nat.lt_irrefl 0)
  dsimp only
  rw [nothing]
  rfl

def arriving : Waiting Strand where
  ticket := 1
  call := { todo := Program.handle (dataMessage 0 twoBytes) }

theorem pull_of_two_bytes_released :
    ∃ next : Threads, next.state.recording.contents = [1, 2] ∧ next.state.lock = {} ∧
      Run { state := askedRoot, waiting := [asking, arriving] } next := by
  have there : [asking] = [] ++ asking :: [] := rfl
  have sends : arriving.call.todo =
      dataProgram askedRoot.fork [twoBytes] ++ [.answer .done] := rfl
  have enough : (2 : UInt64).toNat ≤ (fill {} [twoBytes]).length := by
    rw [fill_twoBytes]
    decide
  have released := (pull_released_unless_claimed asked_reachable there rfl (by decide) sends
    (by decide) (by decide) enough).2.1 rfl
  exact ⟨_, congrArg Recording.contents fill_twoBytes, rfl, released⟩

/-- Threads none of which can go on stay as they are. -/
theorem no_step_of_stuck {move : Strand → Context → Option (Move Context Strand Reply)}
    {threads next : Threads}
    (stuck : ∀ one ∈ threads.waiting, move one.call threads.state = none) :
    ¬ Crew.Step move threads next := by
  intro step
  cases step with
  | goesOn taken _ | answers taken _ =>
    rw [stuck _ (List.mem_append_right _ List.mem_cons_self)] at taken
    cases taken

/-- The lock of a root that was asked for two bytes and is about to duplicate its process. -/
def claimedRoot : Context := { emptyRoot with lock := { word := LockWord.writerBit + 1 } }

def duplicating : Waiting Strand where
  ticket := 1
  call := { todo := [.awaitDrained, .outside (.duplicate 5 false)] }

/-- The bytes for the fork, which have not come past the lock. -/
def shutOut : Waiting Strand where
  ticket := 2
  call := { todo := guarded (dataMessage 0 twoBytes) [.answer .done] }

theorem pull_jams :
    let jam : Threads := { state := claimedRoot, waiting := [asking, duplicating, shutOut] }
    jam.Reachable ∧
      (2 : UInt64).toNat ≤
        (fill claimedRoot.recording [twoBytes]).length ∧
      ∀ (world : World) (disk : Disk) (next : Threads),
        ¬ Crew.Step (Strand.move world disk) jam next := by
  intro jam
  let writer : Waiting Strand := { ticket := 1, call := { todo := [.performFork 5 false] } }
  let data : Waiting Strand :=
    { ticket := 2
      call := { todo := Program.handle (dataMessage 0 twoBytes) } }
  refine ⟨?_, ?_, ?_⟩
  · obtain ⟨fresh, origin, asked⟩ := asked_reachable
    have writes : Run { state := askedRoot, waiting := [asking, writer] }
        { state := claimedRoot, waiting := [asking, duplicating] } :=
      (@Run.single [asking] [] writer askedRoot _ _ _ [] _ _ rfl).trans
        (@Run.single [asking] [] writer askedRoot claimedRoot .claimWrite [] duplicating.call.todo
          _ _ rfl)
    have sees : Run { state := claimedRoot, waiting := [asking, duplicating, data] } jam :=
      @Run.single [asking, duplicating] [] data claimedRoot claimedRoot
        (.handle (dataMessage 0 twoBytes))
        [.enterRead, .dispatch (dataMessage 0 twoBytes), .leaveRead] [.answer .done] _ _
        (congrArg some (handle_data claimedRoot twoBytes))
    have first : Moves { state := askedRoot, waiting := [asking] }
        { state := askedRoot, waiting := [asking, writer] } :=
      .begins writer (by decide) (by decide)
    have second : Moves { state := claimedRoot, waiting := [asking, duplicating] }
        { state := claimedRoot, waiting := [asking, duplicating, data] } :=
      .begins data (by decide) (by decide)
    exact ⟨fresh, origin, (((asked.tail first).trans writes).tail second).trans sees⟩
  · change (2 : UInt64).toNat ≤ (fill {} [twoBytes]).length
    rw [fill_twoBytes]
    decide
  · intro world disk next
    apply no_step_of_stuck
    have waits : asking.call.move world disk claimedRoot = none :=
      pull_move_eq_none rfl (by decide)
    have drains : duplicating.call.move world disk claimedRoot = none := rfl
    have enters : shutOut.call.move world disk claimedRoot = none := rfl
    simp only [jam, List.forall_mem_cons, waits, drains, enters, true_and]
    exact List.forall_mem_nil _

end Threads

end Playback
