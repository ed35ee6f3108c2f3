import Playback.Proofs.Outputs.Rest

set_option autoImplicit false

namespace Playback

namespace Tree

variable {story later last : Story}

/-- Since a story, the root has handled the request of a fork for an output. -/
structure Handles (story later : Story) (id : CallId) (before : List Act) (act : Act)
    (fork : UInt32) (input : Bytes) : Prop where
  split : ∃ behind, later.acts = before ++ act :: behind
  since : story.acts.length ≤ before.length
  root : act.fork = rootFork
  action : act.action = .dispatchFork (.externalCallRequest fork id.number input)

/-- The request that a fork had sent last, and the thread that had sent it. -/
def asking? (fork : UInt32) (before : List Act) : Option (Nat × Message) :=
  (requests fork before).getLast?

/-- What comes of an output that the root knows. -/
structure Spreads (story later : Story) (id : CallId) (output : Bytes) : Prop where
  /-- The root remembers it, whatever else it is told. -/
  stays : later.tree.output? rootFork id = some output
  /-- The thread that handles a request sends one answer, with this output, to the fork. -/
  answers : ∀ (before : List Act) (act : Act) (fork : UInt32) (input : Bytes),
    Handles story later id before act fork input →
    did act.thread later.acts <+: serving (.externalCallRequest fork id.number input)
        (.externalCallResponse fork id.number output) ∧
      (later.tree.Returned act.thread →
        did act.thread later.acts = serving (.externalCallRequest fork id.number input)
          (.externalCallResponse fork id.number output))
  /-- The request that is handled is the one that the fork had sent last, and all others are
  answered. Whoever had sent it began with the call. -/
  asked : ∀ (before : List Act) (act : Act) (fork : UInt32) (input : Bytes),
    Handles story later id before act fork input →
    (requests fork before).map Prod.snd = answered fork (before ++ [act]) ∧
    ∃ asker rest, asking? fork before =
        some (asker, .externalCallRequest fork id.number input) ∧
      later.begun[asker]? = some (.lookupCall id input :: rest)
  /-- If the answer has a frame, whoever had asked returns the output, and neither performs the call
  nor publishes an output of its own. -/
  returns : ∀ (before : List Act) (act : Act) (fork : UInt32) (input : Bytes),
    Handles story later id before act fork input →
    (Message.externalCallResponse fork id.number output).Framed →
    ∀ (asker : Nat) (request : Message), asking? fork before = some (asker, request) →
      ∀ performed, later.begun[asker]? = some (Program.externalCall id input performed) →
        did asker later.acts <+: getting fork id input performed output ∧
        ∀ one, later.tree.threads[asker]? = some one → one.2.todo = [] →
          did asker later.acts = getting fork id input performed output ∧
            one.2.value = .performed output none
  /-- If the answer has no frame, whoever had asked waits for ever. -/
  waits : ∀ (before : List Act) (act : Act) (fork : UInt32) (input : Bytes),
    Handles story later id before act fork input →
    ¬(Message.externalCallResponse fork id.number output).Framed →
    ∀ (asker : Nat) (request : Message), asking? fork before = some (asker, request) →
      ∀ last, Relation.ReflTransGen Story.Follows later last → ¬last.tree.Returned asker
  /-- No message of a fork comes to the middleman. -/
  upstream : ∀ message ∈ later.tree.up rootFork, message.fork = rootFork
  /-- Without new calls the tree comes to rest, and then whoever was served has returned, and
  whoever had asked has returned with this output if the answer has a frame. -/
  rests : (∃ count last, Drains count later last ∧ last.Drained) ∧
    ∀ count last, Drains count later last → count ≤ later.tree.work expense ∧
      (last.tree.Connected → last.Drained → ∀ (before : List Act) (act : Act) (fork : UInt32)
        (input : Bytes), Handles story later id before act fork input →
        last.tree.Returned act.thread ∧
        ((Message.externalCallResponse fork id.number output).Framed →
          ∀ (asker : Nat) (request : Message), asking? fork before = some (asker, request) →
            ∀ performed, later.begun[asker]? = some (Program.externalCall id input performed) →
              ∃ one, last.tree.threads[asker]? = some one ∧ one.2.todo = [] ∧
                one.2.value = .performed output none))

section
variable {id : CallId} {output input : Bytes} {before : List Act} {act : Act} {fork : UInt32}

/-- A request that is handled since the output is known is served with it. -/
theorem Story.Uses.serves (uses : story.Uses)
    (run : Relation.ReflTransGen Story.Follows story later)
    (known : story.tree.output? rootFork id = some output)
    (handles : Handles story later id before act fork input) :
    ∃ middle next : Story, middle.acts = before ∧ next.Uses ∧
      Relation.ReflTransGen Story.Follows next later ∧ next.acts = before ++ [act] ∧
      Serves middle next act fork id input output := by
  obtain ⟨behind, split⟩ := handles.split
  obtain ⟨middle, next, first, follows, rest, rfl, does⟩ := uses.splits run split handles.since
  have answers : act.answers? fork = some (.externalCallRequest fork id.number input) := by
    rw [Act.answers?, if_pos handles.root, handles.action]
    exact if_pos ⟨rfl, rfl⟩
  have between := uses.run first
  exact ⟨middle, next, rfl, between.turn follows, rest, does,
    between.asking.serving follows does answers (uses.remembers first known)⟩

/-- The errand of whoever had asked is out, and its answer is what the root knows. -/
theorem Story.Uses.asker (uses : story.Uses)
    (run : Relation.ReflTransGen Story.Follows story later)
    (known : story.tree.output? rootFork id = some output)
    (handles : Handles story later id before act fork input) :
    fork ≠ rootFork ∧ ∃ (next : Story) (asker : Nat) (strand : Strand) (rest : Program),
      next.Uses ∧ Relation.ReflTransGen Story.Follows next later ∧
      asking? fork before = some (asker, .externalCallRequest fork id.number input) ∧
      later.begun[asker]? = some (.lookupCall id input :: rest) ∧
      Out next fork asker id (.answer (.externalCallResponse fork id.number output)) ∧
      next.tree.threads[asker]? = some (fork, strand) ∧ strand.todo = .takeCall id :: rest ∧
      did asker next.acts =
        [.lookupCall id input, .claimCall (.externalCallRequest fork id.number input)] := by
  obtain ⟨middle, next, rfl, after, rest, does, serves⟩ := uses.serves run known handles
  obtain ⟨asker, last, out⟩ := serves.out
  have asked : (asker, .externalCallRequest fork id.number input) ∈ requests fork next.acts := by
    rw [does, requests, List.filterMap_append]
    exact List.mem_append_left _ (List.mem_of_getLast? last)
  obtain ⟨strand, left, there, todo, began, past⟩ := out.began after.asking asked
  exact ⟨serves.other, next, asker, strand, left, after, rest, last, after.begun_of rest began,
    out, there, todo, past⟩

/-- Whoever had asked gets the output, if the answer has a frame. -/
theorem Story.Uses.gets (uses : story.Uses)
    (run : Relation.ReflTransGen Story.Follows story later)
    (known : story.tree.output? rootFork id = some output)
    (handles : Handles story later id before act fork input)
    (framed : (Message.externalCallResponse fork id.number output).Framed) {asker : Nat}
    {request : Message} (asked : asking? fork before = some (asker, request)) {performed : Bytes}
    (began : later.begun[asker]? = some (Program.externalCall id input performed)) :
    Getting later fork asker id input performed output := by
  obtain ⟨other, next, one, strand, left, after, rest, last, first, out, there, todo, past⟩ :=
    uses.asker run known handles
  rw [last] at asked
  cases asked
  rw [first] at began
  have performs := (List.cons.inj (Option.some.inj began)).2
  refine after.getting rest other framed ⟨strand, there, ?_⟩
  rw [past, todo, performs]
  exact .awaits (Or.inl out) _

/-- Whoever had asked waits, if the answer has no frame. -/
theorem Story.Uses.waits (uses : story.Uses)
    (run : Relation.ReflTransGen Story.Follows story later)
    (known : story.tree.output? rootFork id = some output)
    (handles : Handles story later id before act fork input)
    (large : ¬(Message.externalCallResponse fork id.number output).Framed) {asker : Nat}
    {request : Message} (asked : asking? fork before = some (asker, request))
    (further : Relation.ReflTransGen Story.Follows later last) : ¬last.tree.Returned asker := by
  obtain ⟨other, next, one, -, -, after, rest, sent, -, out, -⟩ := uses.asker run known handles
  rw [sent] at asked
  cases asked
  exact (after.denied (rest.trans further) other large (Or.inl out)).not_returned

end

/-- Whatever is known at the root spreads through its tree, as far as channels carry it. -/
theorem known_outputs_spread (uses : story.Uses)
    (run : Relation.ReflTransGen Story.Follows story later) {id : CallId} {output : Bytes}
    (known : story.tree.output? rootFork id = some output) : Spreads story later id output := by
  have laterUses := uses.run run
  have asking := laterUses.asking
  constructor
  case stays => exact uses.remembers run known
  case answers =>
    intro before act fork input handles
    obtain ⟨middle, next, rfl, after, rest, -, serves⟩ := uses.serves run known handles
    obtain ⟨one, there, all, -⟩ := after.finishes rest serves.finishes
    refine ⟨⟨_, all⟩, ?_⟩
    rintro ⟨same, at_, done⟩
    rw [there] at at_
    cases at_
    rw [← all, done, List.append_nil]
  case asked =>
    intro before act fork input handles
    obtain ⟨-, -, asker, -, rest, -, -, last, began, -⟩ := uses.asker run known handles
    obtain ⟨middle, next, rfl, -, -, -, serves⟩ := uses.serves run known handles
    exact ⟨serves.order, asker, rest, last, began⟩
  case returns =>
    exact fun before act fork input handles framed asker request asked performed began =>
      (uses.gets run known handles framed asked began).gets
  case waits =>
    exact fun before act fork input handles large asker request asked last further =>
      uses.waits run known handles large asked further
  case upstream => exact fun message there => (asking.ups rootFork message there).fork
  case rests =>
    refine ⟨asking.comesToRest, fun count last drains => ?_⟩
    refine ⟨(Nat.le_add_right _ _).trans (asking.drains drains), ?_⟩
    intro connected drained before act fork input handles
    have rested := (laterUses.run drains.run).asking
    obtain ⟨middle, next, rfl, after, rest, -, serves⟩ := uses.serves run known handles
    have finishes := after.finishes (rest.trans drains.run) serves.finishes
    refine ⟨finishes.returned rested connected drained, ?_⟩
    intro framed asker request asked performed began
    have gets := uses.gets run known handles framed asked began
    have getting := laterUses.getting drains.run serves.other framed gets
    obtain ⟨one, there, done⟩ := getting.returned rested serves.other connected drained
    exact ⟨one, there, done, (getting.gets.2 one there done).2⟩

/-! A story that can be played -/

theorem follows_play {turns : List Turn} (allowed : ∀ turn ∈ turns, OutputTurn turn)
    (played : story.play turns = some later) : Relation.ReflTransGen Story.Follows story later := by
  induction turns generalizing story with
  | nil =>
    cases played
    exact .refl
  | cons turn turns ih =>
    obtain ⟨next, taken, rest⟩ := Option.bind_eq_some_iff.mp played
    obtain ⟨first, others⟩ := List.forall_mem_cons.mp allowed
    exact .head ⟨turn, first, taken⟩ (ih others rest)

/-- A root that is not told anything yet. -/
def soleRoot : Tree := ofRoot { config := {}, channel := some upstream }

theorem soleRoot_atRest : soleRoot.AtRest := by
  have only (fork : UInt32) (context : Context) (here : soleRoot.members fork = some context) :
      fork = rootFork ∧ context = { config := {}, channel := some upstream } := by
    by_cases root : fork = rootFork
    · subst root
      cases here
      exact ⟨rfl, rfl⟩
    · change Function.update (fun _ => none) rootFork (some _) fork = some context at here
      rw [Function.update_of_ne root] at here
      cases here
  refine ⟨⟨_, rfl, rfl, nofun⟩, ?_, ?_, rfl, fun _ => rfl, fun _ => rfl⟩
  · intro fork context here
    obtain ⟨rfl, rfl⟩ := only fork context here
    exact ⟨rfl, rfl⟩
  · intro fork context other here
    exact absurd (only fork context here).1 other

theorem nonzero_one : (1 : UInt64) ≠ 0 := by decide

def clockCall : CallId where
  number := 1
  nonzero := nonzero_one

/-- A fork joins, and then the root performs a call. -/
def learning : List Turn :=
  joins 1 11 0 ++ (.begin rootFork false [.publishCall clockCall [1]] :: acts 1 2)

/-- The fork asks for the output of that call, and while its request is on its way the root is told
another one. -/
def calling : List Turn :=
  asks 1 clockCall [2] 2 ++
    (.begin rootFork false
      (Program.handle (.externalCallResponse rootFork clockCall.number [3])) :: acts 3 5) ++
    (.attend 1 :: acts 4 6) ++ (.hear 1 :: acts 5 5) ++ acts 2 3

theorem outputTurn_acts (thread count : Nat) : ∀ turn ∈ acts thread count, OutputTurn turn := by
  intro turn there
  rw [List.eq_of_mem_replicate there]
  exact .act thread

theorem outputTurn_learning : ∀ turn ∈ learning, OutputTurn turn := by
  have other : (1 : UInt32) ≠ rootFork := by decide
  simp only [learning, joins, List.forall_mem_append, List.forall_mem_cons]
  exact ⟨⟨.duplicate rootFork 1, .begin false (.register 11 other), outputTurn_acts 0 3⟩,
    .begin false (.call rootFork (.publish clockCall [1])), outputTurn_acts 1 2⟩

theorem outputTurn_calling : ∀ turn ∈ calling, OutputTurn turn := by
  simp only [calling, asks, List.forall_mem_append, List.forall_mem_cons]
  exact ⟨⟨⟨⟨⟨.begin false (.call 1 (.call clockCall [] [2])), outputTurn_acts 2 2⟩,
    .begin false (.told ⟨clockCall, .available [3]⟩), outputTurn_acts 3 5⟩,
    .attend 1, outputTurn_acts 4 6⟩, .hear 1, outputTurn_acts 5 5⟩, outputTurn_acts 2 3⟩

theorem learning_plays : (({ tree := soleRoot } : Story).play learning).isSome = true := by
  decide +kernel

/-- The root knows an output. -/
def knowing : Story := (({ tree := soleRoot } : Story).play learning).get learning_plays

theorem calling_plays : (knowing.play calling).isSome = true := by decide +kernel

/-- The fork has asked for it. -/
def called : Story := (knowing.play calling).get calling_plays

/-- The call with which a program begins. -/
def performing? : Program → Option (CallId × Bytes × Bytes)
  | [.lookupCall id input, .performUnlessKnown again same performed] =>
    if again = id ∧ same = input then some (id, input, performed) else none
  | _ => none

theorem begins_externalCall {thread : Nat} {id : CallId} {input performed : Bytes}
    (began : (later.begun[thread]?).bind performing? = some (id, input, performed)) :
    later.begun[thread]? = some (Program.externalCall id input performed) := by
  obtain ⟨program, there, performs⟩ := Option.bind_eq_some_iff.mp began
  rw [there]
  unfold performing? at performs
  split at performs
  case h_1 =>
    obtain ⟨⟨rfl, rfl⟩, same⟩ := Option.ite_none_right_eq_some.mp performs
    cases same
    rfl
  case h_2 => cases performs

/-- The act at a place of a story handles a request. -/
theorem handles_at {place : Nat} {id : CallId} {fork : UInt32} {input : Bytes}
    (since : story.acts.length ≤ place)
    (serves : (later.acts[place]?).bind (Act.answers? fork) =
      some (.externalCallRequest fork id.number input)) :
    ∃ act, Handles story later id (later.acts.take place) act fork input := by
  obtain ⟨act, there, answers⟩ := Option.bind_eq_some_iff.mp serves
  obtain ⟨root, action, -, -⟩ := Act.answers?_eq_some answers
  obtain ⟨inside, same⟩ := List.getElem?_eq_some_iff.mp there
  have split : later.acts = later.acts.take place ++ act :: later.acts.drop (place + 1) := by
    rw [← same, List.getElem_cons_drop inside, List.take_append_drop]
  refine ⟨act, ⟨_, split⟩, ?_, root, action⟩
  rwa [List.length_take_of_le inside.le]

/-- The fork returns what the root had known, and not what it would have performed. -/
theorem fork_returns_what_root_knows :
    knowing.Uses ∧ Relation.ReflTransGen Story.Follows knowing called ∧
      knowing.tree.output? rootFork clockCall = some [1] ∧
      did 2 called.acts = getting 1 clockCall [] [2] [1] ∧
      ∃ one, called.tree.threads[2]? = some one ∧ one.2.value = .performed [1] none := by
  have known : knowing.tree.output? rootFork clockCall = some [1] := by decide +kernel
  have start : ({ tree := soleRoot } : Story).Uses := .begins soleRoot_atRest
  have uses := start.run (follows_play outputTurn_learning (Option.some_get learning_plays).symm)
  have run := follows_play outputTurn_calling (Option.some_get calling_plays).symm
  have few : knowing.acts.length ≤ 14 := by decide +kernel
  obtain ⟨act, handles⟩ : ∃ act,
      Handles knowing called clockCall (called.acts.take 14) act 1 [] :=
    handles_at few (by decide +kernel)
  have second : (asking? 1 (called.acts.take 14)).map Prod.fst = some 2 := by decide +kernel
  obtain ⟨⟨asker, request⟩, asked, same⟩ := Option.map_eq_some_iff.mp second
  cases same
  have began : called.begun[2]? = some (Program.externalCall clockCall [] [2]) :=
    begins_externalCall (by decide +kernel)
  have done : (called.tree.threads[2]?).map (fun one => one.2.todo.length) = some 0 := by
    decide +kernel
  obtain ⟨one, here, nothing⟩ := Option.map_eq_some_iff.mp done
  obtain ⟨-, gets⟩ := (known_outputs_spread uses run known).returns _ act 1 [] handles
    (by decide) 2 request asked [2] began
  obtain ⟨all, value⟩ := gets one here (List.length_eq_zero_iff.mp nothing)
  exact ⟨uses, run, known, all, one, here, value⟩

/-! An output that no channel carries -/

/-- A fork joins, and the root keeps an output that it is about to publish. -/
def keeping (output : Bytes) : List Turn :=
  joins 1 11 0 ++ [.begin rootFork false [.publishCall clockCall output], .act 1]

/-- The fork asks for that output, and the root looks it up. -/
def lookingUp : List Turn := asks 1 clockCall [2] 2 ++ (.attend 1 :: acts 3 3)

theorem outputTurn_keeping (output : Bytes) : ∀ turn ∈ keeping output, OutputTurn turn := by
  have other : (1 : UInt32) ≠ rootFork := by decide
  simp only [keeping, joins, List.forall_mem_append, List.forall_mem_cons]
  exact ⟨⟨.duplicate rootFork 1, .begin false (.register 11 other), outputTurn_acts 0 3⟩,
    .begin false (.call rootFork (.publish clockCall output)), .act 1, nofun⟩

theorem outputTurn_lookingUp : ∀ turn ∈ lookingUp, OutputTurn turn := by
  simp only [lookingUp, asks, List.forall_mem_append, List.forall_mem_cons]
  exact ⟨⟨.begin false (.call 1 (.call clockCall [] [2])), outputTurn_acts 2 2⟩,
    .attend 1, outputTurn_acts 3 3⟩

theorem lookingUp_plays (output : Bytes) :
    (({ tree := soleRoot } : Story).play (keeping output)).bind (fun story =>
      (story.play lookingUp).map fun later =>
        (story.tree.output? rootFork clockCall, story.acts.length,
          (later.begun[2]?).bind performing?, (later.acts[8]?).bind (Act.answers? 1),
          asking? 1 (later.acts.take 8))) =
      some (some output, 4, some (clockCall, [], [2]),
        some (.externalCallRequest 1 clockCall.number []),
        some (2, .externalCallRequest 1 clockCall.number [])) := by
  with_unfolding_all rfl

/-- A root publishes an output of four gigabytes and handles the request of a fork for it, and the
fork never returns from its call. -/
theorem large_output_never_returned : ∃ (story later : Story) (before : List Act) (act : Act),
    Relation.ReflTransGen Story.Follows { tree := soleRoot } story ∧
      Relation.ReflTransGen Story.Follows story later ∧
      story.tree.output? rootFork clockCall = some (List.replicate UInt32.size 0) ∧
      Handles story later clockCall before act 1 [] ∧
      asking? 1 before = some (2, .externalCallRequest 1 clockCall.number []) ∧
      later.begun[2]? = some (Program.externalCall clockCall [] [2]) ∧
      ∀ last, Relation.ReflTransGen Story.Follows later last → ¬last.tree.Returned 2 := by
  have large : ¬(Message.externalCallResponse 1 clockCall.number
      (List.replicate UInt32.size 0)).Framed :=
    Message.not_framed_of_binary rfl (@List.length_replicate UInt8 UInt32.size 0).ge
  generalize List.replicate UInt32.size (0 : UInt8) = output at large ⊢
  obtain ⟨story, kept, found⟩ := Option.bind_eq_some_iff.mp (lookingUp_plays output)
  obtain ⟨later, ran, found⟩ := Option.map_eq_some_iff.mp found
  simp only [Prod.mk.injEq] at found
  obtain ⟨known, few, begun, serves, asked⟩ := found
  have start := follows_play (outputTurn_keeping output) kept
  have run := follows_play outputTurn_lookingUp ran
  have uses : story.Uses := Story.Uses.run (.begins soleRoot_atRest) start
  obtain ⟨act, handles⟩ := handles_at (few.trans_le (by decide)) serves
  have began := begins_externalCall begun
  exact ⟨story, later, later.acts.take 8, act, start, run, known, handles, asked, began,
    fun last further => uses.waits run known handles large asked further⟩

end Tree

end Playback
