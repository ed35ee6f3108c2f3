import Playback.Proofs.Tree.Story

set_option autoImplicit false

/- A fork that asks its root for what it lacks follows the recording of the root. Every request and
every answer on its way begins where the recording of the fork has already been, and both recordings
only get longer, so no answer comes too early and none brings anything but what the root has. -/
namespace Playback

/-- A chunk that starts at or before the end of a recording finds its place, and if nothing was
deferred nothing is. -/
theorem Recording.addChunk_reached {recording : Recording} (nothing : recording.deferred = [])
    {chunk : Chunk} (reached : chunk.offset.toNat ≤ recording.contents.length) :
    ((recording.addChunk chunk).2.deferred = []) ∧
      incorporate recording.contents chunk = some (recording.addChunk chunk).2.contents := by
  have merged := incorporate_of_le reached
  rw [addChunk_merged merged, nothing]
  simp [settle, retry, merged]

namespace Tree

variable {tree : Tree}

/-! What a tree remembers of a recording -/

theorem recorded_of_member {fork : UInt32} {context : Context}
    (here : tree.members fork = some context) :
    tree.recorded fork = context.recording.contents := by
  rw [recorded, here]
  rfl

theorem recorded_setMember (fork : UInt32) (context : Context) (other : UInt32) :
    (tree.setMember fork context).recorded other =
      if other = fork then context.recording.contents else tree.recorded other := by
  unfold recorded
  rw [members_setMember]
  split <;> rfl

theorem grows_setMember {fork : UInt32} {context changed : Context}
    (here : tree.members fork = some context)
    (longer : context.recording.contents <+: changed.recording.contents) :
    Grows tree.recorded (tree.setMember fork changed).recorded := by
  intro other
  rw [recorded_setMember]
  split
  case isTrue same =>
    rw [same, recorded_of_member here]
    exact longer
  case isFalse _ => exact List.prefix_rfl

/-- The table of the root leads to its forks, and holds answers for them. -/
structure Carries (known : UInt32 → Bytes) (table : ForkTable Nat) : Prop where
  handles : ∀ fork process, table.process? fork = some process → process.handle = fork.toNat
  pending : ∀ message ∈ table.pending, message.fork ≠ rootFork ∧ Feed known message.fork message

/-- The processes of a tree and what is on its way between them. -/
structure Fed (tree : Tree) : Prop where
  root : ∃ root, tree.members rootFork = some root ∧ Carries tree.recorded root.forks
  own : ∀ fork context, tree.members fork = some context →
    context.fork = fork ∧ (fork ≠ rootFork → context.channel = some upstream)
  follows : ∀ fork context, fork ≠ rootFork → tree.members fork = some context →
    context.recording.contents <+: tree.recorded rootFork ∧ context.recording.deferred = []
  ups : ∀ fork, ∀ message ∈ tree.up fork, fork ≠ rootFork ∧ Request tree.recorded fork message
  downs : ∀ fork, ∀ message ∈ tree.down fork, Feed tree.recorded fork message

theorem Carries.grows {before after : UInt32 → Bytes} (grows : Grows before after)
    {table : ForkTable Nat} (carries : Carries before table) : Carries after table where
  handles := carries.handles
  pending := fun message there =>
    (carries.pending message there).imp_right fun feed => feed.grows grows

theorem Fed.carries (fed : Fed tree) {root : Context}
    (here : tree.members rootFork = some root) : Carries tree.recorded root.forks := by
  obtain ⟨one, there, carries⟩ := fed.root
  rw [here] at there
  cases there
  exact carries

/-- A process has changed. Its recording has at most grown, that of a fork within that of the
root. -/
theorem Fed.setMember (fed : Fed tree) {fork : UInt32} {context changed : Context}
    (here : tree.members fork = some context) (same : changed.fork = context.fork)
    (channel : changed.channel = context.channel)
    (longer : context.recording.contents <+: changed.recording.contents)
    (follows : fork ≠ rootFork →
      changed.recording.contents <+: tree.recorded rootFork ∧ changed.recording.deferred = [])
    (carries : fork = rootFork → Carries tree.recorded changed.forks) :
    Fed (tree.setMember fork changed) := by
  have grows := grows_setMember here longer
  constructor
  case root =>
    obtain ⟨root, there, table⟩ := fed.root
    by_cases top : fork = rootFork
    · refine ⟨changed, ?_, (carries top).grows grows⟩
      rw [members_setMember, if_pos top.symm]
    · refine ⟨root, ?_, table.grows grows⟩
      rw [members_setMember, if_neg (Ne.symm top)]
      exact there
  case own =>
    intro other one there
    rw [members_setMember] at there
    split at there
    case isTrue equal =>
      cases there
      rw [same, channel, equal]
      exact fed.own fork context here
    case isFalse _ => exact fed.own other one there
  case follows =>
    intro other one apart there
    rw [members_setMember] at there
    have later (bytes : Bytes) (part : bytes <+: tree.recorded rootFork) :
        bytes <+: (tree.setMember fork changed).recorded rootFork := part.trans (grows rootFork)
    split at there
    case isTrue equal =>
      cases there
      exact (follows (equal ▸ apart)).imp_left (later _)
    case isFalse _ => exact (fed.follows other one apart there).imp_left (later _)
  case ups =>
    exact fun other message there => (fed.ups other message there).imp_right (·.grows grows)
  case downs =>
    exact fun other message there => (fed.downs other message there).grows grows

theorem Fed.setUp (fed : Fed tree) {fork : UInt32} {messages : List Message}
    (requests : ∀ message ∈ messages, fork ≠ rootFork ∧ Request tree.recorded fork message) :
    Fed (tree.setUp fork messages) where
  root := fed.root
  own := fed.own
  follows := fed.follows
  ups := by
    intro other message there
    rw [up_setUp] at there
    split at there
    case isTrue same => exact same ▸ requests message there
    case isFalse _ => exact fed.ups other message there
  downs := fed.downs

theorem Fed.setDown (fed : Fed tree) {fork : UInt32} {messages : List Message}
    (feeds : ∀ message ∈ messages, Feed tree.recorded fork message) :
    Fed (tree.setDown fork messages) where
  root := fed.root
  own := fed.own
  follows := fed.follows
  ups := fed.ups
  downs := by
    intro other message there
    rw [down_setDown] at there
    split at there
    case isTrue same => exact same ▸ feeds message there
    case isFalse _ => exact fed.downs other message there

/-- Threads have nothing to do with it. -/
theorem Fed.setThreads (fed : Fed tree) (threads : List (UInt32 × Strand)) :
    Fed { tree with threads } := ⟨fed.root, fed.own, fed.follows, fed.ups, fed.downs⟩

/-! What an action does -/

/-- What becomes of a tree and of the place of a thread with the outcome of an action. -/
structure Stepped (tree : Tree) (fork : UInt32) (program : Program) (action : Action)
    (rest : Program) (outcome : Outcome) : Prop where
  fed : ∀ index strand, Fed (tree.follow index fork strand rest outcome)
  longer : tree.recorded fork <+: outcome.context.recording.contents
  place : Place (tree.setMember fork outcome.context).recorded fork program (outcome.next ++ rest)
  heard : fork ≠ rootFork → ∀ target start data,
    takenIn? action = some (.recordingData target start data) →
    start.toNat + data.length ≤ outcome.context.recording.contents.length

section

variable {fork : UInt32} {context : Context} {program rest : Program} {action : Action}
  {outcome : Outcome}

theorem recorded_setMember_self {changed : Context} (here : tree.members fork = some context)
    (same : changed.recording = context.recording) :
    (tree.setMember fork changed).recorded = tree.recorded := by
  funext other
  rw [recorded_setMember, same]
  split
  case isTrue equal => rw [equal, recorded_of_member here]
  case isFalse _ => rfl

/-- A process whose recording and forks stay. -/
theorem Fed.setOther (fed : Fed tree) {changed : Context}
    (here : tree.members fork = some context) (same : changed.fork = context.fork)
    (channel : changed.channel = context.channel) (forks : changed.forks = context.forks)
    (recording : changed.recording = context.recording) : Fed (tree.setMember fork changed) := by
  refine fed.setMember here same channel (recording ▸ List.prefix_rfl) ?_ ?_
  · intro other
    rw [recording]
    exact fed.follows fork context other here
  · rintro rfl
    rw [forks]
    exact fed.carries here

/-- An action that does nothing to recordings and forks, and nothing beyond its process. -/
theorem Fed.still (fed : Fed tree) (here : tree.members fork = some context)
    (same : outcome.context.fork = context.fork)
    (channel : outcome.context.channel = context.channel)
    (forks : outcome.context.forks = context.forks)
    (recording : outcome.context.recording = context.recording) (nothing : outcome.effects = [])
    (place : Place tree.recorded fork program (outcome.next ++ rest))
    (apart : takenIn? action = none) :
    Stepped tree fork program action rest outcome where
  fed := by
    intro index strand
    rw [follow, nothing]
    exact (fed.setOther here same channel forks recording).setThreads _
  longer := by
    rw [recorded_of_member here, recording]
  place := by
    rw [recorded_setMember_self here recording]
    exact place
  heard := fun _ _ _ _ takes => by cases apart.symm.trans takes

/-- A process asks for what it lacks of a length, or has it. -/
theorem ensureLength_cases (context : Context) (length : UInt64) :
    (context.fork ≠ rootFork ∧ ∃ start : UInt64, start.toNat = context.recording.contents.length ∧
      start.toNat < length.toNat ∧ context.ensureLength length =
        context.followedBy [.send (.updateRecording context.fork start length),
          .awaitLength length]) ∨
    context.ensureLength length = context.followedBy [.awaitLength length] := by
  by_cases lacks : (!context.isRoot && context.recording.length < length.toNat) = true
  · obtain ⟨other, less⟩ := Bool.and_eq_true_iff.mp lacks
    have short : context.recording.length < length.toNat := of_decide_eq_true less
    have start : (UInt64.ofNat context.recording.length).toNat = context.recording.length :=
      UInt64.toNat_ofNat_of_lt' (short.trans length.toNat_lt)
    refine Or.inl ⟨?_, _, start, start.trans_lt short, if_pos lacks⟩
    simpa [Context.isRoot] using other
  · exact Or.inr (if_neg lacks)

/-- A process goes on with its recording extended by a message for it. -/
theorem Fed.takes (fed : Fed tree) (here : tree.members fork = some context) {message : Message}
    (feed : Feed tree.recorded fork message) (main : Bool)
    (place : ∀ known, Place known fork program rest) :
    Stepped tree fork program (.dispatch message) rest (context.dispatch main message) := by
  have known := recorded_of_member here
  obtain ⟨offset, data, same⟩ : ∃ offset data, message = .recordingData fork offset data := by
    cases feed <;> exact ⟨_, _, rfl⟩
  subst same
  let chunk : Chunk := { offset, data }
  let changed : Context := { context with recording := (context.recording.addChunk chunk).2 }
  have longer : context.recording.contents <+: changed.recording.contents :=
    context.recording.addChunk_grows chunk
  have follows (other : fork ≠ rootFork) :
      changed.recording.contents <+: tree.recorded rootFork ∧ changed.recording.deferred = [] ∧
        changed.recording.contents.length = max context.recording.contents.length chunk.stop := by
    cases feed with
    | news root => exact absurd root other
    | answer _ reached part =>
      obtain ⟨before, nothing⟩ := fed.follows fork context other here
      rw [known] at reached
      obtain ⟨settled, merged⟩ :=
        @Recording.addChunk_reached context.recording nothing chunk reached
      exact ⟨Recording.incorporate_cut merged before part, settled,
        Recording.length_of_incorporate merged⟩
  constructor
  case fed =>
    intro index strand
    have set : Fed (tree.setMember fork changed) := by
      refine fed.setMember here rfl rfl longer ?_ ?_
      · exact fun other => ⟨(follows other).1, (follows other).2.1⟩
      · rintro rfl
        have carries := fed.carries here
        exact carries
    exact set.setThreads _
  case longer =>
    rw [known]
    exact longer
  case place =>
    exact place _
  case heard =>
    intro other target start bytes same
    cases same
    have reach := (follows other).2.2
    have stop : chunk.stop ≤ changed.recording.contents.length := by omega
    exact stop

/-- The root hands an answer to the fork that it is for, or holds it. -/
theorem Fed.routes (fed : Fed tree) (here : tree.members rootFork = some context)
    {target : UInt32} (other : target ≠ rootFork) {message : Message}
    (feed : Feed tree.recorded target message)
    (place : ∀ known, Place known rootFork program rest)
    (apart : takenIn? action = none) :
    Stepped tree rootFork program action rest (context.route message) := by
  have same : message.fork = target := by cases feed <;> rfl
  have kind : ForkTable.endsProcess message = false := by cases feed <;> rfl
  have recording : (context.route message).context.recording = context.recording := rfl
  constructor
  case fed =>
    intro index strand
    cases present : context.forks.process? message.fork with
    | none =>
      rw [follow, Context.route, ForkTable.route_of_none present]
      have carries := fed.carries here
      have held : Fed (tree.setMember rootFork { context with
          forks := { context.forks with pending := context.forks.pending ++ [message] } }) := by
        refine fed.setMember here rfl rfl List.prefix_rfl (absurd rfl) fun _ => ?_
        refine ⟨carries.handles, fun one there => ?_⟩
        rcases List.mem_append.mp there with before | new
        · exact carries.pending one before
        · rw [List.mem_singleton.mp new, same]
          exact ⟨other, feed⟩
      exact held.setThreads _
    | some process =>
      have handle := (fed.carries here).handles message.fork process present
      rw [same] at handle
      have sends : (context.route message).effects = [.send target.toNat message] := by
        rw [Context.route, ForkTable.route_of_some present, handle]
      have stays : (context.route message).context = context := by
        rw [Context.route, ForkTable.route_of_some present, kind]
        rfl
      rw [follow, sends, stays, setMember_self here]
      change Fed (Tree.post _ rootFork (.send target.toNat message))
      rw [post_toNat other]
      refine (fed.setThreads _).setDown fun one there => ?_
      rcases List.mem_append.mp there with before | new
      · exact fed.downs target one before
      · rw [List.mem_singleton.mp (carried_subset _ new)]
        exact feed
  case longer =>
    rw [recorded_of_member here, recording]
  case place =>
    exact place _
  case heard =>
    exact fun _ _ _ _ takes => by cases apart.symm.trans takes

/-- The root enters a fork into its table and sends it what was held for it. -/
theorem Fed.registers (fed : Fed tree) (here : tree.members rootFork = some context)
    {target : UInt32} (other : target ≠ rootFork) (pid : UInt32)
    (place : ∀ known, Place known rootFork program rest) :
    Stepped tree rootFork program (.register target pid target.toNat) rest
      (context.register target pid target.toNat) := by
  have carries := fed.carries here
  constructor
  case fed =>
    intro index strand
    have effects : (context.register target pid target.toNat).effects =
        (context.forks.pendingFor target).map (Effect.send target.toNat) := by
      rw [Context.register, ForkTable.register_eq]
    rw [follow, effects, foldl_post_toNat other]
    have set : Fed (tree.setMember rootFork
        (context.register target pid target.toNat).context) := by
      refine fed.setMember here rfl rfl List.prefix_rfl (absurd rfl) fun _ => ⟨?_, ?_⟩
      · intro one process present
        change ForkTable.process? (context.forks.register target _).2 one = _ at present
        rw [ForkTable.process?_register] at present
        split at present
        case isTrue equal =>
          cases present
          rw [equal]
        case isFalse _ => exact carries.handles one process present
      · intro message there
        change message ∈ ForkTable.pending (context.forks.register target _).2 at there
        rw [ForkTable.register_eq] at there
        exact carries.pending message (List.mem_of_mem_filter there)
    have grows : Grows tree.recorded (tree.setMember rootFork
        (context.register target pid target.toNat).context).recorded :=
      grows_setMember here List.prefix_rfl
    refine (set.setThreads _).setDown fun message there => ?_
    rcases List.mem_append.mp there with before | held
    · exact set.downs target message before
    · obtain ⟨pending, own⟩ := List.mem_filter.mp (carried_subset _ held)
      have feed := (carries.pending message pending).2
      rw [of_decide_eq_true own] at feed
      exact feed.grows grows
  case longer =>
    rw [recorded_of_member here]
    exact List.prefix_rfl
  case place =>
    exact place _
  case heard =>
    intro _ _ _ _ dispatch
    cases dispatch

/-- What the root has between two places stands there in its recording. -/
theorem range_prefix (recording : Recording) (start stop : UInt64) :
    recording.range start stop <+: recording.contents.drop start.toNat := by
  dsimp only [Recording.range]
  by_cases reached : start.toNat ≤ min stop.toNat recording.length
  · rw [Nat.min_eq_left reached, List.drop_take]
    exact List.take_prefix _ _
  · have past : min stop.toNat recording.length ≤ start.toNat := by omega
    have nothing : ((recording.contents.take (min stop.toNat recording.length)).drop
        (min stop.toNat recording.length)) = [] :=
      List.drop_eq_nil_of_le (List.length_take_le _ _)
    rw [Nat.min_eq_right past, nothing]
    exact List.nil_prefix

theorem length_range {recording : Recording} {start stop : UInt64}
    (order : start.toNat ≤ stop.toNat) (enough : stop.toNat ≤ recording.contents.length) :
    start.toNat + (recording.range start stop).length = stop.toNat := by
  have whole : stop.toNat ≤ recording.length := enough
  dsimp only [Recording.range]
  rw [Nat.min_eq_left whole, Nat.min_eq_left order, List.length_drop,
    List.length_take_of_le enough]
  omega

/-- An action of a thread that stands at one of the known places. -/
theorem Fed.steps (fed : Fed tree) (here : tree.members fork = some context)
    (place : Place tree.recorded fork program (action :: rest)) {main : Bool} {value : Reply}
    (step : context.step main value {} action = some outcome) :
    Stepped tree fork program action rest outcome := by
  obtain ⟨own, channel⟩ := fed.own fork context here
  have known := recorded_of_member here
  cases place with
  | asks length =>
    cases Option.some.inj step
    rcases ensureLength_cases context length with ⟨other, start, same, short, asks⟩ | waits
    · rw [asks]
      refine fed.still here rfl rfl rfl rfl rfl ?_ rfl
      rw [own] at other ⊢
      refine .sends other ?_ short
      rw [known, same]
    · rw [waits]
      exact fed.still here rfl rfl rfl rfl rfl (.waits length) rfl
  | @sends start length other reached short =>
    cases Option.some.inj step
    have effects : (context.send main (.updateRecording fork start length)).effects =
        [.send upstream (.updateRecording fork start length)] := by
      rw [Context.send, Context.sendEffects, channel other]
    constructor
    · intro index strand
      rw [follow, effects, List.foldl_cons, List.foldl_nil, post_upstream]
      change Fed (if _ then ((tree.setMember fork context).setThread index fork _).sendUp fork _
        else (tree.setMember fork context).setThread index fork _)
      rw [setMember_self here]
      split
      case isFalse _ => exact fed.setThreads _
      refine (fed.setThreads _).setUp fun message there => ?_
      rcases List.mem_append.mp there with before | new
      · exact fed.ups fork message before
      · rw [List.mem_singleton.mp new]
        exact ⟨other, .update reached short⟩
    · rw [known]
      exact List.prefix_rfl
    · exact .waits length
    · intro _ _ _ _ dispatch
      cases dispatch
  | waits length =>
    obtain ⟨enough, same⟩ := Option.ite_none_right_eq_some.mp step
    cases same
    refine fed.still here rfl rfl rfl rfl rfl (.returned ?_) rfl
    rw [known]
    exact enough
  | appends root data =>
    cases Option.some.inj step
    subst root
    have carries := fed.carries here
    constructor
    · intro index strand
      have set : Fed (tree.setMember rootFork
          { context with recording := context.recording.append data }) :=
        fed.setMember here rfl rfl (List.prefix_append _ _) (absurd rfl) fun _ => carries
      exact set.setThreads _
    · rw [known]
      exact List.prefix_append _ _
    · exact .ends (fun _ same => by cases same) (List.forall_mem_nil _)
    · intro _ _ _ _ dispatch
      cases dispatch
  | @hears message feed _ quiet =>
    cases Option.some.inj step
    have hears : context.handle message =
        context.followedBy [.enterRead, .dispatch message, .leaveRead] := by
      have same : message.fork = context.fork := by
        rw [own]
        cases feed <;> rfl
      rw [Context.handle, if_pos same]
      cases feed <;> rfl
    rw [hears]
    refine fed.still here rfl rfl rfl rfl rfl (.enters (.takes feed ?_)) rfl
    exact List.forall_mem_cons.mpr ⟨rfl, quiet⟩
  | takes feed quiet =>
    cases Option.some.inj step
    exact fed.takes here feed main fun known => .ends (fun _ same => by cases same) quiet
  | attends root other request quiet =>
    cases Option.some.inj step
    refine fed.still here rfl rfl rfl rfl rfl (.enters (.looks root other request ?_)) rfl
    exact List.forall_mem_cons.mpr ⟨rfl, quiet⟩
  | looks root other request quiet =>
    cases Option.some.inj step
    cases request with
    | update reached short =>
      exact fed.still here rfl rfl rfl rfl rfl
        (.serves root other (.update reached short) quiet) rfl
  | @serves target start stop root other request _ quiet =>
    cases Option.some.inj step
    rcases ensureLength_cases context stop with ⟨apart, -⟩ | waits
    · exact absurd (own.trans root) apart
    · rw [waits]
      exact fed.still here rfl rfl rfl rfl rfl (.lacks root other request quiet) rfl
  | lacks root other request quiet =>
    obtain ⟨enough, same⟩ := Option.ite_none_right_eq_some.mp step
    cases same
    refine fed.still here rfl rfl rfl rfl rfl (.answers root other request ?_ quiet) rfl
    rw [← root, known]
    exact enough
  | @answers target start stop root other request enough _ quiet =>
    cases Option.some.inj step
    subst root
    refine fed.routes here other ?_ (fun known => .ends (fun _ same => by cases same) quiet) rfl
    cases request with
    | update reached short =>
      refine .answer other reached ?_
      rw [known]
      exact range_prefix context.recording start stop
  | @enrolls target pid root other _ quiet =>
    cases Option.some.inj step
    subst root
    exact fed.registers here other pid fun known => .ends (fun _ same => by cases same) quiet
  | enters place =>
    obtain ⟨lock, -, same⟩ := Option.map_eq_some_iff.mp step
    cases same
    exact fed.still here rfl rfl rfl rfl rfl place rfl
  | ends apart quiet =>
    obtain ⟨first, others⟩ := List.forall_mem_cons.mp quiet
    cases action <;> cases first <;>
    · cases Option.some.inj step
      exact fed.still here rfl rfl rfl rfl rfl (.ends apart others) rfl

theorem Place.said {known : UInt32 → Bytes}
    (place : Place known fork program (action :: rest))
    (here : known fork = context.recording.contents) {thread : Nat} {message : Message}
    (passes : Act.message? { thread, fork, context, action } = some message) :
    Said program message := by
  cases place with
  | sends =>
    cases passes
    exact .request fork _ _
  | @answers target start stop root other request enough _ quiet =>
    cases passes
    cases request with
    | update reached short =>
      rw [← root, here] at enough
      exact .answer (length_range (Nat.le_of_lt short) enough)
  | ends apart quiet =>
    obtain ⟨first, -⟩ := List.forall_mem_cons.mp quiet
    cases action <;> cases first <;> cases passes
  | _ => cases passes

/-- Nothing is performed for a call. -/
theorem Place.silent {known : UInt32 → Bytes} {owner : UInt32}
    (place : Place known owner program (action :: rest)) : performed owner action = [] := by
  cases place with
  | ends apart quiet =>
    obtain ⟨first, -⟩ := List.forall_mem_cons.mp quiet
    cases action <;> cases first <;> rfl
  | _ => rfl

/-- A thread has nothing left to do but to wait for a length. -/
def Waits (todo : Program) : Prop := todo = [] ∨ ∃ length, todo = [.awaitLength length]

theorem Place.waits_behind {known : UInt32 → Bytes} {owner : UInt32} {request : Message}
    (place : Place known owner program (.send request :: rest)) : Waits rest := by
  cases place with
  | sends => exact Or.inr ⟨_, rfl⟩
  | ends apart quiet => cases (List.forall_mem_cons.mp quiet).1

theorem Waits.step (waits : Waits (action :: rest)) {main : Bool} {value : Reply}
    (step : context.step main value {} action = some outcome) :
    Waits (outcome.next ++ rest) := by
  rcases waits with none | ⟨length, same⟩
  · cases none
  · cases same
    obtain ⟨-, same⟩ := Option.ite_none_right_eq_some.mp step
    cases same
    exact Or.inl rfl

end

end Tree

end Playback
