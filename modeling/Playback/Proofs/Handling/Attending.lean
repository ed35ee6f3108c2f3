import Playback.Proofs.Handling.Runs

set_option autoImplicit false

namespace Playback

namespace Kind

/-- A root deals itself with messages of these kinds. -/
def isServed : Kind → Bool
  | .updateRecording | .externalCallRequest | .externalCallResponse | .scanData | .sharedKeySet
  | .sharedKeyRequest => true
  | _ => false

/-- The kind of the reply that a message calls for. -/
def reply? : Kind → Option Kind
  | .updateRecording => some .recordingData
  | .externalCallRequest => some .externalCallResponse
  | .sharedKeyRequest => some .sharedKeyResponse
  | _ => none

end Kind

namespace Message

def asks (message : Message) : Bool := message.kind.reply?.isSome

def goesOn (message : Message) : Bool := !message.kind.isServed

/-- The reply goes to the fork that has asked and is of the kind that it waits for. -/
structure Replies (message reply : Message) : Prop where
  kind : message.kind.reply? = some reply.kind
  fork : reply.fork = message.fork

/-- The bytes of a scan. -/
def scan? (message : Message) : Option Bytes :=
  match message.kind, message.payload with
  | .scanData, .binary _ data => some data
  | _, _ => none

/-- The key that is set, and its value. -/
def setting? (message : Message) : Option (String × String) :=
  message.sharedKeyEntry?.map fun (key, value) =>
    (Utf8.decodeLossy key, Utf8.decodeLossy value)

/-- The call of which the output comes in. -/
def output? (message : Message) : Option (CallId × Bytes) :=
  match message.kind, message.payload with
  | .externalCallResponse, .binary tag output =>
    (CallId.ofNumber? tag).map fun id => (id, output)
  | _, _ => none

end Message

namespace Context

/-- What a root knows behind a message of a fork. -/
def learn (context : Context) (message : Message) : Context :=
  { context with
    host := message.scan?.elim context.host fun data => context.host.note (.scan data)
    keys := message.setting?.elim context.keys fun (key, value) => context.keys.set key value
    calls := message.output?.elim context.calls fun (id, output) => context.calls.insert id output }

/-- Other threads have brought more of the recording. -/
def Fills (context changed : Context) : Prop :=
  ∃ recording, context.recording.contents <+: recording.contents ∧
    changed = { context with recording }

/-- What is left to do for a message that asks. -/
inductive Errands (message : Message) : Program → Prop where
  | nothing (quiet : message.asks = false) : Errands message []
  | reply {reply : Message} (replies : message.Replies reply) : Errands message [.route reply]
  | range (start stop : UInt64) (asks : message.kind = .updateRecording) :
      Errands message [.ensureLength stop, .answerRange message.fork start stop]

variable {main : Bool} {disk : Disk} {context last : Context} {value : Reply}
  {message : Message} {effects : List Effect}

theorem callResponse_replies (context : Context) (asks : message.kind = .externalCallRequest)
    (id : Option CallId) : message.Replies (context.callResponse message.fork id) := by
  unfold callResponse
  split
  · exact ⟨by rw [asks]; rfl, rfl⟩
  · exact ⟨by rw [asks]; rfl, rfl⟩

/-- A message of a fork is passed on, teaches the root something, or leaves it a reply to give. -/
theorem dispatchFork_eq (context : Context) (main : Bool) (message : Message) :
    (context.dispatchFork main message).context = context.learn message ∧
      (context.dispatchFork main message).effects =
        (if message.goesOn then context.sendEffects message else []) ∧
      Errands message (context.dispatchFork main message).next ∧
      (context.dispatchFork main message).value = none := by
  obtain ⟨flags, kind, fork, payload, fits⟩ := message
  cases kind <;> cases payload <;> try cases fits
  case updateRecording.updateRecording start stop => exact ⟨rfl, rfl, .range start stop rfl, rfl⟩
  case externalCallRequest.binary tag input =>
    exact ⟨rfl, rfl, .reply (context.callResponse_replies rfl _), rfl⟩
  case externalCallResponse.binary tag output =>
    simp only [dispatchFork, learn, Message.output?]
    cases CallId.ofNumber? tag <;> exact ⟨rfl, rfl, .nothing rfl, rfl⟩
  case sharedKeySet.binary tag data =>
    simp only [dispatchFork, learn, Message.setting?]
    cases Message.sharedKeyEntry? _ <;> exact ⟨rfl, rfl, .nothing rfl, rfl⟩
  case sharedKeyRequest.binary tag key => exact ⟨rfl, rfl, .reply ⟨rfl, rfl⟩, rfl⟩
  all_goals exact ⟨rfl, rfl, .nothing rfl, rfl⟩

theorem Fills.root {changed : Context} (fills : context.Fills changed)
    (root : context.isRoot = true) : changed.isRoot = true := by
  obtain ⟨recording, -, rfl⟩ := fills
  exact root

/-- A root gives the replies that are left for it to give. -/
theorem Errands.run {next rest : Program} (errands : Errands message next)
    (root : context.isRoot = true)
    (run : Runs Fills main disk context value (next ++ rest) effects last) :
    ∃ replies recording more value,
      List.Forall₂ Message.Replies ([message].filter Message.asks) replies ∧
      context.recording.contents <+: recording.contents ∧
      effects = (context.forks.feed replies).1.flatten ++ more ∧
      Runs Fills main disk { context with recording, forks := (context.forks.feed replies).2 } value
        rest more last := by
  cases errands with
  | nothing quiet =>
    refine ⟨[], context.recording, effects, value, ?_, List.prefix_rfl, rfl, run⟩
    rw [List.filter_cons_of_neg (by rw [quiet]; exact Bool.false_ne_true)]
    exact .nil
  | @reply reply replies =>
    obtain ⟨_, _, more, ⟨recording, longer, rfl⟩, taken, rfl, left⟩ := run.of_cons
    cases taken
    have asks : message.asks = true := by rw [Message.asks, replies.kind]; rfl
    refine ⟨[reply], recording, more, value, ?_, longer, ?_, left⟩
    · rw [List.filter_cons_of_pos asks]
      exact .cons replies .nil
    · simp [Context.route_eq, ForkTable.feed]
  | range start stop asks =>
    obtain ⟨_, _, _, ⟨first, longer, rfl⟩, taken, rfl, ensured⟩ := run.of_cons
    have waits : ({ context with recording := first } : Context).ensureLength stop =
        ({ context with recording := first } : Context).followedBy [.awaitLength stop] := by
      have root : ({ context with recording := first } : Context).isRoot = true := root
      simp [ensureLength, root]
    cases taken
    rw [waits] at ensured ⊢
    obtain ⟨_, _, _, ⟨second, more, rfl⟩, taken, rfl, awaited⟩ := ensured.of_cons
    obtain ⟨long, taken⟩ := Option.ite_none_right_eq_some.mp taken
    cases taken
    obtain ⟨_, _, rest, ⟨recording, last, rfl⟩, taken, rfl, left⟩ := awaited.of_cons
    cases taken
    refine ⟨[.recordingData message.fork start (recording.range start stop)], recording, rest,
      value, ?_, (longer.trans more).trans last, ?_, left⟩
    · rw [List.filter_cons_of_pos (by rw [Message.asks, asks]; rfl)]
      exact .cons ⟨by rw [asks]; rfl, rfl⟩ .nil
    · simp [Context.route_eq, ForkTable.feed, followedBy]

/-- The rest of the way, once the message itself has been looked at. -/
theorem Errands.finish {next : Program} (errands : Errands message next)
    (root : context.isRoot = true)
    (run : Runs Fills main disk context value (next ++ [.leaveRead, .answer .done]) effects last) :
    ∃ replies recording,
      List.Forall₂ Message.Replies ([message].filter Message.asks) replies ∧
      context.recording.contents <+: recording.contents ∧
      effects = (context.forks.feed replies).1.flatten ∧
      last = { context with
               lock := context.lock.leave, recording
               forks := (context.forks.feed replies).2 } := by
  obtain ⟨replies, _, _, _, answered, longer, rfl, served⟩ := errands.run root run
  obtain ⟨_, _, _, ⟨_, more, rfl⟩, taken, rfl, left⟩ := served.of_cons
  cases taken
  obtain ⟨_, _, _, ⟨_, further, rfl⟩, taken, rfl, done⟩ := left.of_cons
  cases taken
  obtain ⟨rfl, recording, last, rfl⟩ := done.of_nil
  refine ⟨replies, recording, answered, ?_, ?_, rfl⟩
  · exact longer.trans (more.trans (further.trans last))
  · simp [answering]

/-- What becomes of one message of a fork, once the root has entered the lock for it. -/
theorem attends_inside (root : context.isRoot = true)
    (run : Runs Fills main disk context value [.dispatchFork message, .leaveRead, .answer .done]
      effects last) :
    ∃ replies recording,
      List.Forall₂ Message.Replies ([message].filter Message.asks) replies ∧
      context.recording.contents <+: recording.contents ∧
      effects = (if message.goesOn then context.sendEffects message else []) ++
        (context.forks.feed replies).1.flatten ∧
      last = { context.learn message with
               lock := context.lock.leave, recording
               forks := (context.forks.feed replies).2 } := by
  obtain ⟨_, _, _, ⟨first, longer, rfl⟩, taken, rfl, dispatched⟩ := run.of_cons
  cases taken
  obtain ⟨learned, sent, errands, -⟩ :=
    ({ context with recording := first } : Context).dispatchFork_eq main message
  rw [learned] at dispatched
  obtain ⟨replies, recording, answered, grows, rfl, rfl⟩ :=
    errands.finish (by exact root) dispatched
  refine ⟨replies, recording, answered, longer.trans grows, ?_, rfl⟩
  rw [sent]
  rfl

/-- What becomes of one message of a fork. -/
theorem attends (root : context.isRoot = true)
    (run : Runs Fills main disk context value (Program.handleFork message) effects last) :
    ∃ replies recording,
      List.Forall₂ Message.Replies ([message].filter Message.asks) replies ∧
      context.recording.contents <+: recording.contents ∧
      effects = (if message.goesOn then context.sendEffects message else []) ++
        (context.forks.feed replies).1.flatten ∧
      last = { context.learn message with
               recording, forks := (context.forks.feed replies).2 } := by
  obtain ⟨_, _, _, ⟨_, longer, rfl⟩, taken, rfl, handled⟩ := run.of_cons
  cases taken
  obtain ⟨_, _, more, ⟨second, further, rfl⟩, taken, rfl, entered⟩ := handled.of_cons
  obtain ⟨inside, word, rfl⟩ := Option.map_eq_some_iff.mp taken
  have entered : Runs Fills main disk { context with recording := second, lock := inside } value
      [.dispatchFork message, .leaveRead, .answer .done] more last := entered
  obtain ⟨replies, recording, answered, grows, rfl, rfl⟩ :=
    attends_inside (by exact root) entered
  refine ⟨replies, recording, answered, longer.trans (further.trans grows), rfl, ?_⟩
  have same : inside.leave = context.lock := LockWord.leave_of_enter? word
  change { context.learn message with
    lock := inside.leave, recording, forks := (context.forks.feed replies).2 } = _
  rw [same]
  rfl

theorem Fills.refl (context : Context) : context.Fills context :=
  ⟨context.recording, List.prefix_rfl, rfl⟩

/-- Once it has what it needs of the recording, a root gives the replies that are left to give. -/
theorem Errands.runs {next : Program} (errands : Errands message next)
    (root : context.isRoot = true) :
    ∃ effects last,
      Runs Fills main disk context value (next ++ [.leaveRead, .answer .done]) effects last := by
  have finishes (context : Context) (value : Reply) :
      ∃ effects last, Runs Fills main disk context value [.leaveRead, .answer .done] effects last :=
    ⟨_, _, .acts (.refl _) rfl (.acts (.refl _) rfl (.done _ (.refl _)))⟩
  cases errands with
  | nothing quiet => exact finishes context value
  | @reply reply replies =>
    obtain ⟨effects, last, rest⟩ := finishes (context.route reply).context value
    exact ⟨_, last, .acts (.refl _) rfl rest⟩
  | range start stop asks =>
    have waits : context.ensureLength stop = context.followedBy [.awaitLength stop] := by
      simp [ensureLength, root]
    let longer : Recording :=
      { context.recording with
        contents := context.recording.contents ++ List.replicate stop.toNat 0 }
    have enough : stop.toNat ≤ longer.length := by simp [longer, Recording.length]
    let filled : Context := { context with recording := longer }
    obtain ⟨effects, last, rest⟩ := finishes (filled.route
      (.recordingData message.fork start (longer.range start stop))).context value
    have answers : Runs Fills main disk filled value
        [.answerRange message.fork start stop, .leaveRead, .answer .done] _ last :=
      .acts (.refl _) rfl rest
    have grows : context.Fills filled := ⟨longer, List.prefix_append _ _, rfl⟩
    have awaits : Runs Fills main disk context value
        [.awaitLength stop, .answerRange message.fork start stop, .leaveRead, .answer .done] _
        last := .acts grows (if_pos enough) answers
    exact ⟨_, last, .acts (.refl _) (congrArg some waits) awaits⟩

theorem attends_exists (message : Message) (main : Bool) (disk : Disk) (value : Reply)
    (root : context.isRoot = true) (free : context.lock.isWriteLocked = false) :
    ∃ effects last,
      Runs Fills main disk context value (Program.handleFork message) effects last := by
  have enters : context.lock.enter? = some { word := context.lock.word + 1 } :=
    if_neg (by rw [free]; exact Bool.false_ne_true)
  let inside : Context := { context with lock := { word := context.lock.word + 1 } }
  obtain ⟨learned, -, errands, -⟩ := inside.dispatchFork_eq main message
  obtain ⟨effects, last, finishes⟩ : ∃ effects last, Runs Fills main disk
      (inside.dispatchFork main message).context
      ((inside.dispatchFork main message).value.getD value)
      ((inside.dispatchFork main message).next ++ [.leaveRead, .answer .done]) effects last :=
    errands.runs (by rw [learned]; exact root)
  exact ⟨_, last, .acts (.refl _) rfl (.acts (.refl _) (congrArg (Option.map _) enters)
    (.acts (.refl _) rfl finishes))⟩

end Context

end Playback
