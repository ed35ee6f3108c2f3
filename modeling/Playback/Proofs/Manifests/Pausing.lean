import Playback.Proofs.Channel.Queueing
import Playback.Proofs.Lists
import Playback.Proofs.Manifests.Resuming

set_option autoImplicit false

namespace Playback

/-- The warning about a message that was sent by a paused child. -/
def Record.warnsOfPause (record : Record) : Bool :=
  record.source = .context && record.level = .warn &&
    record.message = "Message sent to middleman while paused"

def pauseWarnings (records : List Record) : Nat := records.countP Record.warnsOfPause

namespace Context

/-- The answer to a message for this child. -/
def replying? (context : Context) (message : Message) : Option Message :=
  match message.kind, message.payload with
  | .ping, .ping id => some (.pingResponse context.fork id context.host.progress)
  | _, _ => none

/-- The message of a fork that is sent on. -/
def relaying? (message : Message) : Option Message :=
  match message.kind, message.payload with
  | .updateRecording, .updateRecording _ _ | .externalCallRequest, .binary _ _
  | .externalCallResponse, .binary _ _ | .scanData, .binary _ _ | .sharedKeySet, _
  | .sharedKeyRequest, .binary _ _ => none
  | _, _ => some message

/-- The message that an action gives to the child to send. -/
def sending? (context : Context) : Action → Option Message
  | .send message | .claimCall message | .claimKey message => some message
  | .dispatch message => context.replying? message
  | .dispatchFork message => relaying? message
  | .sendFinished output bulk => some (context.finishedMessage output bulk)
  | .sendRecording start data => some (.recordingData context.fork start data)
  | .sendScan data => some (.scanData context.fork data)
  | .setKey key text =>
    if context.isRoot then none else some (.sharedKeySet context.fork key text)
  | .sendFatal text => some (.fatalError context.fork text)
  | .reportCritical text => some (.criticalError context.fork text)
  | .notifyPaint width height => some ((Message.paint width height).withFork context.fork)
  | .printLog text =>
    if context.isRecording then some (.logText rootFork (LogStamp.line text)) else none
  | _ => none

/-- The number of warnings about one message. -/
def warningsOf (context : Context) (main : Bool) (message : Message) : Nat :=
  if main && !message.kind.isUrgent && context.isPaused then 1 else 0

end Context

/-- A message that is given to be sent is sent, with the warnings about it. There are no others. -/
structure Outcome.Speaks (context : Context) (main : Bool) (given : Option Message)
    (outcome : Outcome) : Prop where
  effects : ∀ message, given = some message → outcome.effects = context.sendEffects message
  warnings : pauseWarnings outcome.records = given.elim 0 (context.warningsOf main)

namespace Context

variable {context : Context} {main : Bool} {value : Reply} {disk : Disk} {action : Action}
  {outcome : Outcome}

theorem warnings_sendRecords (context : Context) (main : Bool) (message : Message) :
    pauseWarnings (context.sendRecords main message) = context.warningsOf main message := by
  have absent : pauseWarnings (if context.channel.isNone then
      [record .warn "No channel, dropping message" [kindField message]] else []) = 0 := by
    split <;> rfl
  rw [sendRecords, pauseWarnings, List.countP_append, ← pauseWarnings, ← pauseWarnings, absent,
    warningsOf, Kind.maySend]
  cases main <;> cases message.kind.isUrgent <;> cases context.isPaused <;> rfl

theorem send_speaks (context : Context) (main : Bool) (message : Message) :
    (context.send main message).Speaks context main (some message) where
  effects _ same := congrArg context.sendEffects (Option.some.inj same)
  warnings := context.warnings_sendRecords main message

end Context

/-- Nothing is given to be sent. -/
theorem Outcome.Speaks.silent {context : Context} {main : Bool} {outcome : Outcome}
    (quiet : pauseWarnings outcome.records = 0) : outcome.Speaks context main none :=
  ⟨nofun, quiet⟩

namespace Context

variable {context : Context} {main : Bool} {value : Reply} {disk : Disk} {action : Action}
  {outcome : Outcome}

/-- Records of the other parts of a child do not speak of pauses. -/
theorem pauseWarnings_of_source {records : List Record}
    (apart : ∀ record ∈ records, record.source ≠ .context) : pauseWarnings records = 0 := by
  rw [pauseWarnings, List.countP_eq_zero]
  intro record there
  simp [Record.warnsOfPause, apart record there]

theorem warnings_insertRecords (calls : ExternalCalls) (id : CallId) (output : Bytes) :
    pauseWarnings (calls.insertRecords id output) = 0 := by
  unfold ExternalCalls.insertRecords
  split <;> rfl

theorem warnings_responseRecords (id : CallId) (tag : Option CallId) :
    pauseWarnings (ExternalCalls.responseRecords id tag) = 0 := by
  unfold ExternalCalls.responseRecords
  split
  · rfl
  · split <;> rfl

theorem warnings_fetchAnd (disk : Disk) {orElse : Failure → Outcome}
    (failing : ∀ failure, pauseWarnings (orElse failure).records = 0) :
    pauseWarnings (context.fetchAnd disk orElse).records = 0 := by
  unfold fetchAnd
  split
  · rename_i length record changed found
    have fetched : record.warnsOfPause = false := by
      unfold fetch at found
      dsimp only at found
      split at found
      · cases found
      · rename_i path _
        generalize context.recording.load disk path = loaded at found
        obtain ⟨result, recording⟩ := loaded
        cases result <;> cases found
        rfl
    rw [pauseWarnings, List.countP_singleton, fetched]
    rfl
  · exact failing _

theorem warnings_routeRecords (message : Message) (routed : Routed Nat) :
    pauseWarnings (ForkTable.routeRecords message routed) = 0 := by
  unfold ForkTable.routeRecords
  split <;> rfl

theorem warnings_chunkRecords (recording : Recording) (chunk : Chunk) :
    pauseWarnings (recording.chunkRecords chunk) = 0 := by
  refine pauseWarnings_of_source fun record there => ?_
  unfold Recording.chunkRecords at there
  dsimp only at there
  split at there
  · simp only [List.mem_cons, List.not_mem_nil, or_false] at there
    rcases there with rfl | rfl <;>
    · intro same
      cases same
  · rw [List.mem_cons, List.mem_map] at there
    rcases there with rfl | ⟨_, _, rfl⟩ <;>
    · intro same
      cases same

theorem dispatch_speaks (context : Context) (main : Bool) (message : Message) :
    (context.dispatch main message).Speaks context main (context.replying? message) := by
  unfold dispatch replying?
  generalize message.kind = kind, message.payload = payload
  -- As in the case of the manifests, the match is split by its arguments.
  cases kind <;> cases payload <;> try exact .silent rfl
  case introduction.introduction content =>
    change (context.introduce content).Speaks context main none
    unfold introduce
    split <;> exact .silent rfl
  case ping.ping id => exact send_speaks context main _
  case externalCallResponse.binary tag output =>
    refine .silent ?_
    dsimp only [ExternalCalls.deliverRecords]
    split <;> rfl
  case recordingData.binary offset data => exact .silent (warnings_chunkRecords _ _)
  case sharedKeyResponse.binary tag data =>
    refine .silent ?_
    dsimp only [SharedKeys.deliverRecords]
    split <;> rfl

theorem dispatchFork_speaks (context : Context) (main : Bool) (message : Message) :
    (context.dispatchFork main message).Speaks context main (relaying? message) := by
  have sends := send_speaks context main message
  unfold dispatchFork relaying?
  generalize message.kind = kind, message.payload = payload
  cases kind <;> cases payload <;> try exact sends
  case externalCallResponse.binary tag output =>
    dsimp only
    split
    · exact .silent rfl
    · exact .silent (warnings_insertRecords _ _ _)
  all_goals
    first
    | exact .silent rfl
    | dsimp only
      split <;> exact .silent rfl

/-- An error is logged with the message about it. -/
theorem logged_speaks {message : Message} (record : Record)
    (other : record.warnsOfPause = false) :
    ({ context.send main message with
        records := record :: (context.send main message).records } : Outcome).Speaks context main
      (some message) := by
  obtain ⟨effects, warnings⟩ := send_speaks context main message
  refine ⟨effects, ?_⟩
  rw [pauseWarnings, List.countP_cons_of_neg (by simp [other]), ← pauseWarnings]
  exact warnings

theorem step_speaks (taken : context.step main value disk action = some outcome) :
    outcome.Speaks context main (context.sending? action) := by
  cases action with
  | outside operation => cases taken
  | send message =>
    cases taken
    exact send_speaks context main message
  | dispatch message =>
    cases taken
    exact dispatch_speaks context main message
  | dispatchFork message =>
    cases taken
    exact dispatchFork_speaks context main message
  | sendFinished output bulk | sendRecording start data | sendScan data | notifyPaint width height =>
    cases taken
    exact send_speaks context main _
  | sendFatal text | reportCritical text =>
    cases taken
    exact logged_speaks _ rfl
  | claimCall request | claimKey request =>
    obtain ⟨slot, _, same⟩ := Option.map_eq_some_iff.mp taken
    cases same
    exact ⟨(send_speaks context main request).effects, (send_speaks context main request).warnings⟩
  | setKey key text =>
    cases taken
    dsimp only [sending?, setKey]
    split
    · exact .silent rfl
    · exact send_speaks context main _
  | printLog text =>
    cases taken
    dsimp only [sending?, printLog]
    split
    · exact send_speaks context main _
    · split <;> exact .silent rfl
  | route message | answerRange fork start stop =>
    cases taken
    exact .silent (warnings_routeRecords _ _)
  | passOn message =>
    cases taken
    unfold passOn
    split
    · exact .silent (warnings_routeRecords _ _)
    · exact .silent rfl
  | handle message =>
    cases taken
    unfold handle
    split
    · split <;> exact .silent rfl
    · exact .silent rfl
  | startManifest manifest =>
    cases taken
    unfold startManifest
    split <;> exact .silent rfl
  | runManifest manifest =>
    cases taken
    unfold runManifest
    split <;> exact .silent rfl
  | runPending ran =>
    cases taken
    unfold runPending
    split <;> exact .silent rfl
  | ensureLength length | lookupCall id input | performUnlessKnown id input output | getKey key
  | performFork fork awaited | reportFatal text | reportDivergence | reportCrash fault
  | save name =>
    cases taken
    refine .silent ?_
    dsimp only [ensureLength, lookupCall, performUnlessKnown, getKey, performFork, reportFatal,
      reportDivergence, reportCrash, save]
    split <;> rfl
  | fetch | fetchOrReport =>
    cases taken
    exact .silent (warnings_fetchAnd disk fun _ => rfl)
  | keepCall id output | publishCall id output =>
    cases taken
    exact .silent (warnings_insertRecords _ _ _)
  | takeCall id =>
    obtain ⟨⟨⟨tag, output⟩, slot⟩, _, same⟩ := Option.map_eq_some_iff.mp taken
    cases same
    exact .silent (warnings_responseRecords id tag)
  | takePending requireMore =>
    obtain ⟨⟨result, recording⟩, _, same⟩ := Option.map_eq_some_iff.mp taken
    cases same
    refine .silent ?_
    dsimp only
    split <;> rfl
  | enterRead | claimWrite | takeKey | awaitIntroduction | runOne | serve =>
    obtain ⟨_, _, same⟩ := Option.map_eq_some_iff.mp taken
    cases same
    exact .silent rfl
  | awaitDrained | awaitIdle | awaitFirst | awaitLength length | awaitRegistration fork pid
  | observe refuses | handleFault fault =>
    dsimp only [step, awaitRegistration] at taken
    split at taken <;> cases taken <;> exact .silent rfl
  | awaitFork fork deadline =>
    dsimp only [step, awaitFork] at taken
    split at taken
    · cases taken
      exact .silent rfl
    · split at taken <;> cases taken
      exact .silent rfl
  | halt =>
    dsimp only [step, halt] at taken
    split at taken <;> cases taken
    exact .silent rfl
  | _ =>
    cases taken
    exact .silent rfl

end Context

/-! Manifests that are started and finished -/

/-- The manifest that an action takes for processing, and which is to be started then. -/
def Deed.started? (deed : Deed) : Option Bytes :=
  match deed.action with
  | .dispatch message =>
    message.manifest?.bind fun manifest => (deed.context.manifests.push manifest).1
  | .finishManifest => deed.context.manifests.finish.1
  | _ => none

/-- How many manifests were started. -/
def Deed.startedIn (deeds : List Deed) : Nat := (deeds.filterMap Deed.started?).length

/-- How many manifests have gone through finish. -/
def Deed.finishedIn (deeds : List Deed) : Nat := (deeds.filterMap Deed.work?).count .passed

theorem Deed.startedIn_snoc (deeds : List Deed) (deed : Deed) :
    startedIn (deeds ++ [deed]) = startedIn deeds + deed.started?.toList.length := by
  rw [startedIn, filterMap_snoc, List.length_append, startedIn]

theorem Deed.finishedIn_snoc (deeds : List Deed) (deed : Deed) :
    finishedIn (deeds ++ [deed]) = finishedIn deeds + deed.work?.toList.count .passed := by
  rw [finishedIn, filterMap_snoc, List.count_append, finishedIn]

namespace Manifests

theorem startNext_processing (manifests : Manifests) :
    manifests.startNext.2.processing.toNat =
      manifests.processing.toNat + manifests.startNext.1.toList.length := by
  unfold startNext
  split
  · rename_i idle _
    rw [idle]
    rfl
  · rfl

/-- A manifest that is taken for processing is one more that is being processed. -/
theorem push_processing (manifests : Manifests) (manifest : Bytes) :
    (manifests.push manifest).2.processing.toNat =
      manifests.processing.toNat + (manifests.push manifest).1.toList.length :=
  startNext_processing _

/-- The one that was processed is done, and the next may take its place. -/
theorem finish_processing (manifests : Manifests) :
    manifests.finish.2.processing.toNat = manifests.finish.1.toList.length := by
  rw [finish, startNext_processing]
  exact Nat.zero_add _

end Manifests

/-- A thread that has a manifest in hand is not paused. -/
theorem InTurn.running {history : History} (inTurn : InTurn history) {one : Waiting Strand}
    (there : one ∈ history.threads.waiting) (hand : (inHand one.call.todo).isSome = true) :
    history.threads.state.isPaused = false := by
  obtain ⟨token, held⟩ := Option.isSome_iff_exists.mp hand
  have member : token ∈ history.threads.flight :=
    List.mem_append_left _ (List.mem_filterMap.mpr ⟨one, there, held⟩)
  have places := inTurn.length_flight
  have some := List.length_pos_of_mem member
  cases paused : history.threads.state.isPaused with
  | false => rfl
  | true =>
    rw [places, paused] at some
    cases some

theorem Calm.started? {deed : Deed} (calm : Calm deed.action) :
    deed.started? =
      deed.action.received?.bind fun manifest => (deed.context.manifests.push manifest).1 := by
  have idle := calm.token?
  obtain ⟨context, thread, action, outcome⟩ := deed
  cases action <;> first | rfl | cases idle

/-- What an action starts and finishes makes up for the change of what is being processed. -/
def Deed.Balanced (deed : Deed) : Prop :=
  deed.context.manifests.processing.toNat + deed.started?.toList.length =
    deed.outcome.context.manifests.processing.toNat + deed.work?.toList.count .passed

theorem Deed.Balanced.of_same {deed : Deed}
    (manifests : deed.outcome.context.manifests = deed.context.manifests)
    (nothing : deed.started? = none) (other : deed.work? ≠ some .passed) : deed.Balanced := by
  have none : deed.work?.toList.count .passed = 0 := by
    rw [List.count_eq_zero, Option.mem_toList]
    exact other
  rw [Balanced, manifests, nothing, none]
  rfl

theorem Calm.balanced {deed : Deed} (calm : Calm deed.action)
    (step : deed.outcome.CalmStep deed.context deed.action) : deed.Balanced := by
  have started := calm.started?
  have idle := calm.work?
  have other : deed.work? ≠ some .passed := by
    rw [idle]
    nofun
  cases step with
  | stays still nothing =>
    rw [nothing] at started
    exact .of_same still.manifests started other
  | takes first manifests left scripts next calmLater nothing =>
    rw [nothing] at started
    exact .of_same manifests started other
  | receives arrives manifests host next =>
    rw [arrives] at started
    rw [Deed.Balanced, manifests, started, idle, Manifests.push_processing]
    rfl

theorem Deed.balanced {world : World} (lawful : world.Calm) {disk : Disk} {deed : Deed}
    {rest : Program} (todo : deed.thread.call.todo = deed.action :: rest)
    (duty : Duty deed.thread.call.todo) (calmHost : deed.context.host.Calm)
    (busy : (inHand deed.thread.call.todo).isSome = true → deed.context.isPaused = false)
    (taken : deed.thread.call.take? world disk deed.context deed.action = some deed.outcome) :
    deed.Balanced := by
  obtain ⟨context, thread, action, outcome⟩ := deed
  dsimp only at todo duty calmHost busy taken
  rw [todo] at duty busy
  cases duty with
  | calm calm later => exact calm.balanced (Strand.take?_calm lawful calm taken)
  | starts manifest calm =>
    cases Option.some.inj taken
    have same : (context.startManifest manifest).context.manifests = context.manifests := by
      rcases context.startManifest_cases manifest with runs | ⟨-, manifests, -⟩
      · rw [runs]
        rfl
      · exact manifests
    exact .of_same same rfl nofun
  | runs manifest calm =>
    cases Option.some.inj taken
    obtain ⟨script, -, -, manifests, -⟩ := Context.runManifest_eq calmHost manifest
    exact .of_same manifests rfl nofun
  | concludes manifest calm =>
    cases Option.some.inj taken
    exact .of_same rfl rfl nofun
  | reports output bulk calm =>
    cases Option.some.inj taken
    exact .of_same rfl rfl nofun
  | finishes calm =>
    cases Option.some.inj taken
    have processing : context.manifests.processing = true := by
      simpa [Context.isPaused] using busy rfl
    change context.manifests.processing.toNat + context.manifests.finish.1.toList.length =
      context.manifests.finish.2.processing.toNat + 1
    rw [processing, Manifests.finish_processing]
    exact Nat.add_comm _ _

namespace History

variable {first history next : History}

/-- A history of a child that has no manifest and no task at first, or that runs one manifest. -/
def Opens (first : History) : Prop :=
  first.deeds = [] ∧
    ((first.threads.state.manifests = {} ∧ first.threads.state.host.tasks = {} ∧
      first.threads.state.host.Calm ∧ first.threads.waiting = []) ∨
    ∃ manifest, first.Resumes manifest)

theorem Opens.inTurn (opens : first.Opens) : ∃ past, InTurn (first.behind past) := by
  obtain ⟨nothing, ⟨manifests, tasks, host, nobody⟩ | ⟨manifest, resumes⟩⟩ := opens
  · exact ⟨[], .of_nothing nothing manifests tasks host nobody⟩
  · exact ⟨_, resumes.inTurn⟩

/-- What was started and is not finished is being processed. -/
theorem balance_of_run (opens : first.Opens)
    (run : Relation.ReflTransGen CalmMoves first history) :
    first.threads.state.manifests.processing.toNat + Deed.startedIn history.deeds =
      history.threads.state.manifests.processing.toNat + Deed.finishedIn history.deeds := by
  obtain ⟨past, inTurn⟩ := opens.inTurn
  induction run with
  | refl =>
    rw [opens.1]
    rfl
  | tail front moves ih =>
    have turn := run_inTurn inTurn (run_behind front past)
    cases moves with
    | begins main allowed => exact ih
    | ends done => exact ih
    | @acts world law disk context before after one action rest outcome deeds begun todo taken =>
      have there : one ∈ before ++ one :: after := List.mem_append_right _ List.mem_cons_self
      have balanced : Deed.Balanced { context, thread := one, action, outcome } :=
        Deed.balanced law todo (turn.duties one there) turn.host (turn.running there) taken
      unfold Deed.Balanced at balanced
      dsimp only at ih balanced ⊢
      rw [Deed.startedIn_snoc, Deed.finishedIn_snoc]
      omega

end History

/-- What the pause of a child makes of the action of one of its threads. -/
structure Deed.Told (first : History) (early : List Deed) (deed : Deed) : Prop where
  /-- A child is paused unless it has started a manifest that has not gone through finish. -/
  paused : deed.context.isPaused = true ↔
    first.threads.state.manifests.processing.toNat + Deed.startedIn early = Deed.finishedIn early
  /-- Nobody is paused with a manifest in hand, from its start until it goes through finish. -/
  running : (inHand deed.thread.call.todo).isSome = true → deed.context.isPaused = false
  quiet : (inHand deed.thread.call.todo).isSome = true →
    (∀ operation, deed.action ≠ .outside operation) → pauseWarnings deed.outcome.records = 0
  warned : ∀ message, deed.context.sending? deed.action = some message →
    deed.thread.call.main = true → message.kind.isUrgent = false →
    first.threads.state.manifests.processing.toNat + Deed.startedIn early = Deed.finishedIn early →
    pauseWarnings deed.outcome.records = 1
  sent : ∀ message endpoint, deed.context.sending? deed.action = some message →
    deed.context.channel = some endpoint → deed.outcome.effects = [.send endpoint message]
  /-- What is sent, whatever the pause, makes an open channel queue its frame. -/
  queued : ∀ message endpoint frame, deed.context.sending? deed.action = some message →
    deed.context.channel = some endpoint → message.encode = .ok frame →
    ∀ channel : Channel, channel.closed = false →
      (deed.outcome.effects.filterMap (Effect.sentOn endpoint)).foldl Channel.send channel =
        { channel with queue := channel.queue ++ [frame] }
  /-- What has no frame is dropped there. -/
  dropped : ∀ message endpoint, deed.context.sending? deed.action = some message →
    deed.context.channel = some endpoint → ¬message.Framed → ∀ channel : Channel,
      (deed.outcome.effects.filterMap (Effect.sentOn endpoint)).foldl Channel.send channel = channel

theorem Deed.told {first history : History} {deed : Deed} (opens : first.Opens)
    (run : Relation.ReflTransGen History.CalmMoves first history)
    (moment : History.Moment World.Calm history deed) : deed.Told first history.deeds := by
  obtain ⟨past, inTurn⟩ := opens.inTurn
  have turn := History.run_inTurn inTurn (History.run_behind run past)
  have balance := History.balance_of_run opens run
  have paused : deed.context.isPaused = true ↔
      first.threads.state.manifests.processing.toNat + startedIn history.deeds =
        finishedIn history.deeds := by
    rw [balance, ← moment.state, Context.isPaused]
    cases history.threads.state.manifests.processing <;> simp
  have running (hand : (inHand deed.thread.call.todo).isSome = true) :
      deed.context.isPaused = false := by
    rw [← moment.state]
    exact turn.running moment.there hand
  have speaks (inside : ∀ operation, deed.action ≠ .outside operation) :
      deed.outcome.Speaks deed.context deed.thread.call.main
        (deed.context.sending? deed.action) := by
    obtain ⟨world, disk, rest, -, -, taken⟩ := moment.taken
    unfold Strand.take? at taken
    split at taken
    · rename_i operation same
      exact absurd same (inside operation)
    · exact Context.step_speaks taken
  have inside {message : Message} (given : deed.context.sending? deed.action = some message)
      (operation : Operation) : deed.action ≠ .outside operation := by
    intro same
    rw [same] at given
    cases given
  have effects {message : Message} (given : deed.context.sending? deed.action = some message) :
      deed.outcome.effects = deed.context.sendEffects message :=
    (speaks (inside given)).effects message given
  refine ⟨paused, running, ?_, ?_, ?_, ?_, ?_⟩
  · intro hand inside
    rw [(speaks inside).warnings]
    cases deed.context.sending? deed.action with
    | none => rfl
    | some message => simp [Context.warningsOf, running hand]
  · intro message given main ordinary finished
    rw [(speaks (inside given)).warnings, given, Option.elim_some, Context.warningsOf, main,
      ordinary, paused.mpr finished]
    rfl
  · intro message endpoint given channel
    rw [effects given, Context.sendEffects, channel]
  · intro message endpoint frame given leads encoded channel opened
    rw [effects given, Context.foldl_sendEffects leads, Channel.send_of_open opened encoded]
  · intro message endpoint given leads large channel
    rw [effects given, Context.foldl_sendEffects leads, Channel.send_of_not_framed large]

/-- Whatever the threads of a child do while nobody finishes manifests from outside: no thread is
paused from the start of a manifest until its output is reported and it goes through finish, and
what the thread sends until then brings no warning. What the main thread sends while no manifest was
started or all have gone through finish brings one warning each, if it is not urgent. Either way an
open channel queues the frame of what is sent, and drops what has none. -/
theorem paused_sends_are_told {first history : History} (opens : first.Opens)
    (run : Relation.ReflTransGen History.CalmMoves first history) :
    (∀ one ∈ history.threads.waiting, (inHand one.call.todo).isSome = true →
      history.threads.state.isPaused = false) ∧
    ∀ early deed late, history.deeds = early ++ deed :: late → deed.Told first early := by
  constructor
  · obtain ⟨past, inTurn⟩ := opens.inTurn
    have turn := History.run_inTurn inTurn (History.run_behind run past)
    exact fun one there hand => turn.running there hand
  · intro early deed late split
    obtain ⟨middle, front, rfl, moment⟩ := History.moment_of_run run opens.1 split
    exact Deed.told opens front moment

/-- A root whose main thread sends a byte while it is paused, and another while it runs a
manifest. -/
def sendingRoot : Threads where
  state :=
    { config := {}, channel := some 0
      host := { style := .scripted, scripts := [[[.sendScan [2]]]] } }

theorem sendingRoot_opens : ({ threads := sendingRoot } : History).Opens :=
  ⟨rfl, Or.inl ⟨rfl, rfl, Host.calm_of_all rfl, rfl⟩⟩

def twoSends : List History.Turn :=
  .begins true [.sendScan [1]] :: .acts 0 ::
    .begins false (Program.handle (.manifestStart 0 [9])) :: List.replicate 4 (.acts 1) ++
    .begins true [.serve] :: List.replicate 4 (.acts 2)

theorem first_send_warned : ∃ (history : History) (first second : Deed),
    history.deeds.head? = some first ∧ history.deeds.getLast? = some second ∧
    first.context.sending? first.action = some (.scanData 0 [1]) ∧
    first.context.isPaused = true ∧ pauseWarnings first.outcome.records = 1 ∧
    second.context.sending? second.action = some (.scanData 0 [2]) ∧
    second.context.isPaused = false ∧ pauseWarnings second.outcome.records = 0 := by
  let view (deed : Deed) : Option Message × Bool × Bool :=
    (deed.context.sending? deed.action, deed.thread.call.main,
      (inHand deed.thread.call.todo).isSome)
  have played : (({ threads := sendingRoot } : History).play twoSends).map
      (fun history => (history.deeds.head?.map view, history.deeds.getLast?.map view)) =
      some (some (some (.scanData 0 [1]), true, false),
        some (some (.scanData 0 [2]), true, true)) := by decide +kernel
  obtain ⟨history, ran, found⟩ := Option.map_eq_some_iff.mp played
  simp only [Prod.mk.injEq, Option.map_eq_some_iff, view] at found
  obtain ⟨⟨first, head, sends, main, -⟩, ⟨second, last, sendsNext, -, hand⟩⟩ := found
  have opens := sendingRoot_opens
  have run : Relation.ReflTransGen History.CalmMoves { threads := sendingRoot } history :=
    History.calm_of_play rfl ran
  obtain ⟨-, told⟩ := paused_sends_are_told opens run
  obtain ⟨late, split⟩ := List.head?_eq_some_iff.mp head
  obtain ⟨early, splitLast⟩ := List.getLast?_eq_some_iff.mp last
  have warned := told [] first late split
  have quiet := told early second [] splitLast
  refine ⟨history, first, second, head, last, sends, warned.paused.mpr rfl,
    warned.warned _ sends main rfl rfl, sendsNext, quiet.running hand, quiet.quiet hand ?_⟩
  intro operation same
  rw [same] at sendsNext
  cases sendsNext

theorem oneSend_plays (data : Bytes) :
    (({ threads := sendingRoot } : History).play [.begins true [.sendScan data], .acts 0]).map
      (fun history => history.deeds.map fun deed =>
        (deed.context.sending? deed.action, deed.thread.call.main, deed.context.channel)) =
      some [(some (.scanData 0 data), true, some 0)] := by
  with_unfolding_all rfl

/-- A paused root is warned about four gigabytes that its main thread sends, and they are not
queued. -/
theorem large_send_not_queued : ∃ (history : History) (deed : Deed) (message : Message),
    Relation.ReflTransGen History.CalmMoves { threads := sendingRoot } history ∧
      history.deeds = [deed] ∧ deed.context.sending? deed.action = some message ∧
      deed.thread.call.main = true ∧ message.kind.isUrgent = false ∧
      deed.context.isPaused = true ∧ deed.context.channel = some 0 ∧
      pauseWarnings deed.outcome.records = 1 ∧
      ∀ channel : Channel,
        (deed.outcome.effects.filterMap (Effect.sentOn 0)).foldl Channel.send channel =
          channel := by
  have large : ¬(Message.scanData 0 (List.replicate UInt32.size 0)).Framed :=
    Message.not_framed_of_binary rfl (@List.length_replicate UInt8 UInt32.size 0).ge
  generalize List.replicate UInt32.size (0 : UInt8) = data at large
  obtain ⟨history, ran, found⟩ := Option.map_eq_some_iff.mp (oneSend_plays data)
  obtain ⟨deed, whole, view⟩ := List.map_eq_singleton_iff.mp found
  simp only [Prod.mk.injEq] at view
  obtain ⟨sends, main, leads⟩ := view
  have run : Relation.ReflTransGen History.CalmMoves { threads := sendingRoot } history :=
    History.calm_of_play rfl ran
  obtain ⟨middle, front, nothing, moment⟩ :=
    @History.moment_of_run _ _ _ _ run rfl [] [] deed whole
  have told := Deed.told sendingRoot_opens front moment
  rw [nothing] at told
  exact ⟨history, deed, _, run, whole, sends, main, rfl, told.paused.mpr rfl, leads,
    told.warned _ sends main rfl rfl, told.dropped _ 0 sends leads large⟩

end Playback
