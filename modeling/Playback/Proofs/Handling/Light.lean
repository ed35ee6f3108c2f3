import Playback.Context.Step
import Playback.Proofs.Recording.Reassembly

set_option autoImplicit false

namespace Playback

/-- The manifest that a message starts. -/
def Message.manifest? (message : Message) : Option Bytes :=
  match message.kind, message.payload with
  | .manifestStart, .binary _ manifest => some manifest
  | _, _ => none

/-- An action that leaves alone what threads share, as does all that it leads to. -/
def Action.isLight : Action → Bool
  | .enterRead | .leaveRead | .claimWrite | .awaitDrained | .releaseWrite
  | .handle _ | .dispatch _ | .handleFork _ | .dispatchFork _
  | .startManifest _ | .runManifest _ | .conclude _ | .sendFinished _ _ | .finishManifest
  | .clearPending | .runPending _ | .runOne | .serve | .queueScript _
  | .lookupCall _ _ | .claimCall _ | .takeCall _ | .keepCall _ _ | .performUnlessKnown _ _ _
  | .publishCall _ _ | .getKey _ | .claimKey _ | .takeKey | .performFork _ _ | .outside _ => false
  | _ => true

/-- What threads share stays as it is, and only bytes of the recording may be added. -/
structure Outcome.Light (context : Context) (outcome : Outcome) : Prop where
  fork : outcome.context.fork = context.fork
  lock : outcome.context.lock = context.lock
  style : outcome.context.host.style = context.host.style
  scripts : outcome.context.host.scripts = context.host.scripts
  tasks : outcome.context.host.tasks = context.host.tasks
  manifests : outcome.context.manifests = context.manifests
  calls : outcome.context.calls = context.calls
  keys : outcome.context.keys.slot = context.keys.slot
  recording : context.recording.contents <+: outcome.context.recording.contents
  next : outcome.next.all Action.isLight = true

/-- An action that keeps to the parts of the child that are left. -/
theorem Outcome.Light.of_host {context : Context} {outcome : Outcome}
    (fork : outcome.context.fork = context.fork) (lock : outcome.context.lock = context.lock)
    (host : outcome.context.host = context.host)
    (manifests : outcome.context.manifests = context.manifests)
    (calls : outcome.context.calls = context.calls)
    (keys : outcome.context.keys.slot = context.keys.slot)
    (recording : context.recording.contents <+: outcome.context.recording.contents)
    (next : outcome.next.all Action.isLight = true) : outcome.Light context where
  fork := fork
  lock := lock
  style := congrArg Host.style host
  scripts := congrArg Host.scripts host
  tasks := congrArg Host.tasks host
  manifests := manifests
  calls := calls
  keys := keys
  recording := recording
  next := next

namespace Host

theorem note_style (host : Host) (event : HostEvent) : (host.note event).style = host.style := by
  unfold note
  split <;> rfl

theorem note_scripts (host : Host) (event : HostEvent) :
    (host.note event).scripts = host.scripts := by
  unfold note
  split <;> rfl

theorem note_tasks (host : Host) (event : HostEvent) : (host.note event).tasks = host.tasks := by
  unfold note
  split <;> rfl

end Host

namespace Context

variable {context : Context} {main : Bool} {value : Reply} {disk : Disk} {action : Action}
  {outcome : Outcome}

theorem tell_light (context : Context) (event : HostEvent) (effects : List Effect)
    (records : List Record) :
    ({ context := context.tell event, effects, records } : Outcome).Light context where
  fork := rfl
  lock := rfl
  style := Host.note_style _ _
  scripts := Host.note_scripts _ _
  tasks := Host.note_tasks _ _
  manifests := rfl
  calls := rfl
  keys := rfl
  recording := List.prefix_rfl
  next := rfl

/-- A read of the recording's file changes the recording alone, and only adds to its bytes. -/
theorem fetch_recording (context : Context) (disk : Disk) :
    ∃ recording, context.recording.contents <+: recording.contents ∧
      (context.fetch disk).2 = { context with recording } := by
  unfold fetch Recording.load
  dsimp only
  split
  · exact ⟨_, List.prefix_rfl, rfl⟩
  · split
    · exact ⟨_, List.prefix_rfl, rfl⟩
    · exact ⟨_, List.prefix_append _ _, rfl⟩

theorem fetchAnd_light (disk : Disk) {orElse : Failure → Outcome}
    (failing : ∀ failure, (orElse failure).Light context) :
    (context.fetchAnd disk orElse).Light context := by
  obtain ⟨recording, grown, same⟩ := context.fetch_recording disk
  unfold fetchAnd
  split
  · rename_i found
    rw [found] at same
    cases same
    exact .of_host rfl rfl rfl rfl rfl rfl grown rfl
  · exact failing _

theorem takePending_contents {recording left : Recording} {requireMore : Bool}
    {result : Except Failure Bytes}
    (taken : recording.takePending requireMore = some (result, left)) :
    left.contents = recording.contents := by
  unfold Recording.takePending at taken
  split at taken
  · split at taken <;> cases taken
    rfl
  · cases taken
    rfl

theorem step_light (light : action.isLight = true)
    (taken : context.step main value disk action = some outcome) : outcome.Light context := by
  cases action with
  | noteStep =>
    cases taken
    exact tell_light context _ _ _
  | setProgress progress =>
    cases taken
    unfold Host.advance
    refine ⟨rfl, rfl, ?_, ?_, ?_, rfl, rfl, rfl, List.prefix_rfl, rfl⟩ <;>
    · dsimp only
      split <;> rfl
  | fetch | fetchOrReport =>
    cases taken
    exact fetchAnd_light disk fun _ => .of_host rfl rfl rfl rfl rfl rfl List.prefix_rfl rfl
  | takePending requireMore =>
    obtain ⟨⟨result, recording⟩, found, same⟩ := Option.map_eq_some_iff.mp taken
    cases same
    exact .of_host rfl rfl rfl rfl rfl rfl (takePending_contents found ▸ List.prefix_rfl) rfl
  | append data =>
    cases taken
    exact .of_host rfl rfl rfl rfl rfl rfl (List.prefix_append _ _) rfl
  | passOn message | setKey key value | ensureLength length | reportFatal text
  | reportDivergence | reportCrash fault | save name =>
    cases taken
    dsimp only [passOn, setKey, ensureLength, reportFatal, reportDivergence, reportCrash, save]
    split <;> exact .of_host rfl rfl rfl rfl rfl rfl List.prefix_rfl rfl
  | printLog text =>
    cases taken
    unfold printLog
    split
    · exact .of_host rfl rfl rfl rfl rfl rfl List.prefix_rfl rfl
    · split <;> exact .of_host rfl rfl rfl rfl rfl rfl List.prefix_rfl rfl
  | awaitIntroduction =>
    obtain ⟨_, _, same⟩ := Option.map_eq_some_iff.mp taken
    cases same
    exact .of_host rfl rfl rfl rfl rfl rfl List.prefix_rfl rfl
  | awaitIdle | awaitFirst | awaitLength length | awaitRegistration fork pid | observe refuses
  | handleFault fault =>
    dsimp only [step, awaitRegistration] at taken
    split at taken <;> cases taken <;>
    exact .of_host rfl rfl rfl rfl rfl rfl List.prefix_rfl rfl
  | awaitFork fork deadline =>
    dsimp only [step, awaitFork] at taken
    split at taken
    · cases taken
      exact .of_host rfl rfl rfl rfl rfl rfl List.prefix_rfl rfl
    · split at taken <;> cases taken
      exact .of_host rfl rfl rfl rfl rfl rfl List.prefix_rfl rfl
  | halt =>
    dsimp only [step, halt] at taken
    split at taken <;> cases taken
    exact tell_light context _ _ _
  | send | route | register | answerRange | snapshot | range | sendRecording | sendScan | cached
  | ownKey | forkNews | forkSocket | sendFatal | reportCritical | allowDivergence | pushNote
  | popNote | setNote | notes | notifyPaint | roles | answer =>
    cases taken
    exact .of_host rfl rfl rfl rfl rfl rfl List.prefix_rfl rfl
  | _ => cases light

/-- What a message for this process does: it starts a manifest, brings a response, or leaves alone
what threads share. -/
theorem dispatch_light_or (context : Context) (main : Bool) (message : Message) :
    (context.dispatch main message).Light context ∧ message.manifest? = none ∨
    (∃ manifest, message.manifest? = some manifest ∧ context.dispatch main message =
      { context := { context with manifests := (context.manifests.push manifest).2 }
        next := ((context.manifests.push manifest).1.map .startManifest).toList }) ∨
    (∃ id output records, message.manifest? = none ∧ context.dispatch main message =
      { context := { context with calls := (context.calls.deliver id output).2 }, records }) ∨
    ∃ value records, message.manifest? = none ∧ context.dispatch main message =
      { context := { context with keys := (context.keys.deliver value).2 }, records } := by
  have stays {outcome : Outcome} (light : outcome.Light context) :
      outcome.Light context ∧ (none : Option Bytes) = none := ⟨light, rfl⟩
  have unexpected : ({ context, records := [record .warn "Unexpected message"
      [kindField message]] } : Outcome).Light context :=
    .of_host rfl rfl rfl rfl rfl rfl List.prefix_rfl rfl
  unfold dispatch Message.manifest?
  generalize message.kind = kind, message.payload = payload
  -- Splitting the match itself is out of reach where all simplifications are at hand.
  cases kind <;> cases payload <;> try exact Or.inl (stays unexpected)
  case manifestStart.binary tag manifest => exact Or.inr (Or.inl ⟨manifest, rfl, rfl⟩)
  case externalCallResponse.binary tag output =>
    exact Or.inr (Or.inr (Or.inl ⟨_, output, _, rfl, rfl⟩))
  case sharedKeyResponse.binary tag data => exact Or.inr (Or.inr (Or.inr ⟨_, _, rfl, rfl⟩))
  case introduction.introduction content =>
    refine Or.inl (stays ?_)
    change (context.introduce content).Light context
    unfold introduce
    split <;> exact .of_host rfl rfl rfl rfl rfl rfl List.prefix_rfl rfl
  case createCheckpoint.empty =>
    refine Or.inl (stays ?_)
    dsimp only
    split
    · exact tell_light context _ _ _
    · exact .of_host rfl rfl rfl rfl rfl rfl List.prefix_rfl rfl
  case recordingData.binary offset data =>
    exact Or.inl (stays (.of_host rfl rfl rfl rfl rfl rfl (Recording.addChunk_grows _ _) rfl))
  all_goals exact Or.inl (stays (.of_host rfl rfl rfl rfl rfl rfl List.prefix_rfl rfl))

/-- What a message from a fork does: it brings an output, or leaves alone what threads share. -/
theorem dispatchFork_light_or (context : Context) (main : Bool) (message : Message) :
    (context.dispatchFork main message).Light context ∨
    ∃ id output records, context.dispatchFork main message =
      { context := { context with calls := context.calls.insert id output }, records } := by
  unfold dispatchFork
  split
  · exact Or.inl (.of_host rfl rfl rfl rfl rfl rfl List.prefix_rfl rfl)
  · exact Or.inl (.of_host rfl rfl rfl rfl rfl rfl List.prefix_rfl rfl)
  · split
    · exact Or.inl (.of_host rfl rfl rfl rfl rfl rfl List.prefix_rfl rfl)
    · exact Or.inr ⟨_, _, _, rfl⟩
  · exact Or.inl (tell_light context _ _ _)
  · left
    split <;> exact .of_host rfl rfl rfl rfl rfl rfl List.prefix_rfl rfl
  · exact Or.inl (.of_host rfl rfl rfl rfl rfl rfl List.prefix_rfl rfl)
  · exact Or.inl (.of_host rfl rfl rfl rfl rfl rfl List.prefix_rfl rfl)

/-- The first look at a message ends the child, or leads to a look under the lock at most. -/
theorem handle_light_or (context : Context) (message : Message) :
    (context.handle message).Light context ∨
    ∃ inner, context.handle message = context.followedBy [.enterRead, inner, .leaveRead] ∧
      (inner = .dispatch message ∧ message.fork = context.fork ∨ inner = .passOn message) := by
  unfold handle
  split
  · rename_i own
    split
    · exact Or.inl ⟨rfl, rfl, Host.note_style _ _, Host.note_scripts _ _, Host.note_tasks _ _, rfl,
        rfl, rfl, List.prefix_rfl, rfl⟩
    · exact Or.inl (.of_host rfl rfl rfl rfl rfl rfl List.prefix_rfl rfl)
    · exact Or.inr ⟨_, rfl, Or.inl ⟨rfl, own⟩⟩
  · exact Or.inr ⟨_, rfl, Or.inr rfl⟩

end Context

end Playback
