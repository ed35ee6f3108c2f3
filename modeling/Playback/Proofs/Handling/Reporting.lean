import Playback.Proofs.Lock.Tracking
import Playback.Proofs.Manifests.InTurn

set_option autoImplicit false

namespace Playback

/-- An action that a thread may be led to by a message. Only a plain host runs a manifest as soon as
it starts. -/
def Action.isFor (message : Message) (style : HostStyle) : Action → Bool
  | .dispatch other => other = message
  | .fetchOrReport | .reportFatal _ | .halt => message.kind = .fetchRecording
  | .runManifest _ => style = .plain
  | .enterRead | .leaveRead | .startManifest _ | .conclude _ | .sendFinished _ _
  | .finishManifest | .sendFatal _ => true
  | _ => false

def Action.isHalt : Action → Bool
  | .halt => true
  | _ => false

/-- How many actions an action may lead to at most, itself among them, if nothing waits. -/
def Action.effort : Action → Nat
  | .handle _ => 8
  | .dispatch _ | .startManifest _ => 5
  | .runManifest _ | .fetchOrReport => 4
  | .conclude _ | .reportFatal _ => 3
  | _ => 1

def effort (program : Program) : Nat := (program.map Action.effort).sum

theorem effort_append (first rest : Program) : effort (first ++ rest) = effort first + effort rest := by
  rw [effort, List.map_append, List.sum_append, effort, effort]

theorem effort_cons (action : Action) (rest : Program) :
    effort (action :: rest) = action.effort + effort rest := by
  rw [effort, List.map_cons, List.sum_cons, effort]

/-- What a manifest that waits may lead to. -/
def Manifests.effort (manifests : Manifests) : Nat := 5 * manifests.pending.length

/-- The manifests that come in with an action. -/
def Action.brings (action : Action) : Nat := action.received?.toList.length

/-- The report of a fatal error, which a child that exits leaves out. -/
def Deed.reports (deed : Deed) : Prop :=
  (∃ text, deed.action = .reportFatal text) ∧ deed.context.exiting = false

namespace Manifests

/-- The manifest that is started is one that waits no more. -/
theorem startNext_pending (manifests : Manifests) :
    manifests.startNext.2.pending.length + manifests.startNext.1.toList.length =
      manifests.pending.length := by
  unfold startNext
  split
  · rename_i pending
    rw [pending]
    rfl
  · rfl

theorem push_pending (manifests : Manifests) (manifest : Bytes) :
    (manifests.push manifest).2.pending.length + (manifests.push manifest).1.toList.length =
      manifests.pending.length + 1 := by
  rw [push, startNext_pending, List.length_append, List.length_singleton]

theorem finish_pending (manifests : Manifests) :
    manifests.finish.2.pending.length + manifests.finish.1.toList.length =
      manifests.pending.length := by
  rw [finish, startNext_pending]

end Manifests

theorem effort_start (start : Option Bytes) :
    effort (start.map Action.startManifest).toList = 5 * start.toList.length := by
  cases start <;> rfl

/-- What an action leads to, and what it costs. -/
structure Outcome.Serves (context : Context) (message : Message) (action : Action)
    (outcome : Outcome) : Prop where
  next : outcome.next.all (Action.isFor message context.host.style) = true
  cost : effort outcome.next + 1 + outcome.context.manifests.effort ≤
    action.effort + context.manifests.effort + 5 * action.brings
  halts : .halt ∈ outcome.next → (∃ text, action = .reportFatal text) ∧ context.exiting = false

/-- An action that leaves the manifests alone. -/
theorem Outcome.Serves.of_same {context : Context} {message : Message} {action : Action}
    {outcome : Outcome} (same : outcome.context.manifests = context.manifests)
    (next : outcome.next.all (Action.isFor message context.host.style) = true)
    (cost : effort outcome.next < action.effort) (goes : .halt ∉ outcome.next) :
    outcome.Serves context message action where
  next := next
  cost := by
    rw [same]
    omega
  halts halts := absurd halts goes

theorem Outcome.CalmStep.pending {context : Context} {action : Action} {outcome : Outcome}
    (step : outcome.CalmStep context action) :
    outcome.context.manifests.pending.length ≤
      context.manifests.pending.length + action.brings := by
  cases step with
  | stays idle nothing => exact idle.manifests ▸ Nat.le_add_right _ _
  | @receives manifest arrives manifests host next =>
    have brings : action.brings = 1 := by
      rw [Action.brings, arrives]
      rfl
    have waits := context.manifests.push_pending manifest
    rw [manifests, brings]
    omega
  | takes first manifests left scripts next calm nothing => exact manifests ▸ Nat.le_add_right _ _

namespace Context

variable {context : Context} {main : Bool} {value : Reply} {disk : Disk} {action : Action}
  {outcome : Outcome} {message : Message}

/-- A message starts a manifest, makes the recording be read, or is done with. -/
theorem dispatch_cases (context : Context) (main : Bool) (message : Message) :
    ((context.dispatch main message).next = [] ∨
      (context.dispatch main message).next = [.fetchOrReport] ∧ message.kind = .fetchRecording) ∧
        (context.dispatch main message).context.manifests = context.manifests ∨
    ∃ manifest, message.manifest? = some manifest ∧
      (context.dispatch main message).context.manifests = (context.manifests.push manifest).2 ∧
      (context.dispatch main message).next =
        ((context.manifests.push manifest).1.map .startManifest).toList := by
  unfold dispatch Message.manifest?
  generalize message.kind = kind, message.payload = payload
  cases kind <;> cases payload <;> try exact Or.inl ⟨Or.inl rfl, rfl⟩
  case introduction.introduction content =>
    left
    change ((context.introduce content).next = [] ∨ _) ∧
      (context.introduce content).context.manifests = context.manifests
    unfold introduce
    split <;> exact ⟨Or.inl rfl, rfl⟩
  case createCheckpoint.empty =>
    left
    dsimp only
    split <;> exact ⟨Or.inl rfl, rfl⟩
  case fetchRecording.empty => exact Or.inl ⟨Or.inr ⟨rfl, rfl⟩, rfl⟩
  case manifestStart.binary tag manifest => exact Or.inr ⟨manifest, rfl, rfl, rfl⟩

theorem dispatch_serves (context : Context) (main : Bool) (message : Message) :
    (context.dispatch main message).Serves context message (.dispatch message) := by
  have five : (Action.dispatch message).effort = 5 := rfl
  rcases context.dispatch_cases main message with
    ⟨nothing | ⟨fetches, kind⟩, same⟩ | ⟨manifest, starts, pushed, next⟩
  · refine .of_same same ?_ ?_ ?_ <;> rw [nothing]
    · rfl
    · exact Nat.succ_pos 4
    · exact List.not_mem_nil
  · refine .of_same same ?_ ?_ ?_ <;> rw [fetches]
    · simp [Action.isFor, kind]
    · exact Nat.lt_succ_self 4
    · simp
  · have brings : (Action.dispatch message).brings = 1 := by
      rw [Action.brings, Action.received?, starts]
      rfl
    refine ⟨?_, ?_, ?_⟩
    · rw [next]
      cases (context.manifests.push manifest).1 <;> rfl
    · rw [next, pushed, five, brings, effort_start, Manifests.effort, Manifests.effort]
      have waits := context.manifests.push_pending manifest
      omega
    · rw [next]
      cases (context.manifests.push manifest).1 <;> simp

theorem finishManifest_serves (context : Context) (message : Message) :
    context.finishManifest.Serves context message .finishManifest := by
  refine ⟨?_, ?_, ?_⟩
  · unfold finishManifest
    dsimp only
    cases context.manifests.finish.1 <;> rfl
  · have waits := context.manifests.finish_pending
    change effort (context.manifests.finish.1.map Action.startManifest).toList + 1 +
      context.manifests.finish.2.effort ≤ 1 + context.manifests.effort + 5 * 0
    rw [effort_start, Manifests.effort, Manifests.effort]
    omega
  · unfold finishManifest
    dsimp only
    cases context.manifests.finish.1 <;> simp

theorem fetchAnd_serves (text : Failure → String) (kind : message.kind = .fetchRecording) :
    (context.fetchAnd disk fun failure => context.followedBy [.reportFatal (text failure)]).Serves
      context message .fetchOrReport := by
  obtain ⟨recording, -, same⟩ := context.fetch_recording disk
  unfold fetchAnd
  split
  · rename_i found
    rw [found] at same
    cases same
    exact .of_same rfl rfl (Nat.succ_pos 3) List.not_mem_nil
  · refine .of_same rfl ?_ (Nat.lt_succ_self 3) ?_
    · simp [followedBy, Action.isFor, kind]
    · simp [followedBy]

/-- What a thread does for a message. -/
theorem step_serves (mine : action.isFor message context.host.style = true)
    (taken : context.step main value disk action = some outcome) :
    outcome.Serves context message action := by
  cases action with
  | dispatch other =>
    cases taken
    cases of_decide_eq_true mine
    exact dispatch_serves context main message
  | finishManifest =>
    cases taken
    exact finishManifest_serves context message
  | fetchOrReport =>
    cases taken
    exact fetchAnd_serves _ (of_decide_eq_true mine)
  | reportFatal text =>
    cases taken
    unfold reportFatal
    split
    · exact .of_same rfl rfl (Nat.succ_pos 2) List.not_mem_nil
    · rename_i stays
      refine ⟨?_, Nat.le_add_right _ _, fun _ => ⟨⟨text, rfl⟩, by simpa using stays⟩⟩
      have kind : message.kind = .fetchRecording := of_decide_eq_true mine
      simp [Action.isFor, kind]
  | startManifest manifest =>
    cases taken
    unfold startManifest
    split
    · rename_i plain
      refine .of_same rfl ?_ (Nat.lt_succ_self 4) ?_
      · simp [followedBy, Action.isFor, plain]
      · simp [followedBy]
    · exact .of_same rfl rfl (Nat.succ_pos 4) List.not_mem_nil
  | runManifest manifest =>
    cases taken
    have plain : context.host.style = .plain := of_decide_eq_true mine
    unfold runManifest
    rw [plain]
    exact .of_same rfl rfl (Nat.lt_succ_self 3) (by simp [followedBy])
  | conclude manifest =>
    cases taken
    exact .of_same rfl rfl (Nat.lt_succ_self 2) (by simp [followedBy])
  | enterRead =>
    obtain ⟨_, _, same⟩ := Option.map_eq_some_iff.mp taken
    cases same
    exact .of_same rfl rfl Nat.one_pos List.not_mem_nil
  | leaveRead | sendFinished output bulk | sendFatal text =>
    cases taken
    exact .of_same rfl rfl Nat.one_pos List.not_mem_nil
  | halt =>
    dsimp only [step, halt] at taken
    split at taken <;> cases taken
    exact .of_same rfl rfl Nat.one_pos List.not_mem_nil
  | _ => cases mine

/-- The first look at a message of the child. -/
theorem handle_serves (own : message.fork = context.fork) :
    (context.handle message).Serves context message (.handle message) := by
  unfold handle
  rw [if_pos own]
  split
  · exact .of_same rfl rfl (Nat.succ_pos 7) List.not_mem_nil
  · exact .of_same rfl rfl (by decide : 1 < 8) (by simp)
  · refine .of_same rfl ?_ (Nat.lt_succ_self 7) (by simp [followedBy])
    simp [followedBy, Action.isFor]

/-- Only a halt can keep a thread from going on while nobody writes. -/
theorem step_isSome (mine : action.isFor message context.host.style = true)
    (goes : action ≠ .halt) (opened : context.lock.isWriteLocked = false) (main : Bool)
    (value : Reply) (disk : Disk) : (context.step main value disk action).isSome = true := by
  cases action with
  | halt => exact absurd rfl goes
  | enterRead =>
    change (context.lock.enter?.map _).isSome = true
    rw [LockWord.enter?, opened]
    rfl
  | _ => first | rfl | cases mine

/-- Manifests wait only where they came in. -/
theorem step_pending (taken : context.step main value disk action = some outcome) :
    outcome.context.manifests.pending.length ≤
      context.manifests.pending.length + action.brings := by
  by_cases apart : action.serves = false
  · exact (step_calm (.other apart) taken).pending
  · refine Nat.le_add_right_of_le ?_
    cases action with
    | startManifest manifest =>
      cases taken
      rcases context.startManifest_cases manifest with runs | ⟨-, same, -⟩
      · rw [runs]
        rfl
      · rw [same]
    | runManifest manifest =>
      cases taken
      unfold runManifest
      split <;> rfl
    | finishManifest =>
      cases taken
      exact Nat.le.intro context.manifests.finish_pending
    | conclude | sendFinished | clearPending | queueScript =>
      cases taken
      first | rfl | exact Nat.zero_le _
    | _ => exact absurd rfl apart

end Context

theorem Strand.take?_pending {world : World} (calm : world.Calm) {disk : Disk} {strand : Strand}
    {context : Context} {action : Action} {outcome : Outcome}
    (taken : strand.take? world disk context action = some outcome) :
    outcome.context.manifests.pending.length ≤
      context.manifests.pending.length + action.brings := by
  unfold Strand.take? at taken
  split at taken
  · rw [(calm _ context outcome taken).manifests]
    exact Nat.le_add_right _ _
  · exact context.step_pending taken

end Playback
