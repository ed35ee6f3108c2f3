import Playback.Context.Program
import Playback.Context.Step
import Playback.Proofs.Lock.Standing

set_option autoImplicit false

namespace Playback

/-- The manifest that comes in with an action. -/
def Action.received? : Action → Option Bytes
  | .dispatch message => message.manifest?
  | _ => none

/-- Actions by which a manifest is brought on its way, and others by which manifests would get
lost or scripts be given to a host. -/
def Action.serves : Action → Bool
  | .startManifest _ | .runManifest _ | .conclude _ | .sendFinished _ _ | .finishManifest
  | .clearPending | .queueScript _ => true
  | _ => false

/-- An action that brings no manifest on its way, nor do the scripts that it queues. -/
inductive Calm : Action → Prop where
  | queues {steps : List Program} (calm : ∀ step ∈ steps, ∀ action ∈ step, Calm action) :
      Calm (.queueScript steps)
  | other {action : Action} (apart : action.serves = false) : Calm action

/-- Every action of every script of a host is calm. -/
def Host.Calm (host : Host) : Prop :=
  ∀ script ∈ host.scripts, ∀ step ∈ script, ∀ action ∈ step, Playback.Calm action

theorem calm_of_serves {actions : Program} (apart : actions.all (!·.serves) = true) :
    ∀ action ∈ actions, Calm action := by
  intro action there
  have idle := List.all_eq_true.mp apart action there
  exact .other (by simpa using idle)

theorem Host.calm_of_all {host : Host}
    (idle : host.scripts.all (fun script => script.all fun step => step.all (!·.serves)) = true) :
    host.Calm := by
  intro script member step inside
  exact calm_of_serves (List.all_eq_true.mp (List.all_eq_true.mp idle _ member) _ inside)

/-- An action leaves the manifests and the tasks as they are, and what it puts in front is calm. -/
structure Outcome.Idle (context : Context) (outcome : Outcome) : Prop where
  manifests : outcome.context.manifests = context.manifests
  tasks : outcome.context.host.tasks = context.host.tasks
  host : context.host.Calm → outcome.context.host.Calm
  next : ∀ action ∈ outcome.next, Calm action

theorem Outcome.Idle.of_scripts {context : Context} {outcome : Outcome}
    (manifests : outcome.context.manifests = context.manifests)
    (tasks : outcome.context.host.tasks = context.host.tasks)
    (scripts : outcome.context.host.scripts = context.host.scripts)
    (next : outcome.next.all (!·.serves) = true) : outcome.Idle context where
  manifests := manifests
  tasks := tasks
  host := by
    intro calm
    rw [Host.Calm, scripts]
    exact calm
  next := calm_of_serves next

/-- What a calm action may do. -/
inductive Outcome.CalmStep (context : Context) (action : Action) (outcome : Outcome) : Prop where
  | stays (idle : outcome.Idle context) (nothing : action.received? = none)
  /-- A manifest comes in. -/
  | receives {manifest : Bytes} (arrives : action.received? = some manifest)
      (manifests : outcome.context.manifests = (context.manifests.push manifest).2)
      (host : outcome.context.host = context.host)
      (next : outcome.next =
        ((context.manifests.push manifest).1.map .startManifest).toList)
  /-- The first task is taken. -/
  | takes {manifest : Bytes} {tasks : List Bytes} {later : Program}
      (first : context.host.tasks.tasks = manifest :: tasks)
      (manifests : outcome.context.manifests = context.manifests)
      (left : outcome.context.host.tasks.tasks = tasks)
      (scripts : outcome.context.host.scripts = context.host.scripts)
      (next : outcome.next = .runManifest manifest :: later)
      (calm : ∀ action ∈ later, Calm action) (nothing : action.received? = none)

/-- A light action brings no manifest on its way. -/
theorem calm_of_light {action : Action} (light : action.isLight = true) : Calm action := by
  refine .other ?_
  cases action <;> first | rfl | cases light

theorem Outcome.Idle.of_light {context : Context} {outcome : Outcome}
    (light : outcome.Light context) : outcome.Idle context where
  manifests := light.manifests
  tasks := light.tasks
  host := by
    intro calm
    rw [Host.Calm, light.scripts]
    exact calm
  next := fun action member => calm_of_light (List.all_eq_true.mp light.next action member)

namespace Context

variable {context : Context} {outcome : Outcome}

theorem dispatch_calm (context : Context) (main : Bool) (message : Message) :
    (context.dispatch main message).CalmStep context (.dispatch message) := by
  rcases context.dispatch_light_or main message with
    ⟨light, nothing⟩ | ⟨manifest, arrives, starts⟩ | ⟨_, _, _, nothing, answered⟩ |
    ⟨_, _, nothing, answered⟩
  · exact .stays (.of_light light) nothing
  · rw [starts]
    exact .receives arrives rfl rfl rfl
  all_goals
    rw [answered]
    exact .stays (.of_scripts rfl rfl rfl rfl) nothing

theorem dispatchFork_idle (context : Context) (main : Bool) (message : Message) :
    (context.dispatchFork main message).Idle context := by
  rcases context.dispatchFork_light_or main message with light | ⟨_, _, _, brings⟩
  · exact .of_light light
  · rw [brings]
    exact .of_scripts rfl rfl rfl rfl

theorem handle_idle (context : Context) (message : Message) :
    (context.handle message).Idle context := by
  rcases context.handle_light_or message with light | ⟨inner, guarded, ⟨rfl, -⟩ | rfl⟩
  · exact .of_light light
  all_goals
    rw [guarded]
    exact .of_scripts rfl rfl rfl rfl

theorem nextTask?_takes {next : Context} {manifest : Bytes}
    (task : context.nextTask? = some (manifest, next)) :
    context.host.tasks.tasks = manifest :: next.host.tasks.tasks ∧
      next.manifests = context.manifests ∧ next.host.scripts = context.host.scripts := by
  obtain ⟨⟨first, tasks⟩, taken, same⟩ := Option.map_eq_some_iff.mp task
  cases same
  unfold TaskQueue.next? at taken
  split at taken <;> cases taken
  rename_i there
  exact ⟨there, rfl, rfl⟩

/-- A manifest is run at once, or waits among the tasks. -/
theorem startManifest_cases (context : Context) (manifest : Bytes) :
    context.startManifest manifest = context.followedBy [.runManifest manifest] ∨
      (context.startManifest manifest).next = [] ∧
      (context.startManifest manifest).context.manifests = context.manifests ∧
      (context.startManifest manifest).context.host.tasks = context.host.tasks.push manifest ∧
      (context.startManifest manifest).context.host.scripts = context.host.scripts := by
  unfold Context.startManifest
  split
  · exact Or.inl rfl
  · refine Or.inr ⟨rfl, rfl, ?_, Host.note_scripts _ _⟩
    dsimp only
    rw [Host.note_tasks]

/-- What a host does for a manifest before the run is over. -/
theorem runManifest_eq {context : Context} (calm : context.host.Calm) (manifest : Bytes) :
    ∃ script, (context.runManifest manifest).next = script ++ [.conclude manifest] ∧
      (∀ action ∈ script, Calm action) ∧
      (context.runManifest manifest).context.manifests = context.manifests ∧
      (context.runManifest manifest).context.host.tasks = context.host.tasks ∧
      (context.runManifest manifest).context.host.Calm := by
  unfold Context.runManifest
  split
  · exact ⟨[], rfl, List.forall_mem_nil _, rfl, rfl, calm⟩
  · refine ⟨_, rfl, ?_, rfl, Host.note_tasks _ _, ?_⟩
    · exact Host.forall_mem_run (.other rfl) (.other rfl)
        (Host.forall_first_script calm (.manifest manifest context.isPaused))
    · intro script member
      have there := List.mem_of_mem_drop member
      rw [Host.note_scripts] at there
      exact calm script there

/-- A calm action. -/
theorem step_calm {main : Bool} {value : Reply} {disk : Disk} {action : Action}
    (calm : Calm action) (taken : context.step main value disk action = some outcome) :
    outcome.CalmStep context action := by
  cases calm with
  | queues calm =>
    cases taken
    refine .stays ⟨rfl, rfl, ?_, List.forall_mem_nil _⟩ rfl
    intro host script member
    rcases List.mem_append.mp member with old | new
    · exact host script old
    · rw [List.mem_singleton.mp new]
      exact calm
  | other apart =>
  by_cases light : action.isLight = true
  · exact .stays (.of_light (step_light light taken)) (by cases action <;> first | rfl | cases light)
  cases action with
  | startManifest | runManifest | conclude | sendFinished | finishManifest | clearPending
  | queueScript => cases apart
  | outside operation => cases taken
  | dispatch message =>
    cases taken
    exact dispatch_calm context main message
  | runPending ran =>
    cases taken
    unfold runPending
    split
    · exact .stays (.of_scripts rfl rfl rfl rfl) rfl
    · rename_i task
      obtain ⟨first, manifests, scripts⟩ := nextTask?_takes task
      exact .takes first manifests rfl scripts rfl (calm_of_serves rfl) rfl
  | runOne | serve =>
    obtain ⟨⟨manifest, next⟩, task, same⟩ := Option.map_eq_some_iff.mp taken
    cases same
    obtain ⟨first, manifests, scripts⟩ := nextTask?_takes task
    exact .takes first manifests rfl scripts rfl (calm_of_serves rfl) rfl
  | handle message =>
    cases taken
    exact .stays (handle_idle context message) rfl
  | dispatchFork message =>
    cases taken
    exact .stays (dispatchFork_idle context main message) rfl
  | performFork fork awaited | lookupCall id input | performUnlessKnown id input output
  | getKey key =>
    cases taken
    refine .stays ?_ rfl
    dsimp only [performFork, lookupCall, performUnlessKnown, getKey]
    split <;> exact .of_scripts rfl rfl rfl rfl
  | takeCall id =>
    obtain ⟨⟨⟨tag, output⟩, slot⟩, _, same⟩ := Option.map_eq_some_iff.mp taken
    cases same
    refine .stays (.of_scripts rfl rfl rfl ?_) rfl
    dsimp only
    split <;> rfl
  | enterRead | claimWrite | claimCall request | claimKey request | takeKey =>
    obtain ⟨_, _, same⟩ := Option.map_eq_some_iff.mp taken
    cases same
    exact .stays (.of_scripts rfl rfl rfl rfl) rfl
  | awaitDrained =>
    dsimp only [step] at taken
    split at taken <;> cases taken
    exact .stays (.of_scripts rfl rfl rfl rfl) rfl
  | leaveRead | releaseWrite | handleFork | keepCall | publishCall =>
    cases taken
    exact .stays (.of_scripts rfl rfl rfl rfl) rfl
  | _ => exact absurd rfl light

end Context

end Playback
