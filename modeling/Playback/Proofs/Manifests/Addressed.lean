import Playback.Context.Step
import Playback.Proofs.Lock.History

set_option autoImplicit false

namespace Playback

/-- Actions that act on a message for this process, or give scripts to a host. -/
def Action.dispatches : Action → Bool
  | .dispatch _ | .queueScript _ => true
  | _ => false

/-- An action that dispatches nothing but messages for one fork, nor do the scripts that it
queues. -/
inductive Addressed (fork : UInt32) : Action → Prop where
  | queues {steps : List Program}
      (addressed : ∀ step ∈ steps, ∀ action ∈ step, Addressed fork action) :
      Addressed fork (.queueScript steps)
  | dispatches {message : Message} (own : message.fork = fork) : Addressed fork (.dispatch message)
  | other {action : Action} (apart : action.dispatches = false) : Addressed fork action

def Host.Addressed (fork : UInt32) (host : Host) : Prop :=
  ∀ script ∈ host.scripts, ∀ step ∈ script, ∀ action ∈ step, Playback.Addressed fork action

theorem addressed_of_dispatches {fork : UInt32} {actions : Program}
    (apart : actions.all (!·.dispatches) = true) : ∀ action ∈ actions, Addressed fork action := by
  intro action there
  have idle := List.all_eq_true.mp apart action there
  exact .other (by simpa using idle)

/-- The child stays the fork that it is, and what is to be done stays addressed to it. -/
structure Outcome.Directed (context : Context) (outcome : Outcome) : Prop where
  fork : outcome.context.fork = context.fork
  host : context.host.Addressed context.fork → outcome.context.host.Addressed context.fork
  next : ∀ action ∈ outcome.next, Addressed context.fork action

theorem Outcome.Directed.of_scripts {context : Context} {outcome : Outcome}
    (fork : outcome.context.fork = context.fork)
    (scripts : outcome.context.host.scripts = context.host.scripts)
    (next : outcome.next.all (!·.dispatches) = true) : outcome.Directed context where
  fork := fork
  host := by
    intro addressed
    rw [Host.Addressed, scripts]
    exact addressed
  next := addressed_of_dispatches next

theorem addressed_of_light {fork : UInt32} {action : Action} (light : action.isLight = true) :
    Addressed fork action := by
  refine .other ?_
  cases action <;> first | rfl | cases light

theorem Outcome.Directed.of_light {context : Context} {outcome : Outcome}
    (light : outcome.Light context) : outcome.Directed context where
  fork := light.fork
  host := by
    intro addressed
    rw [Host.Addressed, light.scripts]
    exact addressed
  next := fun action member => addressed_of_light (List.all_eq_true.mp light.next action member)

namespace Context

variable {context : Context} {main : Bool} {value : Reply} {disk : Disk} {action : Action}
  {outcome : Outcome}

theorem dispatch_directed (context : Context) (main : Bool) (message : Message) :
    (context.dispatch main message).Directed context := by
  rcases context.dispatch_light_or main message with
    ⟨light, -⟩ | ⟨manifest, -, starts⟩ | ⟨_, _, _, -, answered⟩ | ⟨_, _, -, answered⟩
  · exact .of_light light
  · rw [starts]
    refine .of_scripts rfl rfl ?_
    dsimp only
    cases (context.manifests.push manifest).1 <;> rfl
  all_goals
    rw [answered]
    exact .of_scripts rfl rfl rfl

theorem dispatchFork_directed (context : Context) (main : Bool) (message : Message) :
    (context.dispatchFork main message).Directed context := by
  rcases context.dispatchFork_light_or main message with light | ⟨_, _, _, brings⟩
  · exact .of_light light
  · rw [brings]
    exact .of_scripts rfl rfl rfl

/-- Only what bears the number of the child is dispatched. -/
theorem handle_directed (context : Context) (message : Message) :
    (context.handle message).Directed context := by
  rcases context.handle_light_or message with light | ⟨inner, guarded, ⟨rfl, own⟩ | rfl⟩
  · exact .of_light light
  · rw [guarded]
    refine ⟨rfl, id, ?_⟩
    simp only [followedBy, List.forall_mem_cons]
    exact ⟨.other rfl, .dispatches own, .other rfl, List.forall_mem_nil _⟩
  · rw [guarded]
    exact .of_scripts rfl rfl rfl

/-- What a run puts in front is of the first script, or is the host's own. -/
theorem runManifest_directed (addressed : context.host.Addressed context.fork)
    (manifest : Bytes) : (context.runManifest manifest).Directed context := by
  unfold Context.runManifest
  split
  · exact .of_scripts rfl rfl rfl
  · refine ⟨rfl, ?_, ?_⟩
    · intro _ script member
      have there := List.mem_of_mem_drop member
      rw [Host.note_scripts] at there
      exact addressed script there
    · have steps := Host.forall_first_script addressed (.manifest manifest context.isPaused)
      exact List.forall_mem_append.mpr ⟨Host.forall_mem_run (.other rfl) (.other rfl) steps,
        List.forall_mem_singleton.mpr (.other rfl)⟩

theorem step_directed (addressed : Addressed context.fork action)
    (scripts : context.host.Addressed context.fork)
    (taken : context.step main value disk action = some outcome) : outcome.Directed context := by
  cases addressed with
  | queues addressed =>
    cases taken
    refine ⟨rfl, ?_, List.forall_mem_nil _⟩
    intro host script member
    rcases List.mem_append.mp member with old | new
    · exact host script old
    · rw [List.mem_singleton.mp new]
      exact addressed
  | dispatches own =>
    cases taken
    exact dispatch_directed context main _
  | other apart =>
  by_cases light : action.isLight = true
  · exact .of_light (step_light light taken)
  cases action with
  | dispatch | queueScript => cases apart
  | outside operation => cases taken
  | dispatchFork message =>
    cases taken
    exact dispatchFork_directed context main message
  | handle message =>
    cases taken
    exact handle_directed context message
  | startManifest manifest =>
    cases taken
    unfold startManifest
    split
    · exact .of_scripts rfl rfl rfl
    · exact .of_scripts rfl (Host.note_scripts _ _) rfl
  | runManifest manifest =>
    cases taken
    exact runManifest_directed scripts manifest
  | finishManifest =>
    cases taken
    refine .of_scripts rfl rfl ?_
    dsimp only [Context.finishManifest]
    cases context.manifests.finish.1 <;> rfl
  | runPending ran =>
    cases taken
    unfold runPending
    split
    · exact .of_scripts rfl rfl rfl
    · rename_i task
      obtain ⟨_, _, same⟩ := Option.map_eq_some_iff.mp task
      cases same
      exact .of_scripts rfl rfl rfl
  | runOne | serve =>
    obtain ⟨_, task, same⟩ := Option.map_eq_some_iff.mp taken
    obtain ⟨_, _, next⟩ := Option.map_eq_some_iff.mp task
    cases next
    cases same
    exact .of_scripts rfl rfl rfl
  | performFork fork awaited | lookupCall id input | performUnlessKnown id input output
  | getKey key =>
    cases taken
    dsimp only [performFork, lookupCall, performUnlessKnown, getKey]
    split <;> exact .of_scripts rfl rfl rfl
  | takeCall id =>
    obtain ⟨⟨⟨tag, output⟩, slot⟩, _, same⟩ := Option.map_eq_some_iff.mp taken
    cases same
    refine .of_scripts rfl rfl ?_
    dsimp only
    split <;> rfl
  | enterRead | claimWrite | claimCall request | claimKey request | takeKey =>
    obtain ⟨_, _, same⟩ := Option.map_eq_some_iff.mp taken
    cases same
    exact .of_scripts rfl rfl rfl
  | awaitDrained =>
    dsimp only [step] at taken
    split at taken <;> cases taken
    exact .of_scripts rfl rfl rfl
  | leaveRead | releaseWrite | handleFork | keepCall | publishCall | conclude | sendFinished
  | clearPending =>
    cases taken
    exact .of_scripts rfl rfl rfl
  | _ => exact absurd rfl light

end Context

end Playback
