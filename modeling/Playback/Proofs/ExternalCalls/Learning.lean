import Playback.Proofs.ExternalCalls.Cache
import Playback.Proofs.Handling.Light

set_option autoImplicit false

namespace Playback

/-- The outputs that are known stay as they are, or one more is offered. -/
inductive ExternalCalls.Learns (calls after : ExternalCalls) : Prop where
  | same (cache : after.cache = calls.cache)
  | offered (id : CallId) (output : Bytes) (cache : after.cache = (calls.insert id output).cache)

/-- What is known stays known. -/
theorem ExternalCalls.Learns.remembers {calls after : ExternalCalls} (learns : calls.Learns after)
    {id : CallId} {output : Bytes} (known : calls.output? id = some output) :
    after.output? id = some output := by
  cases learns with
  | same cache =>
    rw [ExternalCalls.output?, cache]
    exact known
  | offered other offer cache =>
    rw [ExternalCalls.output?, cache]
    exact ExternalCalls.output?_insert_of_some offer known

namespace Context

variable {context : Context} {main : Bool} {value : Reply} {disk : Disk} {action : Action}
  {outcome : Outcome}

theorem learns_of_light (light : outcome.Light context) :
    context.calls.Learns outcome.context.calls := .same (congrArg _ light.calls)

theorem learns_dispatch (context : Context) (main : Bool) (message : Message) :
    context.calls.Learns (context.dispatch main message).context.calls := by
  rcases context.dispatch_light_or main message with
    ⟨light, -⟩ | ⟨_, -, starts⟩ | ⟨_, _, _, -, answered⟩ | ⟨_, _, -, answered⟩
  · exact learns_of_light light
  · exact .same (starts ▸ rfl)
  all_goals exact .same (answered ▸ rfl)

theorem learns_dispatchFork (context : Context) (main : Bool) (message : Message) :
    context.calls.Learns (context.dispatchFork main message).context.calls := by
  rcases context.dispatchFork_light_or main message with light | ⟨_, _, _, brings⟩
  · exact learns_of_light light
  · rw [brings]
    exact .offered _ _ rfl

theorem learns_handle (context : Context) (message : Message) :
    context.calls.Learns (context.handle message).context.calls := by
  rcases context.handle_light_or message with light | ⟨_, guarded, -⟩
  · exact learns_of_light light
  · exact .same (guarded ▸ rfl)

theorem calls_nextTask? {task : Bytes × Context} (next : context.nextTask? = some task) :
    task.2.calls = context.calls := by
  obtain ⟨_, _, same⟩ := Option.map_eq_some_iff.mp next
  cases same
  rfl

/-- No action makes a process forget an output, or know two more. -/
theorem step_learns (taken : context.step main value disk action = some outcome) :
    context.calls.Learns outcome.context.calls := by
  by_cases light : action.isLight = true
  · exact learns_of_light (step_light light taken)
  cases action with
  | dispatch message =>
    cases taken
    exact learns_dispatch context main message
  | dispatchFork message =>
    cases taken
    exact learns_dispatchFork context main message
  | handle message =>
    cases taken
    exact learns_handle context message
  | keepCall id output | publishCall id output =>
    cases taken
    exact .offered id output rfl
  | outside operation => cases taken
  | runPending ran =>
    cases taken
    unfold runPending
    split
    · exact .same rfl
    · rename_i next
      exact .same (congrArg _ (calls_nextTask? next))
  | runOne | serve =>
    obtain ⟨task, next, same⟩ := Option.map_eq_some_iff.mp taken
    cases same
    exact .same (congrArg _ (calls_nextTask? next))
  | startManifest | runManifest | performFork | performUnlessKnown | lookupCall | getKey =>
    cases taken
    dsimp only [startManifest, runManifest, performFork, performUnlessKnown, lookupCall, getKey]
    split <;> exact .same rfl
  | enterRead | claimWrite | claimCall | takeCall | claimKey | takeKey =>
    obtain ⟨_, _, same⟩ := Option.map_eq_some_iff.mp taken
    cases same
    exact .same rfl
  | awaitDrained =>
    dsimp only [step] at taken
    split at taken <;> cases taken
    exact .same rfl
  | leaveRead | releaseWrite | handleFork | conclude | sendFinished | finishManifest | clearPending
  | queueScript =>
    cases taken
    exact .same rfl
  | _ => exact absurd rfl light

end Context

end Playback
