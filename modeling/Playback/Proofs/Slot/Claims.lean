import Playback.Context.Program
import Playback.Context.Step
import Playback.Proofs.ExternalCalls.Cache
import Playback.Proofs.Lock.Standing

set_option autoImplicit false

namespace Playback

/-- What a process may ask for, with a slot for the response to each. -/
inductive Inquiry where
  | call
  | key
  deriving DecidableEq, Repr

namespace Action

/-- The action claims a slot and asks. -/
def claims : Inquiry → Action → Bool
  | .call, .claimCall _ | .key, .claimKey _ => true
  | _, _ => false

/-- The action takes a response out of its slot. -/
def takes : Inquiry → Action → Bool
  | .call, .takeCall _ | .key, .takeKey => true
  | _, _ => false

/-- Actions on the slots themselves, and the one that gives scripts to a host. -/
def reaches : Action → Bool
  | .claimCall _ | .takeCall _ | .claimKey _ | .takeKey | .queueScript _ => true
  | _ => false

end Action

/-- An action that leaves the slots to others, as do the scripts that it queues. -/
inductive Slotless : Action → Prop where
  | queues {steps : List Program} (slotless : ∀ step ∈ steps, ∀ action ∈ step, Slotless action) :
      Slotless (.queueScript steps)
  | other {action : Action} (apart : action.reaches = false) : Slotless action

def Host.Slotless (host : Host) : Prop :=
  ∀ script ∈ host.scripts, ∀ step ∈ script, ∀ action ∈ step, Playback.Slotless action

theorem slotless_of_reaches {actions : Program} (apart : actions.all (!·.reaches) = true) :
    ∀ action ∈ actions, Slotless action := by
  intro action there
  have idle := List.all_eq_true.mp apart action there
  exact .other (by simpa using idle)

theorem Slotless.claims {action : Action} (slotless : Slotless action) (inquiry : Inquiry) :
    action.claims inquiry = false ∧ action.takes inquiry = false := by
  cases slotless with
  | queues => cases inquiry <;> exact ⟨rfl, rfl⟩
  | other apart =>
    cases inquiry <;> cases action <;> first | exact ⟨rfl, rfl⟩ | cases apart

/-- An action that claims a slot takes no response. -/
theorem Action.takes_of_claims {action : Action} {inquiry : Inquiry}
    (asks : action.claims inquiry = true) (other : Inquiry) : action.takes other = false := by
  cases inquiry <;> cases action <;> first | (cases other <;> rfl) | cases asks

/-- A response is taken for one inquiry. -/
theorem Action.takes_of_ne {action : Action} {inquiry other : Inquiry}
    (waits : action.takes inquiry = true) (apart : other ≠ inquiry) :
    action.takes other = false := by
  cases inquiry <;> cases other <;>
    first | contradiction | (cases action <;> first | rfl | cases waits)

namespace Context

/-- Somebody has claimed the slot. -/
def claimed (context : Context) : Inquiry → Bool
  | .call => context.calls.slot.waiting
  | .key => context.keys.slot.waiting

/-- There is a response in the slot. -/
def answered (context : Context) : Inquiry → Bool
  | .call => context.calls.slot.response.isSome
  | .key => context.keys.slot.response.isSome

/-- Claims a slot and sends a request. -/
def claim (context : Context) (main : Bool) (request : Message) : Inquiry → Option Outcome
  | .call => context.claimCall main request
  | .key => context.claimKey main request

/-- A free slot is had at once, and the request goes out. -/
theorem claim_of_free {context : Context} {inquiry : Inquiry}
    (free : context.claimed inquiry = false) (main : Bool) (request : Message) :
    ∃ outcome, context.claim main request inquiry = some outcome ∧
      outcome.effects = context.sendEffects request := by
  cases inquiry with
  | call =>
    change context.calls.slot.waiting = false at free
    simp [claim, claimCall, Slot.claim?, free, send]
  | key =>
    change context.keys.slot.waiting = false at free
    simp [claim, claimKey, Slot.claim?, free, send]

end Context

/-- The slots stay as they are, and what comes next leaves them to others. -/
structure Outcome.Silent (context : Context) (outcome : Outcome) : Prop where
  fork : outcome.context.fork = context.fork
  calls : outcome.context.calls.slot = context.calls.slot
  keys : outcome.context.keys.slot = context.keys.slot
  host : context.host.Slotless → outcome.context.host.Slotless
  next : ∀ action ∈ outcome.next, Slotless action

theorem Outcome.Silent.of_scripts {context : Context} {outcome : Outcome}
    (fork : outcome.context.fork = context.fork)
    (calls : outcome.context.calls.slot = context.calls.slot)
    (keys : outcome.context.keys.slot = context.keys.slot)
    (scripts : outcome.context.host.scripts = context.host.scripts)
    (next : outcome.next.all (!·.reaches) = true) : outcome.Silent context where
  fork := fork
  calls := calls
  keys := keys
  host := by
    intro slotless
    rw [Host.Slotless, scripts]
    exact slotless
  next := slotless_of_reaches next

/-- There is a response only in a claimed slot. -/
def Context.Kept (context : Context) : Prop :=
  ∀ inquiry, context.answered inquiry = true → context.claimed inquiry = true

/-- No slot is claimed or freed, though a response may come in. -/
structure Outcome.Leaves (context : Context) (outcome : Outcome) : Prop where
  fork : outcome.context.fork = context.fork
  claimed : ∀ inquiry, outcome.context.claimed inquiry = context.claimed inquiry
  kept : context.Kept → outcome.context.Kept
  host : context.host.Slotless → outcome.context.host.Slotless
  next : ∀ action ∈ outcome.next, Slotless action

theorem Outcome.Silent.leaves {context : Context} {outcome : Outcome}
    (silent : outcome.Silent context) : outcome.Leaves context where
  fork := silent.fork
  claimed := by
    rintro (_ | _)
    · exact congrArg Slot.waiting silent.calls
    · exact congrArg Slot.waiting silent.keys
  kept := by
    rintro kept (_ | _) there
    · change outcome.context.calls.slot.response.isSome = true at there
      change outcome.context.calls.slot.waiting = true
      rw [silent.calls] at there ⊢
      exact kept .call there
    · change outcome.context.keys.slot.response.isSome = true at there
      change outcome.context.keys.slot.waiting = true
      rw [silent.keys] at there ⊢
      exact kept .key there
  host := silent.host
  next := silent.next

theorem Slot.waiting_deliver {Response : Type} (slot : Slot Response) (response : Response) :
    (slot.deliver response).2.waiting = slot.waiting := by
  unfold Slot.deliver
  split <;> rfl

/-- A response is let in only if somebody waits for it. -/
theorem Slot.kept_deliver {Response : Type} {slot : Slot Response}
    (kept : slot.response.isSome = true → slot.waiting = true) (response : Response) :
    (slot.deliver response).2.response.isSome = true →
      (slot.deliver response).2.waiting = true := by
  unfold Slot.deliver
  split
  · rename_i waits
    exact fun _ => (Bool.and_eq_true_iff.mp waits).1
  · exact kept

/-- What an action may do that does not reach for the slots itself. A root asks nobody for a
value. -/
inductive Outcome.SlotStep (context : Context) (outcome : Outcome) : Prop where
  | leaves (leaves : outcome.Leaves context)
  | asks {inquiry : Inquiry} {first second : Action} (asks : first.claims inquiry = true)
      (waits : second.takes inquiry = true) (other : inquiry = .key → context.isRoot = false)
      (same : outcome.context = context) (next : outcome.next = [first, second])

theorem Outcome.SlotStep.silent {context : Context} {outcome : Outcome}
    (silent : outcome.Silent context) : outcome.SlotStep context := .leaves silent.leaves

namespace Context

variable {context : Context} {main : Bool} {value : Reply} {disk : Disk} {action : Action}
  {outcome : Outcome}

theorem slotless_of_light (light : action.isLight = true) : Slotless action := by
  refine .other ?_
  cases action <;> first | rfl | cases light

theorem silent_of_light (light : outcome.Light context) : outcome.Silent context where
  fork := light.fork
  calls := congrArg ExternalCalls.slot light.calls
  keys := light.keys
  host := by
    intro slotless
    rw [Host.Slotless, light.scripts]
    exact slotless
  next := fun action member => slotless_of_light (List.all_eq_true.mp light.next action member)

theorem dispatch_slots (context : Context) (main : Bool) (message : Message) :
    (context.dispatch main message).SlotStep context := by
  rcases context.dispatch_light_or main message with
    ⟨light, -⟩ | ⟨manifest, -, starts⟩ | ⟨call, output, _, -, answered⟩ | ⟨value, _, -, answered⟩
  · exact .silent (silent_of_light light)
  · rw [starts]
    refine .silent (.of_scripts rfl rfl rfl rfl ?_)
    dsimp only
    cases (context.manifests.push manifest).1 <;> rfl
  · rw [answered]
    refine .leaves ⟨rfl, ?_, ?_, id, List.forall_mem_nil _⟩
    · rintro (_ | _)
      · exact Slot.waiting_deliver _ _
      · rfl
    · rintro kept (_ | _)
      · exact Slot.kept_deliver (kept .call) _
      · exact kept .key
  · rw [answered]
    refine .leaves ⟨rfl, ?_, ?_, id, List.forall_mem_nil _⟩
    · rintro (_ | _)
      · rfl
      · exact Slot.waiting_deliver _ _
    · rintro kept (_ | _)
      · exact kept .call
      · exact Slot.kept_deliver (kept .key) _

theorem dispatchFork_silent (context : Context) (main : Bool) (message : Message) :
    (context.dispatchFork main message).Silent context := by
  rcases context.dispatchFork_light_or main message with light | ⟨_, _, _, brings⟩
  · exact silent_of_light light
  · rw [brings]
    exact .of_scripts rfl (ExternalCalls.slot_insert _ _ _) rfl rfl rfl

theorem handle_silent (context : Context) (message : Message) :
    (context.handle message).Silent context := by
  rcases context.handle_light_or message with light | ⟨inner, guarded, ⟨rfl, -⟩ | rfl⟩
  · exact silent_of_light light
  all_goals
    rw [guarded]
    exact .of_scripts rfl rfl rfl rfl rfl

theorem startManifest_silent (context : Context) (manifest : Bytes) :
    (context.startManifest manifest).Silent context := by
  unfold Context.startManifest
  split
  · exact .of_scripts rfl rfl rfl rfl rfl
  · exact .of_scripts rfl rfl rfl (Host.note_scripts _ _) rfl

theorem runManifest_silent (slotless : context.host.Slotless) (manifest : Bytes) :
    (context.runManifest manifest).Silent context := by
  unfold Context.runManifest
  split
  · exact .of_scripts rfl rfl rfl rfl rfl
  · refine ⟨rfl, rfl, rfl, ?_, ?_⟩
    · intro slotless script member
      have there := List.mem_of_mem_drop member
      rw [Host.note_scripts] at there
      exact slotless script there
    · have steps := Host.forall_first_script slotless (.manifest manifest context.isPaused)
      exact List.forall_mem_append.mpr ⟨Host.forall_mem_run (.other rfl) (.other rfl) steps,
        List.forall_mem_singleton.mpr (.other rfl)⟩

/-- An action that does not reach for the slots. -/
theorem step_slots (slotless : Slotless action) (scripts : context.host.Slotless)
    (taken : context.step main value disk action = some outcome) : outcome.SlotStep context := by
  cases slotless with
  | queues slotless =>
    cases taken
    refine .silent ⟨rfl, rfl, rfl, ?_, List.forall_mem_nil _⟩
    intro host script member
    rcases List.mem_append.mp member with old | new
    · exact host script old
    · rw [List.mem_singleton.mp new]
      exact slotless
  | other apart =>
  by_cases light : action.isLight = true
  · exact .silent (silent_of_light (step_light light taken))
  cases action with
  | claimCall | takeCall | claimKey | takeKey | queueScript => cases apart
  | outside operation => cases taken
  | dispatch message =>
    cases taken
    exact dispatch_slots context main message
  | dispatchFork message =>
    cases taken
    exact .silent (dispatchFork_silent context main message)
  | handle message =>
    cases taken
    exact .silent (handle_silent context message)
  | startManifest manifest =>
    cases taken
    exact .silent (startManifest_silent context manifest)
  | runManifest manifest =>
    cases taken
    exact .silent (runManifest_silent scripts manifest)
  | lookupCall id input =>
    cases taken
    dsimp only [lookupCall]
    split
    · exact .silent (.of_scripts rfl rfl rfl rfl rfl)
    · exact .asks (show Action.claims .call _ = true from rfl) rfl nofun rfl rfl
  | getKey key =>
    cases taken
    dsimp only [getKey]
    split
    · exact .silent (.of_scripts rfl rfl rfl rfl rfl)
    · rename_i other
      exact .asks (show Action.claims .key _ = true from rfl) rfl
        (fun _ => by simpa using other) rfl rfl
  | publishCall id output | keepCall id output =>
    cases taken
    exact .silent (.of_scripts rfl (ExternalCalls.slot_insert _ _ _) rfl rfl rfl)
  | finishManifest =>
    cases taken
    refine .silent (.of_scripts rfl rfl rfl rfl ?_)
    dsimp only [Context.finishManifest]
    cases context.manifests.finish.1 <;> rfl
  | runPending ran =>
    cases taken
    unfold runPending
    split
    · exact .silent (.of_scripts rfl rfl rfl rfl rfl)
    · rename_i task
      obtain ⟨_, _, same⟩ := Option.map_eq_some_iff.mp task
      cases same
      exact .silent (.of_scripts rfl rfl rfl rfl rfl)
  | runOne | serve =>
    obtain ⟨_, task, same⟩ := Option.map_eq_some_iff.mp taken
    obtain ⟨_, _, next⟩ := Option.map_eq_some_iff.mp task
    cases next
    cases same
    exact .silent (.of_scripts rfl rfl rfl rfl rfl)
  | performFork fork awaited | performUnlessKnown id input output =>
    cases taken
    dsimp only [performFork, performUnlessKnown]
    split <;> exact .silent (.of_scripts rfl rfl rfl rfl rfl)
  | enterRead | claimWrite =>
    obtain ⟨_, _, same⟩ := Option.map_eq_some_iff.mp taken
    cases same
    exact .silent (.of_scripts rfl rfl rfl rfl rfl)
  | awaitDrained =>
    dsimp only [step] at taken
    split at taken <;> cases taken
    exact .silent (.of_scripts rfl rfl rfl rfl rfl)
  | leaveRead | releaseWrite | handleFork | conclude | sendFinished | clearPending =>
    cases taken
    exact .silent (.of_scripts rfl rfl rfl rfl rfl)
  | _ => exact absurd rfl light

end Context

/-- One slot is claimed or freed, and the other stays as it is. -/
structure Outcome.Switches (context : Context) (outcome : Outcome) (inquiry : Inquiry)
    (claimed : Bool) : Prop where
  fork : outcome.context.fork = context.fork
  host : outcome.context.host = context.host
  kept : context.Kept → outcome.context.Kept
  now : outcome.context.claimed inquiry = claimed
  others : ∀ other, other ≠ inquiry → outcome.context.claimed other = context.claimed other
  next : ∀ action ∈ outcome.next, Slotless action

namespace Context

variable {context : Context} {main : Bool} {value : Reply} {disk : Disk} {action : Action}
  {outcome : Outcome} {inquiry : Inquiry}

theorem step_claims (asks : action.claims inquiry = true)
    (taken : context.step main value disk action = some outcome) :
    context.claimed inquiry = false ∧ outcome.next = [] ∧
      outcome.Switches context inquiry true := by
  cases inquiry <;> cases action <;> cases asks
  case call.claimCall request =>
    obtain ⟨slot, claimed, rfl⟩ := Option.map_eq_some_iff.mp taken
    obtain ⟨free, same⟩ := Option.ite_none_left_eq_some.mp claimed
    cases same
    refine ⟨Bool.eq_false_of_not_eq_true free, rfl, rfl, rfl, ?_, rfl, ?_, List.forall_mem_nil _⟩
    · rintro kept (_ | _) there
      · cases there
      · exact kept .key there
    · rintro (_ | _) apart
      · exact absurd rfl apart
      · rfl
  case key.claimKey request =>
    obtain ⟨slot, claimed, rfl⟩ := Option.map_eq_some_iff.mp taken
    obtain ⟨free, same⟩ := Option.ite_none_left_eq_some.mp claimed
    cases same
    refine ⟨Bool.eq_false_of_not_eq_true free, rfl, rfl, rfl, ?_, rfl, ?_, List.forall_mem_nil _⟩
    · rintro kept (_ | _) there
      · exact kept .call there
      · cases there
    · rintro (_ | _) apart
      · rfl
      · exact absurd rfl apart

theorem step_takes (waits : action.takes inquiry = true)
    (taken : context.step main value disk action = some outcome) :
    context.answered inquiry = true ∧ outcome.Switches context inquiry false := by
  cases inquiry <;> cases action <;> cases waits
  case call.takeCall id =>
    obtain ⟨⟨⟨tag, output⟩, slot⟩, held, rfl⟩ := Option.map_eq_some_iff.mp taken
    obtain ⟨response, there, same⟩ := Option.map_eq_some_iff.mp held
    cases same
    refine ⟨Option.isSome_iff_exists.mpr ⟨_, there⟩, rfl, rfl, ?_, rfl, ?_, ?_⟩
    · rintro kept (_ | _) there
      · cases there
      · exact kept .key there
    · rintro (_ | _) apart
      · exact absurd rfl apart
      · rfl
    · dsimp only
      split
      · exact slotless_of_reaches rfl
      · exact List.forall_mem_nil _
  case key.takeKey =>
    obtain ⟨⟨value, slot⟩, held, rfl⟩ := Option.map_eq_some_iff.mp taken
    obtain ⟨response, there, same⟩ := Option.map_eq_some_iff.mp held
    cases same
    refine ⟨Option.isSome_iff_exists.mpr ⟨_, there⟩, rfl, rfl, ?_, rfl, ?_, List.forall_mem_nil _⟩
    · rintro kept (_ | _) there
      · exact kept .call there
      · cases there
    · rintro (_ | _) apart
      · rfl
      · exact absurd rfl apart

end Context

end Playback
