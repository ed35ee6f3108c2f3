import Playback.Context.Program
import Playback.Proofs.Handling.Light
import Playback.Proofs.Lock.Tally

set_option autoImplicit false

/- Where a thread stands with the fork lock is to be seen from what it still has to do. Actions
either take one step on the lock and nothing else, or leave it as it is and put actions in front
that come back to where the thread stood. -/
namespace Playback

/-- What an action has to do with the fork lock. -/
inductive LockUse where
  | enters
  | leaves
  | claims
  | drains
  | releases
  /-- The lock is released by what the action puts in front. -/
  | hands
  /-- The lock may be taken, and is given back. -/
  | visits
  | ignores
  /-- Nothing can be said about it. -/
  | plans
  deriving DecidableEq, Repr

/-- Where a thread stands before an action if it stands somewhere behind it. -/
def LockUse.before : LockUse → Stance → Option Stance
  | enters, .reading => some .outside
  | leaves, .outside => some .reading
  | claims, .draining => some .outside
  | drains, .writing => some .draining
  | releases, .outside => some .writing
  | hands, .outside => some .writing
  | visits, .outside => some .outside
  | ignores, stance => some stance
  | _, _ => none

@[simp] theorem LockUse.ignores_before (stance : Stance) :
    ignores.before stance = some stance := by
  cases stance <;> rfl

/-- The steps on the lock itself. -/
def LockUse.isStep : LockUse → Bool
  | enters | leaves | claims | drains | releases => true
  | hands | visits | ignores | plans => false

/-- Only a scripted host runs scripts, and does so for its tasks. -/
def LockUse.ofTask (style : HostStyle) : LockUse :=
  if style = .scripted then .visits else .ignores

theorem LockUse.ofTask_cases (style : HostStyle) :
    ofTask style = .visits ∨ ofTask style = .ignores := by
  unfold ofTask
  split
  · exact Or.inl rfl
  · exact Or.inr rfl

def Action.use (style : HostStyle) : Action → LockUse
  | .enterRead => .enters
  | .leaveRead => .leaves
  | .claimWrite => .claims
  | .awaitDrained => .drains
  | .releaseWrite => .releases
  | .outside (.duplicate _ _) => .hands
  | .handle _ | .handleFork _ | .performFork _ _ => .visits
  | .outside (.link _ _) | .outside .awaitAnnouncement | .outside (.receive _) => .visits
  | .runManifest _ | .runPending _ | .runOne | .serve => .ofTask style
  | .queueScript _ => .plans
  | _ => .ignores

/-- Where a thread stands with a program before it, if it stands somewhere behind it. -/
def standing (style : HostStyle) (last : Stance) : Program → Option Stance
  | [] => some last
  | action :: rest => (standing style last rest).bind (action.use style).before

theorem standing_append (style : HostStyle) (last : Stance) (first rest : Program) :
    standing style last (first ++ rest) =
      (standing style last rest).bind fun stance => standing style stance first := by
  induction first with
  | nil =>
    rw [List.nil_append]
    cases standing style last rest <;> rfl
  | cons action first ih =>
    rw [List.cons_append, standing, ih]
    cases standing style last rest <;> rfl

theorem standing_of_ignores {style : HostStyle} {program : Program} (last : Stance)
    (ignored : ∀ action ∈ program, action.use style = .ignores) :
    standing style last program = some last := by
  induction program with
  | nil => rfl
  | cons action program ih =>
    rw [standing, ih fun later member => ignored later (List.mem_cons_of_mem _ member),
      Option.bind_some, ignored action List.mem_cons_self, LockUse.ignores_before]

/-- A program that begins and ends outside of the lock, and uses it in order. -/
def Orderly (style : HostStyle) (program : Program) : Prop :=
  standing style .outside program = some .outside

instance (style : HostStyle) (program : Program) : Decidable (Orderly style program) :=
  inferInstanceAs (Decidable (_ = _))

theorem Orderly.append {style : HostStyle} {first rest : Program} (orderly : Orderly style first)
    (later : Orderly style rest) : Orderly style (first ++ rest) := by
  rw [Orderly, standing_append, later]
  exact orderly

/-- An action under the read side of the lock. -/
theorem orderly_guarded {style : HostStyle} {action : Action}
    (ignores : action.use style = .ignores) :
    Orderly style [.enterRead, action, .leaveRead] := by
  rw [Orderly, standing, standing, ignores]
  rfl

/-- Every step of every script of a host is orderly. -/
def Host.Scripted (host : Host) : Prop :=
  ∀ script ∈ host.scripts, ∀ step ∈ script, Orderly host.style step

/-- An action keeps the lock and its host's ways, takes nothing off the recording, and what it puts
in front of a program comes back to where the program goes on. -/
structure Outcome.Level (context : Context) (use : LockUse) (outcome : Outcome) : Prop where
  fork : outcome.context.fork = context.fork
  lock : outcome.context.lock = context.lock
  style : outcome.context.host.style = context.host.style
  scripts : outcome.context.host.scripts <:+ context.host.scripts
  recording : context.recording.contents <+: outcome.context.recording.contents
  next : ∀ stance before, use.before stance = some before →
    standing context.host.style stance outcome.next = some before

/-- An action moves a thread by one step on the lock at most, to where what it then has to do
begins. -/
structure Outcome.Ordered (context : Context) (use : LockUse) (outcome : Outcome) : Prop where
  fork : outcome.context.fork = context.fork
  style : outcome.context.host.style = context.host.style
  scripts : outcome.context.host.scripts <:+ context.host.scripts
  recording : context.recording.contents <+: outcome.context.recording.contents
  moves : ∀ stance before, use.before stance = some before →
    ∃ moved, LockStep context.lock before outcome.context.lock moved ∧
      standing context.host.style stance outcome.next = some moved

theorem Outcome.Level.ordered {context : Context} {use : LockUse} {outcome : Outcome}
    (level : outcome.Level context use) : outcome.Ordered context use := by
  refine ⟨level.fork, level.style, level.scripts, level.recording, ?_⟩
  intro stance before same
  refine ⟨before, ?_, level.next stance before same⟩
  rw [level.lock]
  exact .stays

/-- Nothing is put in front. -/
theorem Outcome.Level.quiet {context : Context} {outcome : Outcome}
    (fork : outcome.context.fork = context.fork)
    (lock : outcome.context.lock = context.lock)
    (style : outcome.context.host.style = context.host.style)
    (scripts : outcome.context.host.scripts = context.host.scripts)
    (recording : context.recording.contents <+: outcome.context.recording.contents)
    (next : outcome.next = []) : outcome.Level context .ignores := by
  refine ⟨fork, lock, style, scripts ▸ List.suffix_rfl, recording, ?_⟩
  rintro stance before same
  cases same
  rw [next]
  rfl

/-- Actions are put in front that leave the lock alone. -/
theorem Outcome.Level.followed {context : Context} {outcome : Outcome}
    (fork : outcome.context.fork = context.fork)
    (lock : outcome.context.lock = context.lock)
    (host : outcome.context.host = context.host)
    (recording : context.recording.contents <+: outcome.context.recording.contents)
    (ignored : ∀ action ∈ outcome.next, action.use context.host.style = .ignores) :
    outcome.Level context .ignores := by
  refine ⟨fork, lock, by rw [host], host ▸ List.suffix_rfl, recording, ?_⟩
  rintro stance before same
  cases same
  exact standing_of_ignores stance ignored

/-- Actions are put in front that use the lock in order. -/
theorem Outcome.Level.visits {context : Context} {outcome : Outcome}
    (fork : outcome.context.fork = context.fork)
    (lock : outcome.context.lock = context.lock)
    (style : outcome.context.host.style = context.host.style)
    (scripts : outcome.context.host.scripts <:+ context.host.scripts)
    (recording : context.recording.contents <+: outcome.context.recording.contents)
    (orderly : Orderly context.host.style outcome.next) :
    outcome.Level context .visits := by
  refine ⟨fork, lock, style, scripts, recording, ?_⟩
  rintro stance before same
  cases stance <;> cases same
  exact orderly

/-- What leaves the lock alone does so wherever a thread stands. -/
theorem Outcome.Level.toVisits {context : Context} {outcome : Outcome}
    (level : outcome.Level context .ignores) : outcome.Level context .visits :=
  .visits level.fork level.lock level.style level.scripts level.recording
    (level.next .outside .outside rfl)

namespace Host

/-- What holds of all steps of all scripts holds of those of the first one. -/
theorem forall_first_script {Holds : Program → Prop} {host : Host}
    (steps : ∀ script ∈ host.scripts, ∀ step ∈ script, Holds step) (event : HostEvent) :
    ∀ step ∈ (host.note event).scripts.headD [], Holds step := by
  rw [note_scripts]
  cases scripts : host.scripts with
  | nil => exact List.forall_mem_nil _
  | cons script others => exact steps script (scripts ▸ List.mem_cons_self)

/-- What holds of all actions of a script holds of its run with the notes between the steps. -/
theorem forall_mem_run {Holds : Action → Prop} {script : List Program}
    (answered : Holds (.answer .done)) (noted : Holds .noteStep)
    (steps : ∀ step ∈ script, ∀ action ∈ step, Holds action) :
    ∀ action ∈ script.flatMap (fun step => .answer .done :: step ++ [.noteStep]), Holds action := by
  intro action there
  obtain ⟨step, member, inside⟩ := List.mem_flatMap.mp there
  rcases List.mem_append.mp inside with front | last
  · rcases List.mem_cons.mp front with rfl | own
    · exact answered
    · exact steps step member action own
  · rw [List.mem_singleton.mp last]
    exact noted

end Host

/-- A script whose steps are orderly is orderly with the notes between them. -/
theorem orderly_script {script : List Program}
    (steps : ∀ step ∈ script, Orderly .scripted step) :
    Orderly .scripted (script.flatMap fun step => .answer .done :: step ++ [.noteStep]) := by
  have opening : Orderly .scripted [.answer .done] := rfl
  have closing : Orderly .scripted [.noteStep] := rfl
  induction script with
  | nil => rfl
  | cons step script ih =>
    have first := (opening.append (steps step List.mem_cons_self)).append closing
    exact first.append (ih fun later member => steps later (List.mem_cons_of_mem _ member))

namespace Context

/-- An action that is light leaves the lock alone, and so does what it leads to. -/
theorem use_of_light {style : HostStyle} {action : Action} (light : action.isLight = true) :
    action.use style = .ignores := by
  cases action <;> first | rfl | cases light

theorem level_of_light {context : Context} {outcome : Outcome} (light : outcome.Light context) :
    outcome.Level context .ignores := by
  refine ⟨light.fork, light.lock, light.style, light.scripts ▸ List.suffix_rfl, light.recording, ?_⟩
  rintro stance before same
  cases same
  exact standing_of_ignores stance fun action member =>
    use_of_light (List.all_eq_true.mp light.next action member)

theorem startManifest_level (context : Context) (manifest : Bytes) :
    (context.startManifest manifest).Level context .ignores := by
  unfold startManifest
  split
  · rename_i plain
    exact .followed rfl rfl rfl List.prefix_rfl
      (by simp [Action.use, LockUse.ofTask, plain, followedBy])
  · exact .quiet rfl rfl (Host.note_style _ _) (Host.note_scripts _ _) List.prefix_rfl rfl

/-- What is left to be started leaves the lock alone. -/
theorem startManifest_ignores (style : HostStyle) (start : Option Bytes) :
    ∀ action ∈ (start.map Action.startManifest).toList, action.use style = .ignores := by
  cases start <;> simp [Action.use]

theorem finishManifest_level (context : Context) :
    context.finishManifest.Level context .ignores :=
  .followed rfl rfl rfl List.prefix_rfl (startManifest_ignores _ _)

theorem runManifest_level {context : Context} (scripted : context.host.Scripted)
    (manifest : Bytes) :
    (context.runManifest manifest).Level context ((Action.runManifest manifest).use
      context.host.style) := by
  unfold runManifest
  split
  · rename_i style
    rw [Action.use, style]
    exact .followed rfl rfl rfl List.prefix_rfl (by simp [Action.use, followedBy])
  · rename_i style
    rw [Action.use, style]
    refine .visits rfl rfl (Host.note_style _ _) ?_ List.prefix_rfl ?_
    · exact (List.drop_suffix 1 _).trans ⟨[], Host.note_scripts _ _⟩
    · unfold Host.Scripted at scripted
      rw [style] at scripted ⊢
      exact (orderly_script (Host.forall_first_script scripted _)).append rfl

theorem handle_level (context : Context) (message : Message) :
    (context.handle message).Level context .visits := by
  rcases context.handle_light_or message with
    light | ⟨inner, guarded, ⟨rfl, -⟩ | rfl⟩
  · exact (level_of_light light).toVisits
  all_goals
    rw [guarded]
    exact .visits rfl rfl rfl List.suffix_rfl List.prefix_rfl (orderly_guarded rfl)

theorem dispatch_level (context : Context) (main : Bool) (message : Message) :
    (context.dispatch main message).Level context .ignores := by
  rcases context.dispatch_light_or main message with
    ⟨light, -⟩ | ⟨_, -, starts⟩ | ⟨_, _, _, -, answered⟩ | ⟨_, _, -, answered⟩
  · exact level_of_light light
  · rw [starts]
    exact .followed rfl rfl rfl List.prefix_rfl (startManifest_ignores _ _)
  all_goals
    rw [answered]
    exact .quiet rfl rfl rfl rfl List.prefix_rfl rfl

theorem dispatchFork_level (context : Context) (main : Bool) (message : Message) :
    (context.dispatchFork main message).Level context .ignores := by
  rcases context.dispatchFork_light_or main message with light | ⟨_, _, _, brings⟩
  · exact level_of_light light
  · rw [brings]
    exact .quiet rfl rfl rfl rfl List.prefix_rfl rfl

theorem nextTask?_eq_some {context next : Context} {manifest : Bytes}
    (task : context.nextTask? = some (manifest, next)) :
    next.fork = context.fork ∧ next.lock = context.lock ∧
      next.host.style = context.host.style ∧
      next.host.scripts = context.host.scripts ∧ next.recording = context.recording := by
  obtain ⟨⟨_, _⟩, _, same⟩ := Option.map_eq_some_iff.mp task
  cases same
  exact ⟨rfl, rfl, rfl, rfl, rfl⟩

/-- A task of the main thread runs before what follows it. -/
theorem task_level {context next : Context} {manifest : Bytes}
    (task : context.nextTask? = some (manifest, next)) {later : Action}
    (last : later.use context.host.style = .ofTask context.host.style ∨
      later.use context.host.style = .ignores) :
    (next.followedBy [.runManifest manifest, later]).Level context
      (.ofTask context.host.style) := by
  obtain ⟨fork, lock, style, scripts, recording⟩ := nextTask?_eq_some task
  have use : (Action.runManifest manifest).use context.host.style =
    .ofTask context.host.style := rfl
  rcases LockUse.ofTask_cases context.host.style with visits | ignores
  · rw [visits] at use last ⊢
    refine .visits fork lock style ⟨[], scripts⟩ ⟨[], by simp [followedBy, recording]⟩ ?_
    rw [Orderly, followedBy, standing, standing, use]
    rcases last with last | last <;> rw [last] <;> rfl
  · rw [ignores] at use last ⊢
    rw [or_self] at last
    refine ⟨fork, lock, style, ⟨[], scripts⟩, ⟨[], by simp [followedBy, recording]⟩, ?_⟩
    intro stance before same
    rw [followedBy, standing, standing, use, last, standing]
    cases same
    simp

/-- An action that takes no step on the lock is level. -/
theorem step_level {context : Context} {main : Bool} {value : Reply} {disk : Disk}
    {action : Action} {outcome : Outcome} (scripted : context.host.Scripted)
    (taken : context.step main value disk action = some outcome)
    (other : (action.use context.host.style).isStep = false)
    (known : action.use context.host.style ≠ .plans) :
    outcome.Level context (action.use context.host.style) := by
  by_cases light : action.isLight = true
  · rw [use_of_light light]
    exact level_of_light (step_light light taken)
  cases action with
  | enterRead | leaveRead | claimWrite | awaitDrained | releaseWrite => cases other
  | queueScript steps => exact absurd rfl known
  | outside operation => cases taken
  | handle message =>
    cases taken
    exact handle_level context message
  | handleFork message =>
    cases taken
    exact .visits rfl rfl rfl List.suffix_rfl List.prefix_rfl (orderly_guarded rfl)
  | dispatch message =>
    cases taken
    exact dispatch_level context main message
  | dispatchFork message =>
    cases taken
    exact dispatchFork_level context main message
  | startManifest manifest =>
    cases taken
    exact startManifest_level context manifest
  | runManifest manifest =>
    cases taken
    exact runManifest_level scripted manifest
  | finishManifest =>
    cases taken
    exact finishManifest_level context
  | runPending ran =>
    cases taken
    unfold runPending
    split
    · have idle : (context.answering (.count ran)).Level context .ignores :=
        .quiet rfl rfl rfl rfl List.prefix_rfl rfl
      change (context.answering (.count ran)).Level context (.ofTask context.host.style)
      rcases LockUse.ofTask_cases context.host.style with visits | ignores
      · rw [visits]
        exact idle.toVisits
      · rw [ignores]
        exact idle
    · rename_i task
      exact task_level task (Or.inl rfl)
  | runOne =>
    obtain ⟨⟨manifest, next⟩, task, same⟩ := Option.map_eq_some_iff.mp taken
    cases same
    exact task_level task (Or.inr rfl)
  | serve =>
    obtain ⟨⟨manifest, next⟩, task, same⟩ := Option.map_eq_some_iff.mp taken
    cases same
    exact task_level task (Or.inl rfl)
  | performFork fork awaited =>
    cases taken
    unfold performFork
    split
    · have refused : (context.answering (.failed (.wrongRole .performFork))).Level context
          .ignores := .quiet rfl rfl rfl rfl List.prefix_rfl rfl
      exact refused.toVisits
    · exact .visits rfl rfl rfl List.suffix_rfl List.prefix_rfl rfl
  | conclude manifest | publishCall id output =>
    cases taken
    exact .followed rfl rfl rfl List.prefix_rfl (by simp [Action.use, followedBy])
  | lookupCall id input | performUnlessKnown id input output | getKey key =>
    cases taken
    dsimp only [lookupCall, performUnlessKnown, getKey]
    split
    · exact .quiet rfl rfl rfl rfl List.prefix_rfl rfl
    · exact .followed rfl rfl rfl List.prefix_rfl (by simp [Action.use, followedBy])
  | takeCall id =>
    obtain ⟨⟨⟨tag, output⟩, slot⟩, _, same⟩ := Option.map_eq_some_iff.mp taken
    cases same
    refine .followed rfl rfl rfl List.prefix_rfl ?_
    dsimp only
    split <;> simp [Action.use]
  | claimCall request | claimKey request | takeKey =>
    obtain ⟨_, _, same⟩ := Option.map_eq_some_iff.mp taken
    cases same
    exact .quiet rfl rfl rfl rfl List.prefix_rfl rfl
  | sendFinished | clearPending | keepCall =>
    cases taken
    exact .quiet rfl rfl rfl rfl List.prefix_rfl rfl
  | _ => exact absurd rfl light

/-- What puts nothing in front ends where the step on the lock leads. -/
theorem ordered_of_step {context : Context} {use : LockUse} {outcome : Outcome}
    (fork : outcome.context.fork = context.fork) (host : outcome.context.host = context.host)
    (recording : outcome.context.recording = context.recording) (next : outcome.next = [])
    (steps : ∀ stance before, use.before stance = some before →
      LockStep context.lock before outcome.context.lock stance) :
    outcome.Ordered context use := by
  refine ⟨fork, by rw [host], ⟨[], by rw [host]; rfl⟩, ⟨[], by rw [recording, List.append_nil]⟩, ?_⟩
  intro stance before same
  refine ⟨stance, steps stance before same, ?_⟩
  rw [next]
  rfl

theorem step_ordered {context : Context} {main : Bool} {value : Reply} {disk : Disk}
    {action : Action} {outcome : Outcome} (scripted : context.host.Scripted)
    (taken : context.step main value disk action = some outcome)
    (known : action.use context.host.style ≠ .plans) :
    outcome.Ordered context (action.use context.host.style) := by
  by_cases other : (action.use context.host.style).isStep = false
  · exact (step_level scripted taken other known).ordered
  cases action with
  | enterRead =>
    obtain ⟨entered, free, same⟩ := Option.map_eq_some_iff.mp taken
    cases same
    refine ordered_of_step rfl rfl rfl rfl fun stance before same => ?_
    cases stance <;> cases same
    exact .enters free
  | leaveRead =>
    cases taken
    refine ordered_of_step rfl rfl rfl rfl fun stance before same => ?_
    cases stance <;> cases same
    exact .leaves
  | claimWrite =>
    obtain ⟨claimed, free, same⟩ := Option.map_eq_some_iff.mp taken
    cases same
    refine ordered_of_step rfl rfl rfl rfl fun stance before same => ?_
    cases stance <;> cases same
    exact .claims free
  | awaitDrained =>
    simp only [step] at taken
    split at taken <;> cases taken
    rename_i drained
    refine ordered_of_step rfl rfl rfl rfl fun stance before same => ?_
    cases stance <;> cases same
    exact .drains drained
  | releaseWrite =>
    cases taken
    refine ordered_of_step rfl rfl rfl rfl fun stance before same => ?_
    cases stance <;> cases same
    exact .releases
  | outside operation => cases taken
  | runManifest | runPending | runOne | serve =>
    refine absurd ?_ other
    rcases LockUse.ofTask_cases context.host.style with use | use <;>
      simp [Action.use, use, LockUse.isStep]
  | _ => exact absurd rfl other

end Context

end Playback
