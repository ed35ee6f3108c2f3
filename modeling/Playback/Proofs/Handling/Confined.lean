import Playback.Proofs.Handling.Runs
import Playback.Proofs.Lock.Standing

set_option autoImplicit false

namespace Playback

/-- The child with another table of forks. -/
def Context.withForks (context : Context) (forks : ForkTable Nat) : Context :=
  { context with forks }

def Outcome.withForks (outcome : Outcome) (forks : ForkTable Nat) : Outcome :=
  { outcome with context := outcome.context.withForks forks }

/-- An action that a process takes for a message of its own. Only a plain host runs a manifest as
soon as it starts. -/
def Action.inward (fork : UInt32) (style : HostStyle) : Action → Bool
  | .handle message => message.fork = fork
  | .runManifest _ => style = .plain
  | .enterRead | .leaveRead | .dispatch _ | .startManifest _ | .conclude _ | .sendFinished _ _
  | .finishManifest | .fetchOrReport | .reportFatal _ | .sendFatal _ | .halt | .answer _ => true
  | _ => false

/-- The child stays the one that it is, and what is still to be done is its own affair. -/
structure Outcome.Inward (context : Context) (outcome : Outcome) : Prop where
  fork : outcome.context.fork = context.fork
  style : outcome.context.host.style = context.host.style
  next : outcome.next.all (Action.inward context.fork context.host.style) = true

namespace Context

variable {context : Context} {main : Bool} {disk : Disk} {value : Reply} {action : Action}
  {outcome : Outcome}

/-- An action of the child itself, which does the same whatever its fork table. -/
def Indifferent (context : Context) (act : Context → Outcome) : Prop :=
  (act context).Inward context ∧
    ∀ forks, act (context.withForks forks) = (act context).withForks forks

theorem introduce_indifferent (context : Context) (content : Introduction) :
    context.Indifferent fun context => context.introduce content := by
  have same (forks : ForkTable Nat) :
      (context.withForks forks).introduction = context.introduction := rfl
  cases known : context.introduction <;> simp only [Indifferent, introduce, same, known]
  · exact ⟨⟨rfl, rfl, rfl⟩, fun _ => rfl⟩
  · exact ⟨⟨rfl, rfl, rfl⟩, fun _ => rfl⟩

theorem dispatch_indifferent (context : Context) (message : Message) :
    context.Indifferent fun context => context.dispatch main message := by
  unfold dispatch
  generalize message.kind = kind, message.payload = payload
  -- As in the case of the manifests, the match is split by its arguments.
  cases kind <;> cases payload <;> try exact ⟨⟨rfl, rfl, rfl⟩, fun _ => rfl⟩
  case introduction.introduction content => exact introduce_indifferent context content
  case createCheckpoint.empty =>
    have same (forks : ForkTable Nat) :
        (context.withForks forks).isRecording = context.isRecording := rfl
    cases records : context.isRecording <;> simp only [Indifferent, same, records]
    · exact ⟨⟨rfl, rfl, rfl⟩, fun _ => rfl⟩
    · exact ⟨⟨rfl, Host.note_style _ _, rfl⟩, fun _ => rfl⟩
  case manifestStart.binary tag manifest =>
    refine ⟨⟨rfl, rfl, ?_⟩, fun _ => rfl⟩
    dsimp only
    cases (context.manifests.push manifest).1 <;> rfl

theorem handle_indifferent {message : Message} (own : message.fork = context.fork) :
    context.Indifferent fun context => context.handle message := by
  have same (forks : ForkTable Nat) : (context.withForks forks).fork = context.fork := rfl
  simp only [Indifferent, handle, own, same, if_true]
  cases message.kind
  case terminate => exact ⟨⟨rfl, Host.note_style _ _, rfl⟩, fun _ => rfl⟩
  case crash => exact ⟨⟨rfl, rfl, rfl⟩, fun _ => rfl⟩
  all_goals exact ⟨⟨rfl, rfl, rfl⟩, fun _ => rfl⟩

theorem startManifest_indifferent (context : Context) (manifest : Bytes) :
    context.Indifferent fun context => context.startManifest manifest := by
  have same (forks : ForkTable Nat) : (context.withForks forks).host = context.host := rfl
  cases style : context.host.style <;> simp only [Indifferent, Context.startManifest, same, style]
  case plain => exact ⟨⟨rfl, rfl, by rw [style]; rfl⟩, fun _ => rfl⟩
  all_goals exact ⟨⟨rfl, Host.note_style _ _, rfl⟩, fun _ => rfl⟩

theorem runManifest_indifferent (plain : context.host.style = .plain) (manifest : Bytes) :
    context.Indifferent fun context => context.runManifest manifest := by
  have same (forks : ForkTable Nat) : (context.withForks forks).host = context.host := rfl
  simp only [Indifferent, Context.runManifest, same, plain]
  exact ⟨⟨rfl, rfl, rfl⟩, fun _ => rfl⟩

theorem finishManifest_indifferent (context : Context) :
    context.Indifferent fun context => context.finishManifest := by
  refine ⟨⟨rfl, rfl, ?_⟩, fun _ => rfl⟩
  unfold Context.finishManifest
  dsimp only
  cases context.manifests.finish.1 <;> rfl

theorem reportFatal_indifferent (context : Context) (text : String) :
    context.Indifferent fun context => context.reportFatal text := by
  have same (forks : ForkTable Nat) : (context.withForks forks).exiting = context.exiting := rfl
  cases exits : context.exiting <;> simp only [Indifferent, reportFatal, same, exits]
  · exact ⟨⟨rfl, rfl, rfl⟩, fun _ => rfl⟩
  · exact ⟨⟨rfl, rfl, rfl⟩, fun _ => rfl⟩

theorem fetchAnd_indifferent (context : Context) (text : Failure → String) :
    context.Indifferent fun context => context.fetchAnd disk fun failure =>
      context.followedBy [.reportFatal (text failure)] := by
  have same (forks : ForkTable Nat) : (context.withForks forks).config = context.config := rfl
  have path (forks : ForkTable Nat) (name : String) :
      (context.withForks forks).offlinePath name = context.offlinePath name := rfl
  unfold Indifferent fetchAnd
  cases named : context.config.recordingName with
  | none =>
    simp only [fetch, same, named]
    exact ⟨⟨rfl, rfl, rfl⟩, fun _ => rfl⟩
  | some name =>
    cases found : context.offlinePath name with
    | error failure =>
      simp only [fetch, same, named, path, found]
      exact ⟨⟨rfl, rfl, rfl⟩, fun _ => rfl⟩
    | ok file =>
      have bytes (forks : ForkTable Nat) :
          (context.withForks forks).recording = context.recording := rfl
      simp only [fetch, same, named, path, found, bytes]
      cases (context.recording.load disk file).1 <;> exact ⟨⟨rfl, rfl, rfl⟩, fun _ => rfl⟩

/-- What a process does for a message of its own neither looks at the fork table nor changes
it. -/
theorem step_inward (inward : action.inward context.fork context.host.style = true)
    (taken : context.step main value disk action = some outcome) :
    outcome.Inward context ∧ ∀ forks,
      (context.withForks forks).step main value disk action = some (outcome.withForks forks) := by
  have certain (act : Context → Outcome) (indifferent : context.Indifferent act) :
      (act context).Inward context ∧ ∀ forks,
        some (act (context.withForks forks)) = some ((act context).withForks forks) :=
    ⟨indifferent.1, fun forks => congrArg some (indifferent.2 forks)⟩
  cases action with
  | handle message =>
    cases taken
    exact certain _ (handle_indifferent (of_decide_eq_true inward))
  | dispatch message =>
    cases taken
    exact certain _ (dispatch_indifferent context message)
  | startManifest manifest =>
    cases taken
    exact certain _ (startManifest_indifferent context manifest)
  | runManifest manifest =>
    cases taken
    exact certain _ (runManifest_indifferent (of_decide_eq_true inward) manifest)
  | finishManifest =>
    cases taken
    exact certain _ (finishManifest_indifferent context)
  | reportFatal text =>
    cases taken
    exact certain _ (reportFatal_indifferent context text)
  | fetchOrReport =>
    cases taken
    exact certain _ (fetchAnd_indifferent context _)
  | enterRead =>
    obtain ⟨lock, entered, rfl⟩ := Option.map_eq_some_iff.mp taken
    exact ⟨⟨rfl, rfl, rfl⟩, fun forks => congrArg (Option.map _) entered⟩
  | halt =>
    have same (forks : ForkTable Nat) : (context.withForks forks).host = context.host := rfl
    cases style : context.host.style <;> simp only [step, halt, style] at taken <;> cases taken
    all_goals
      simp only [step, halt, same, style]
      exact ⟨⟨rfl, Host.note_style _ _, rfl⟩, fun _ => rfl⟩
  | leaveRead | sendFinished output bulk | sendFatal text | answer reply | conclude manifest =>
    cases taken
    exact ⟨⟨rfl, rfl, rfl⟩, fun _ => rfl⟩
  | _ => cases inward

end Context

section
variable {main : Bool} {disk : Disk} {context last : Context} {value : Reply}
  {program : Program} {effects : List Effect}

/-- The same holds of a whole run. -/
theorem Runs.inward (run : Runs Eq main disk context value program effects last)
    (inward : program.all (Action.inward context.fork context.host.style) = true) :
    last.fork = context.fork ∧ ∀ forks, Runs Eq main disk (context.withForks forks) value
      program effects (last.withForks forks) := by
  induction run with
  | done value meanwhile =>
    cases meanwhile
    exact ⟨rfl, fun forks => .done value rfl⟩
  | @acts context between last value action rest outcome effects meanwhile taken goes ih =>
    cases meanwhile
    rw [List.all_cons, Bool.and_eq_true] at inward
    obtain ⟨first, others⟩ := inward
    obtain ⟨stays, same⟩ := Context.step_inward first taken
    have behind : (outcome.next ++ rest).all
        (Action.inward outcome.context.fork outcome.context.host.style) = true := by
      rw [stays.fork, stays.style, List.all_append, stays.next, others]
      rfl
    obtain ⟨fork, again⟩ := ih behind
    refine ⟨fork.trans stays.fork, fun forks => ?_⟩
    have goes := Runs.acts rfl (same forks) (again forks)
    exact goes

/-- A message for another process is routed by a root and changes nothing in anybody else. -/
theorem Runs.foreign {message : Message}
    (run : Runs Eq main disk context value (Program.handle message) effects last)
    (foreign : message.fork ≠ context.fork) :
    (context.isRoot = true ∧ effects = (context.forks.route message).1.sends message ∧
      last = context.withForks (context.forks.route message).2) ∨
    (context.isRoot = false ∧ effects = [] ∧ last = context) := by
  have looks : context.step main value disk (.handle message) =
      some (context.followedBy [.enterRead, .passOn message, .leaveRead]) :=
    congrArg some (if_neg foreign)
  obtain ⟨_, rfl, looked⟩ := run.of_step looks
  obtain ⟨_, _, _, rfl, enters, rfl, entered⟩ := looked.of_cons
  obtain ⟨inside, word, rfl⟩ := Option.map_eq_some_iff.mp enters
  have same : inside.leave = context.lock := LockWord.leave_of_enter? word
  cases root : context.isRoot with
  | true =>
    have routes : ({ context with lock := inside } : Context).step main value disk
        (.passOn message) = some _ := congrArg some ((if_pos root).trans (Context.route_eq _ _))
    obtain ⟨_, rfl, passed⟩ := entered.of_step routes
    obtain ⟨_, rfl, left⟩ := passed.of_step rfl
    obtain ⟨_, rfl, answered⟩ := left.of_step rfl
    obtain ⟨rfl, rfl⟩ := answered.of_nil
    refine Or.inl ⟨rfl, List.append_nil _, ?_⟩
    exact congrArg
      (fun lock => { context.withForks (context.forks.route message).2 with lock }) same
  | false =>
    have drops : ({ context with lock := inside } : Context).step main value disk
        (.passOn message) = some _ := congrArg some (if_neg (root ▸ Bool.false_ne_true))
    obtain ⟨_, rfl, passed⟩ := entered.of_step drops
    obtain ⟨_, rfl, left⟩ := passed.of_step rfl
    obtain ⟨_, rfl, answered⟩ := left.of_step rfl
    obtain ⟨rfl, rfl⟩ := answered.of_nil
    exact Or.inr ⟨rfl, rfl, congrArg (fun lock => { context with lock }) same⟩

/-- A run on a message of one's own leaves the fork table as it is. -/
theorem Runs.own {message : Message}
    (run : Runs Eq main disk context value (Program.handle message) effects last)
    (own : message.fork = context.fork) :
    last.fork = context.fork ∧ last.forks = context.forks ∧
      ∀ forks, Runs Eq main disk (context.withForks forks) value (Program.handle message) effects
        (last.withForks forks) := by
  obtain ⟨fork, again⟩ := run.inward (by simp [Program.handle, Program.quietly, Action.inward, own])
  have same : last.withForks context.forks = last := (run.unique (again context.forks)).2
  exact ⟨fork, (congrArg Context.forks same).symm, again⟩

end

namespace Hears

variable {context last : Context} {heard : List Heard}

/-- Without the messages for others a process does the same, on any fork table. -/
theorem own_alone (hears : Hears Eq Program.handle context heard last) (forks : ForkTable Nat) :
    Hears Eq Program.handle (context.withForks forks) (heard.filter (Heard.isFor context.fork))
      (last.withForks forks) := by
  induction hears with
  | nothing context => exact .nothing _
  | @next context between last one rest handled later ih =>
    by_cases own : one.message.fork = context.fork
    · obtain ⟨fork, -, again⟩ := handled.own own
      rw [fork] at ih
      rw [List.filter_cons_of_pos (show one.isFor context.fork = true from decide_eq_true own)]
      exact .next (again forks) ih
    · rw [List.filter_cons_of_neg (by simpa [Heard.isFor] using own)]
      rcases handled.foreign own with ⟨-, -, rfl⟩ | ⟨-, -, rfl⟩
      · exact ih
      · exact ih

/-- The messages for others in a root, and in anybody else. -/
theorem others_routed (hears : Hears Eq Program.handle context heard last) :
    let foreign := heard.filter (!Heard.isFor context.fork ·)
    (context.isRoot = true →
      context.forks.feed (foreign.map Heard.message) = (foreign.map Heard.effects, last.forks)) ∧
    (context.isRoot = false → last.forks = context.forks ∧ ∀ one ∈ foreign, one.effects = []) := by
  intro foreign
  induction hears with
  | nothing context => exact ⟨fun _ => rfl, fun _ => ⟨rfl, List.forall_mem_nil _⟩⟩
  | @next context between last one rest handled later ih =>
    by_cases own : one.message.fork = context.fork
    · obtain ⟨fork, forks, -⟩ := handled.own own
      have skipped : foreign = rest.filter (!Heard.isFor between.fork ·) := by
        rw [fork]
        exact List.filter_cons_of_neg (by simpa [Heard.isFor] using own)
      rw [skipped, ← forks, Context.isRoot, ← fork]
      exact ih
    · have first : foreign = one :: rest.filter (!Heard.isFor context.fork ·) :=
        List.filter_cons_of_pos (by simpa [Heard.isFor] using own)
      rw [first]
      rcases handled.foreign own with ⟨root, effects, rfl⟩ | ⟨other, effects, rfl⟩
      · refine ⟨fun _ => ?_, fun other => ?_⟩
        · have behind := ih.1 root
          change (context.forks.route one.message).2.feed
            ((rest.filter (!Heard.isFor context.fork ·)).map Heard.message) = _ at behind
          rw [List.map_cons, List.map_cons, ForkTable.feed, behind, effects]
          rfl
        · rw [root] at other
          cases other
      · refine ⟨fun root => ?_, fun _ => ?_⟩
        · rw [other] at root
          cases root
        · obtain ⟨forks, nothing⟩ := ih.2 other
          refine ⟨forks, ?_⟩
          rw [List.forall_mem_cons]
          exact ⟨effects, nothing⟩

/-- Elements without an image need not be looked at. -/
theorem flatMap_filter_of_silent {One Image : Type} {ones : List One} {chosen : One → Bool}
    {images : One → List Image} (silent : ∀ one ∈ ones.filter (!chosen ·), images one = []) :
    ones.flatMap images = (ones.filter chosen).flatMap images := by
  induction ones with
  | nil => rfl
  | cons one ones ih =>
    by_cases own : chosen one = true
    · rw [List.filter_cons_of_neg (by simpa using own)] at silent
      rw [List.filter_cons_of_pos own, List.flatMap_cons, List.flatMap_cons, ih silent]
    · rw [List.filter_cons_of_pos (by simpa using own), List.forall_mem_cons] at silent
      rw [List.filter_cons_of_neg own, List.flatMap_cons, silent.1, ih silent.2, List.nil_append]

/-- What goes out through an endpoint that leads to no fork is what own messages make go out. -/
theorem sent_own (hears : Hears Eq Program.handle context heard last) {endpoint : Nat}
    (avoids : context.forks.Avoids endpoint) :
    heard.flatMap (Heard.sent endpoint) =
      (heard.filter (Heard.isFor context.fork)).flatMap (Heard.sent endpoint) := by
  have silent : ∀ one ∈ heard.filter (!Heard.isFor context.fork ·), one.sent endpoint = [] := by
    intro one there
    obtain ⟨fed, quiet⟩ := hears.others_routed
    cases root : context.isRoot with
    | true =>
      have sent := (avoids.feed ((heard.filter (!Heard.isFor context.fork ·)).map Heard.message)).2
      rw [fed root] at sent
      exact List.filterMap_eq_nil_iff.mpr (sent one.effects (List.mem_map_of_mem there))
    | false =>
      rw [Heard.sent, (quiet root).2 one there]
      rfl
  exact flatMap_filter_of_silent silent

/-- Messages for other processes do not reach a process. Its own messages alone would have been
handled with the same effects, one by one, and would have left it as it is, its fork table apart;
and there is no other way in which they could have been handled. In a root the others are routed,
each once and in order, and in any other process they do nothing at all. So what goes out through
an endpoint that leads to no fork goes out for messages of the process's own. -/
theorem confined (hears : Hears Eq Program.handle context heard last) :
    let own := heard.filter (Heard.isFor context.fork)
    let foreign := heard.filter (!Heard.isFor context.fork ·)
    Hears Eq Program.handle context own { last with forks := context.forks } ∧
    (∀ again other, Hears Eq Program.handle context again other →
      again.map Heard.given = own.map Heard.given →
      again = own ∧ other = { last with forks := context.forks }) ∧
    (context.isRoot = true →
      context.forks.feed (foreign.map Heard.message) = (foreign.map Heard.effects, last.forks)) ∧
    (context.isRoot = false →
      last.forks = context.forks ∧ ∀ one ∈ foreign, one.effects = []) ∧
    ∀ endpoint, context.forks.Avoids endpoint →
      heard.flatMap (Heard.sent endpoint) = own.flatMap (Heard.sent endpoint) := by
  intro own foreign
  have alone : Hears Eq Program.handle context own { last with forks := context.forks } :=
    hears.own_alone context.forks
  obtain ⟨fed, quiet⟩ := hears.others_routed
  refine ⟨alone, ?_, fed, quiet, fun endpoint avoids => hears.sent_own avoids⟩
  intro again other repeated same
  exact alone.unique repeated same

end Hears

/-- A root that is pinged after its fork has been told to end goes on and answers. -/
theorem ping_behind_foreign_terminate :
    let heard : List Heard :=
      [{ message := .terminate 5, effects := [.send 1 (.terminate 5)] },
        { message := .ping rootFork 3, effects := [.send 0 (.pingResponse rootFork 3 0)] }]
    Hears Eq Program.handle rootOfFive heard (rootOfFive.withForks {}) ∧
      Hears Eq Program.handle rootOfFive (heard.filter (Heard.isFor rootFork)) rootOfFive := by
  intro heard
  have ends : Runs Eq false {} rootOfFive .done (Program.handle (.terminate 5))
      [.send 1 (.terminate 5)] (rootOfFive.withForks {}) := Runs.of_run? 5 rfl
  have pings : Runs Eq false {} (rootOfFive.withForks {}) .done (Program.handle (.ping rootFork 3))
      [.send 0 (.pingResponse rootFork 3 0)] (rootOfFive.withForks {}) := Runs.of_run? 5 rfl
  have hears : Hears Eq Program.handle rootOfFive heard (rootOfFive.withForks {}) :=
    .next ends (.next pings (.nothing _))
  exact ⟨hears, hears.confined.1⟩

end Playback
