import Playback.Proofs.Channel.Queueing
import Playback.Proofs.Manifests.Calm
import Playback.Proofs.Manifests.Rounds

set_option autoImplicit false

namespace Playback

/-! Duties of threads -/

/-- What the first action that brings a manifest on its way does to it. -/
def inHand (todo : Program) : Option Token := todo.findSome? Action.token?

/-- A thread brings one manifest on its way at most, and reports what came of it right before it
passes on to the next. -/
inductive Duty : Program → Prop where
  | nothing : Duty []
  | calm {action : Action} {rest : Program} (calm : Calm action) (later : Duty rest) :
      Duty (action :: rest)
  | starts (manifest : Bytes) {rest : Program} (calm : ∀ action ∈ rest, Calm action) :
      Duty (.startManifest manifest :: rest)
  | runs (manifest : Bytes) {rest : Program} (calm : ∀ action ∈ rest, Calm action) :
      Duty (.runManifest manifest :: rest)
  | concludes (manifest : Bytes) {rest : Program} (calm : ∀ action ∈ rest, Calm action) :
      Duty (.conclude manifest :: rest)
  | reports (output : Bytes) (bulk : Bool) {rest : Program}
      (calm : ∀ action ∈ rest, Calm action) :
      Duty (.sendFinished output bulk :: .finishManifest :: rest)
  | finishes {rest : Program} (calm : ∀ action ∈ rest, Calm action) :
      Duty (.finishManifest :: rest)

theorem Calm.token? {action : Action} (calm : Calm action) : action.token? = none := by
  cases calm with
  | queues => rfl
  | other apart => cases action <;> first | rfl | cases apart

theorem inHand_cons (action : Action) (rest : Program) :
    inHand (action :: rest) = action.token?.or (inHand rest) := by
  rw [inHand, List.findSome?_cons]
  cases action.token? <;> rfl

theorem inHand_cons_of_calm {action : Action} (calm : Calm action) (rest : Program) :
    inHand (action :: rest) = inHand rest := by
  rw [inHand_cons, calm.token?, Option.none_or]

theorem inHand_prepend {front : Program} (calm : ∀ action ∈ front, Calm action) (rest : Program) :
    inHand (front ++ rest) = inHand rest := by
  induction front with
  | nil => rfl
  | cons action front ih =>
    obtain ⟨first, others⟩ := List.forall_mem_cons.mp calm
    rw [List.cons_append, inHand_cons_of_calm first, ih others]

theorem inHand_of_calm {todo : Program} (calm : ∀ action ∈ todo, Calm action) :
    inHand todo = none := by
  have front := inHand_prepend calm []
  rw [List.append_nil] at front
  exact front

theorem Duty.prepend {front rest : Program} (calm : ∀ action ∈ front, Calm action)
    (duty : Duty rest) : Duty (front ++ rest) := by
  induction front with
  | nil => exact duty
  | cons action front ih =>
    obtain ⟨first, others⟩ := List.forall_mem_cons.mp calm
    exact .calm first (ih others)

theorem Duty.of_calm {todo : Program} (calm : ∀ action ∈ todo, Calm action) : Duty todo := by
  have duty := Duty.nothing.prepend calm
  rwa [List.append_nil] at duty

/-- A thread that has no manifest in hand has only calm actions to take. -/
theorem Duty.calm_of_none {todo : Program} (duty : Duty todo) (empty : inHand todo = none) :
    ∀ action ∈ todo, Calm action := by
  induction duty with
  | nothing => exact List.forall_mem_nil _
  | calm calm later ih =>
    rw [inHand_cons_of_calm calm] at empty
    exact List.forall_mem_cons.mpr ⟨calm, ih empty⟩
  | _ => cases empty

/-! Histories -/

/-- What lies beyond a child does nothing to its manifests. -/
def World.Calm (world : World) : Prop :=
  ∀ operation context outcome, world operation context = some outcome → outcome.Idle context

theorem World.still_calm : World.still.Calm := by
  intro operation context outcome taken
  cases taken

theorem Strand.take?_calm {world : World} (lawful : world.Calm) {disk : Disk} {strand : Strand}
    {context : Context} {action : Action} {outcome : Outcome} (calm : Playback.Calm action)
    (taken : strand.take? world disk context action = some outcome) :
    outcome.CalmStep context action := by
  unfold Strand.take? at taken
  split at taken
  · exact .stays (lawful _ context outcome taken) rfl
  · exact Context.step_calm calm taken

namespace History

/-- Threads that begin with calm actions, in a calm world. -/
abbrev CalmMoves : History → History → Prop :=
  Moves World.Calm fun _ program => ∀ action ∈ program, Calm action

theorem calm_of_play {history next : History} {turns : List Turn}
    (idle : turns.all (fun turn => turn.program.all (!·.serves)) = true)
    (played : history.play turns = some next) : Relation.ReflTransGen CalmMoves history next := by
  refine moves_of_play World.still_calm ?_ played
  intro main program there _
  exact calm_of_serves (List.all_eq_true.mp idle _ there)

/-- The histories of a child that has no manifest and no task at first. -/
def Serving (history : History) : Prop :=
  ∃ fresh : Threads, fresh.state.manifests = {} ∧ fresh.state.host.tasks = {} ∧
    fresh.state.host.Calm ∧ fresh.waiting = [] ∧
    Relation.ReflTransGen CalmMoves { threads := fresh } history

/-- The manifests that have come in, in their order. -/
def received (history : History) : List Bytes :=
  history.deeds.filterMap fun deed => deed.action.received?

/-- What was done for manifests, oldest first. -/
def works (history : History) : List Work := history.deeds.filterMap Deed.work?

end History

/-- All places where threads and tasks have a manifest. -/
def Threads.flight (threads : Threads) : List Token :=
  threads.waiting.filterMap (fun one => inHand one.call.todo) ++
    threads.state.host.tasks.tasks.map .waits

/-- What a thread sends to report what came of a manifest. -/
def Context.finishedMessage (context : Context) (output : Bytes) (bulk : Bool) : Message :=
  if bulk then (Message.manifestFinished context.fork output).withBulk
  else Message.manifestFinished context.fork output

/-- Manifests are in turn. -/
structure InTurn (history : History) : Prop where
  host : history.threads.state.host.Calm
  duties : ∀ one ∈ history.threads.waiting, Duty one.call.todo
  balanced : Balanced history.threads.state.manifests history.threads.flight history.received
    history.works
  sent : ∀ deed ∈ history.deeds, ∀ output bulk, deed.action = .sendFinished output bulk →
    deed.outcome.effects = deed.context.sendEffects (deed.context.finishedMessage output bulk)

theorem Calm.work? {deed : Deed} (calm : Calm deed.action) : deed.work? = none := by
  have idle := calm.token?
  obtain ⟨context, thread, action, outcome⟩ := deed
  cases action <;> first | rfl | cases idle

/-- A thread among the others, with all that there is to be done. -/
theorem flight_split (context : Context) (before after : List (Waiting Strand))
    (one : Waiting Strand) :
    Threads.flight { state := context, waiting := before ++ one :: after } =
      before.filterMap (fun one => inHand one.call.todo) ++ ((inHand one.call.todo).toList ++
        (after.filterMap (fun one => inHand one.call.todo) ++
          context.host.tasks.tasks.map .waits)) := by
  rw [Threads.flight, List.filterMap_append, List.filterMap_cons, List.append_assoc]
  cases inHand one.call.todo <;> rfl

/-- A thread among the others, with what was done so far. -/
abbrev History.among (context : Context) (before : List (Waiting Strand)) (one : Waiting Strand)
    (after : List (Waiting Strand)) (deeds : List Deed) (begun : Nat) : History where
  threads := { state := context, waiting := before ++ one :: after }
  deeds := deeds
  begun := begun

section Acts

variable {context : Context} {before after : List (Waiting Strand)} {one : Waiting Strand}
  {action : Action} {rest : Program} {outcome : Outcome} {deeds : List Deed} {begun : Nat}

/-- What it takes for manifests to stay in turn when a thread acts. -/
theorem InTurn.goes (inTurn : InTurn (.among context before one after deeds begun))
    (host : outcome.context.host.Calm) (duty : Duty (outcome.next ++ rest))
    (sent : ∀ output bulk, action = .sendFinished output bulk →
      outcome.effects = context.sendEffects (context.finishedMessage output bulk))
    (balanced : Balanced outcome.context.manifests
      (Threads.flight
        { state := outcome.context
          waiting := before ++ { one with call := one.call.after outcome rest } :: after })
      (deeds.filterMap (fun deed => deed.action.received?) ++ action.received?.toList)
      (deeds.filterMap Deed.work? ++
        (Deed.work? { context, thread := one, action, outcome }).toList)) :
    InTurn (.among outcome.context before { one with call := one.call.after outcome rest } after
      (deeds ++ [{ context, thread := one, action, outcome }]) begun) := by
  refine ⟨host, ?_, ?_, ?_⟩
  · intro other there
    rcases List.mem_append.mp there with front | back
    · exact inTurn.duties other (List.mem_append_left _ front)
    · rcases List.mem_cons.mp back with same | later
      · rw [same]
        exact duty
      · exact inTurn.duties other (List.mem_append_right _ (List.mem_cons_of_mem _ later))
  · rw [History.received, History.works, List.filterMap_append, List.filterMap_append]
    have single {Value : Type} (f : Deed → Option Value) (deed : Deed) :
        [deed].filterMap f = (f deed).toList := by
      rw [List.filterMap_cons]
      cases f deed <;> rfl
    rw [single, single]
    exact balanced
  · intro deed there output bulk same
    rcases List.mem_append.mp there with old | new
    · exact inTurn.sent deed old output bulk same
    · rw [List.mem_singleton.mp new] at same ⊢
      exact sent output bulk same

/-- Where one thread has the manifest nobody else does. -/
theorem InTurn.only (inTurn : InTurn (.among context before one after deeds begun)) {token : Token}
    (hand : inHand one.call.todo = some token) :
    Balanced context.manifests [token] (deeds.filterMap fun deed => deed.action.received?)
        (deeds.filterMap Deed.work?) ∧
      context.host.tasks.tasks = [] ∧
      ∀ (changed : Context) (other : Waiting Strand),
        Threads.flight { state := changed, waiting := before ++ other :: after } =
          (inHand other.call.todo).toList ++ changed.host.tasks.tasks.map .waits := by
  have balanced := inTurn.balanced
  dsimp only at balanced
  rw [flight_split, hand, Option.toList_some, List.singleton_append] at balanced
  obtain ⟨front, behind⟩ := balanced.alone
  obtain ⟨back, tasks⟩ := List.append_eq_nil_iff.mp behind
  rw [front, behind] at balanced
  refine ⟨balanced, List.map_eq_nil_iff.mp tasks, fun changed other => ?_⟩
  rw [flight_split, front, back, List.nil_append, List.nil_append]

/-- The thread that has the manifest in hand brings it on its way. -/
theorem InTurn.brings (inTurn : InTurn (.among context before one after deeds begun))
    {token next : Token} (todo : one.call.todo = action :: rest)
    (hand : action.token? = some token)
    (manifests : outcome.context.manifests = context.manifests)
    (tasks : (inHand (outcome.next ++ rest)).toList ++
      outcome.context.host.tasks.tasks.map Token.waits = [next])
    (host : outcome.context.host.Calm) (duty : Duty (outcome.next ++ rest))
    (nothing : action.received? = none)
    (sent : ∀ output bulk, action = .sendFinished output bulk →
      outcome.effects = context.sendEffects (context.finishedMessage output bulk))
    (stage : ∀ done taken works, Processing done taken works (some token) →
      Processing done taken
        (works ++ (Deed.work? { context, thread := one, action, outcome }).toList) (some next)) :
    InTurn (.among outcome.context before { one with call := one.call.after outcome rest } after
      (deeds ++ [{ context, thread := one, action, outcome }]) begun) := by
  have own : inHand one.call.todo = some token := by
    rw [todo, inHand_cons, hand]
    rfl
  obtain ⟨balanced, -, flight⟩ := inTurn.only own
  refine inTurn.goes host duty sent ?_
  rw [flight, manifests, nothing, Option.toList_none, List.append_nil]
  change Balanced _ ((inHand (outcome.next ++ rest)).toList ++ _) _ _
  rw [tasks]
  exact balanced.moves fun done taken => stage done taken _

section Calm

variable (inTurn : InTurn (.among context before one after deeds begun))
  (todo : one.call.todo = action :: rest) (calm : Calm action) (later : Duty rest)

include calm in
theorem sends_of_calm (output : Bytes) (bulk : Bool) (same : action = .sendFinished output bulk) :
    outcome.effects = context.sendEffects (context.finishedMessage output bulk) := by
  subst same
  cases calm.token?

include inTurn todo calm later

/-- What is balanced stays so when a calm action does nothing to manifests and tasks. -/
theorem InTurn.stays (still : outcome.Idle context) (nothing : action.received? = none) :
    InTurn (.among outcome.context before { one with call := one.call.after outcome rest } after
      (deeds ++ [{ context, thread := one, action, outcome }]) begun) := by
  have idle : Deed.work? { context, thread := one, action, outcome } = none := calm.work?
  have own : inHand one.call.todo = inHand rest := by rw [todo, inHand_cons_of_calm calm]
  have same : inHand (outcome.next ++ rest) = inHand rest := inHand_prepend still.next rest
  have balanced := inTurn.balanced
  dsimp only at balanced
  rw [flight_split, own] at balanced
  refine inTurn.goes (still.host inTurn.host) (later.prepend still.next) (sends_of_calm calm) ?_
  rw [flight_split, nothing, idle, still.manifests, still.tasks, Option.toList_none,
    Option.toList_none, List.append_nil, List.append_nil]
  change Balanced _ (_ ++ ((inHand (outcome.next ++ rest)).toList ++ _)) _ _
  rw [same]
  exact balanced

/-- A manifest that comes in waits behind the one that is being processed, or is started by the
thread with which it comes. -/
theorem InTurn.receives {manifest : Bytes} (arrives : action.received? = some manifest)
    (manifests : outcome.context.manifests = (context.manifests.push manifest).2)
    (host : outcome.context.host = context.host)
    (next : outcome.next = ((context.manifests.push manifest).1.map .startManifest).toList) :
    InTurn (.among outcome.context before { one with call := one.call.after outcome rest } after
      (deeds ++ [{ context, thread := one, action, outcome }]) begun) := by
  have idle : Deed.work? { context, thread := one, action, outcome } = none := calm.work?
  have own : inHand one.call.todo = inHand rest := by rw [todo, inHand_cons_of_calm calm]
  have calmHost : outcome.context.host.Calm := host ▸ inTurn.host
  have balanced := inTurn.balanced
  dsimp only at balanced
  rw [flight_split, own] at balanced
  cases busy : context.manifests.processing with
  | true =>
    obtain ⟨push, waits⟩ := balanced.waits busy manifest
    rw [push] at manifests next
    have nothing : outcome.next = [] := next
    refine inTurn.goes calmHost (by rw [nothing]; exact later) (sends_of_calm calm) ?_
    rw [flight_split, arrives, idle, manifests, host, Option.toList_none, List.append_nil]
    change Balanced _ (_ ++ ((inHand (outcome.next ++ rest)).toList ++ _)) _ _
    rw [nothing]
    exact waits
  | false =>
    obtain ⟨push, nowhere, starts⟩ := balanced.begins busy manifest
    rw [push] at manifests next
    have start : outcome.next = [.startManifest manifest] := next
    obtain ⟨front, others⟩ := List.append_eq_nil_iff.mp nowhere
    obtain ⟨empty, others⟩ := List.append_eq_nil_iff.mp others
    obtain ⟨back, tasks⟩ := List.append_eq_nil_iff.mp others
    have empty := Option.toList_eq_nil_iff.mp empty
    refine inTurn.goes calmHost ?_ (sends_of_calm calm) ?_
    · rw [start]
      exact .starts manifest (later.calm_of_none empty)
    · have flight : Threads.flight
          { state := outcome.context
            waiting := before ++ { one with call := one.call.after outcome rest } :: after } =
          [.starts manifest] := by
        rw [flight_split, front, back, host, tasks]
        change [] ++ ((inHand (outcome.next ++ rest)).toList ++ []) = _
        rw [start]
        rfl
      rw [flight, arrives, idle, manifests, Option.toList_none, List.append_nil]
      exact starts

/-- The first task is taken, and nothing is behind it. -/
theorem InTurn.takes {manifest : Bytes} {tasks : List Bytes} {further : Program}
    (first : context.host.tasks.tasks = manifest :: tasks)
    (manifests : outcome.context.manifests = context.manifests)
    (left : outcome.context.host.tasks.tasks = tasks)
    (scripts : outcome.context.host.scripts = context.host.scripts)
    (next : outcome.next = .runManifest manifest :: further)
    (calmLater : ∀ action ∈ further, Playback.Calm action) (nothing : action.received? = none) :
    InTurn (.among outcome.context before { one with call := one.call.after outcome rest } after
      (deeds ++ [{ context, thread := one, action, outcome }]) begun) := by
  have idle : Deed.work? { context, thread := one, action, outcome } = none := calm.work?
  have own : inHand one.call.todo = inHand rest := by rw [todo, inHand_cons_of_calm calm]
  have calmHost : outcome.context.host.Calm := by
    rw [Host.Calm, scripts]
    exact inTurn.host
  have balanced := inTurn.balanced
  dsimp only at balanced
  rw [flight_split, own, first, List.map_cons, ← List.append_assoc,
    ← List.append_assoc] at balanced
  obtain ⟨nobody, last⟩ := balanced.alone
  rw [nobody, last] at balanced
  obtain ⟨firsts, back⟩ := List.append_eq_nil_iff.mp nobody
  obtain ⟨front, empty⟩ := List.append_eq_nil_iff.mp firsts
  have calmRest := later.calm_of_none (Option.toList_eq_nil_iff.mp empty)
  refine inTurn.goes calmHost ?_ (sends_of_calm calm) ?_
  · rw [next]
    exact .runs manifest (List.forall_mem_append.mpr ⟨calmLater, calmRest⟩)
  · have flight : Threads.flight
        { state := outcome.context
          waiting := before ++ { one with call := one.call.after outcome rest } :: after } =
        [.runs manifest] := by
      rw [flight_split, front, back, left, last]
      change [] ++ ((inHand (outcome.next ++ rest)).toList ++ []) = _
      rw [next]
      rfl
    rw [flight, nothing, idle, manifests, Option.toList_none, List.append_nil]
    refine balanced.moves fun done taken stage => ?_
    rw [Option.toList_none, List.append_nil]
    exact stage.runs_of_waits

/-- A calm action leaves the manifest where it is, receives one, or takes one from the tasks. -/
theorem InTurn.calmActs (step : outcome.CalmStep context action) :
    InTurn (.among outcome.context before { one with call := one.call.after outcome rest } after
      (deeds ++ [{ context, thread := one, action, outcome }]) begun) := by
  cases step with
  | stays still nothing => exact inTurn.stays todo calm later still nothing
  | receives arrives manifests host next =>
    exact inTurn.receives todo calm later arrives manifests host next
  | takes first manifests left scripts next calmLater nothing =>
    exact inTurn.takes todo calm later first manifests left scripts next calmLater nothing

end Calm

/-- A manifest that is to be started is run at once, or becomes the only task. -/
theorem InTurn.starts {manifest : Bytes}
    (inTurn : InTurn (.among context before one after deeds begun))
    (todo : one.call.todo = .startManifest manifest :: rest) (calm : ∀ action ∈ rest, Calm action)
    (taken : context.startManifest manifest = outcome) :
    InTurn (.among outcome.context before { one with call := one.call.after outcome rest } after
      (deeds ++ [{ context, thread := one, action := .startManifest manifest, outcome }])
      begun) := by
  have hand : inHand one.call.todo = some (.starts manifest) := by
    rw [todo]
    rfl
  obtain ⟨-, empty, -⟩ := inTurn.only hand
  subst taken
  rcases Context.startManifest_cases context manifest with
    runs | ⟨next, manifests, tasks, scripts⟩
  · rw [runs]
    refine @InTurn.brings _ _ _ _ _ _ _ _ _ inTurn _ (.runs manifest) todo rfl rfl ?_ inTurn.host
      (.runs manifest calm) rfl (fun _ _ other => by cases other) ?_
    · change [Token.runs manifest] ++ context.host.tasks.tasks.map .waits = _
      rw [empty]
      rfl
    · intro done taken works stage
      change Processing done taken (works ++ []) _
      rw [List.append_nil]
      exact stage.runs_of_starts
  · refine @InTurn.brings _ _ _ _ _ _ _ _ _ inTurn _ (.waits manifest) todo rfl manifests ?_ ?_ ?_
      rfl (fun _ _ other => by cases other) ?_
    · rw [next, tasks, TaskQueue.push, empty, List.nil_append, inHand_of_calm calm]
      rfl
    · rw [Host.Calm, scripts]
      exact inTurn.host
    · rw [next]
      exact .of_calm calm
    · intro done taken works stage
      change Processing done taken (works ++ []) _
      rw [List.append_nil]
      exact stage.waits_of_starts

/-- The round of a manifest is passed on, and the thread starts the next one that waits. -/
theorem InTurn.finishes (inTurn : InTurn (.among context before one after deeds begun))
    (todo : one.call.todo = .finishManifest :: rest) (calm : ∀ action ∈ rest, Calm action)
    (taken : context.finishManifest = outcome) :
    InTurn (.among outcome.context before { one with call := one.call.after outcome rest } after
      (deeds ++ [{ context, thread := one, action := .finishManifest, outcome }]) begun) := by
  have hand : inHand one.call.todo = some .finishes := by
    rw [todo]
    rfl
  obtain ⟨balanced, empty, flight⟩ := inTurn.only hand
  subst taken
  have next (start : Option Bytes) :
      Duty ((start.map Action.startManifest).toList ++ rest) ∧
        (inHand ((start.map Action.startManifest).toList ++ rest)).toList =
          (start.map Token.starts).toList := by
    cases start with
    | none => exact ⟨.of_calm calm, congrArg Option.toList (inHand_of_calm calm)⟩
    | some manifest => exact ⟨.starts manifest calm, rfl⟩
  obtain ⟨duty, token⟩ := next context.manifests.finish.1
  refine inTurn.goes inTurn.host duty (fun _ _ other => by cases other) ?_
  rw [flight]
  change Balanced context.manifests.finish.2
    ((inHand ((context.manifests.finish.1.map Action.startManifest).toList ++ rest)).toList ++
      context.host.tasks.tasks.map Token.waits) (_ ++ []) (_ ++ [Work.passed])
  rw [token, empty, List.map_nil, List.append_nil, List.append_nil]
  exact balanced.ends

theorem InTurn.acts {world : World} (lawful : world.Calm) {disk : Disk}
    (inTurn : InTurn (.among context before one after deeds begun))
    (todo : one.call.todo = action :: rest)
    (taken : one.call.take? world disk context action = some outcome) :
    InTurn (.among outcome.context before { one with call := one.call.after outcome rest } after
      (deeds ++ [{ context, thread := one, action, outcome }]) begun) := by
  have duty := inTurn.duties one (List.mem_append_right _ List.mem_cons_self)
  rw [todo] at duty
  have hand : inHand one.call.todo = inHand (action :: rest) := by rw [todo]
  cases duty with
  | calm calm later => exact inTurn.calmActs todo calm later (Strand.take?_calm lawful calm taken)
  | starts manifest calm => exact inTurn.starts todo calm (Option.some.inj taken)
  | runs manifest calm =>
    cases Option.some.inj taken
    obtain ⟨-, empty, -⟩ := inTurn.only hand
    obtain ⟨script, next, quiet, manifests, tasks, host⟩ :=
      Context.runManifest_eq inTurn.host manifest
    refine inTurn.brings todo rfl manifests ?_ host ?_ rfl
      (fun _ _ other => by cases other) fun done taken works stage => stage.concludes_of_runs
    · rw [next, tasks, empty, List.append_assoc, inHand_prepend quiet]
      rfl
    · rw [next, List.append_assoc]
      exact (Duty.concludes manifest calm).prepend quiet
  | concludes manifest calm =>
    cases Option.some.inj taken
    obtain ⟨-, empty, -⟩ := inTurn.only hand
    refine inTurn.brings todo rfl rfl ?_ inTurn.host (.reports _ _ calm) rfl
      (fun _ _ other => by cases other) fun done taken works stage => stage.reports_of_concludes
    change [Token.reports _ _] ++ context.host.tasks.tasks.map .waits = _
    rw [empty]
    rfl
  | @reports output bulk later calm =>
    cases Option.some.inj taken
    obtain ⟨-, empty, -⟩ := inTurn.only hand
    refine inTurn.brings todo rfl rfl ?_ inTurn.host (.finishes calm) rfl ?_
      fun done taken works stage => stage.finishes_of_reports
    · change [Token.finishes] ++ context.host.tasks.tasks.map .waits = _
      rw [empty]
      rfl
    · rintro output bulk same
      cases same
      unfold Context.sendFinished Context.finishedMessage
      rfl
  | finishes calm => exact inTurn.finishes todo calm (Option.some.inj taken)

end Acts

/-- Every move leaves manifests in turn. -/
theorem InTurn.moves {history next : History} (inTurn : InTurn history)
    (moves : History.CalmMoves history next) : InTurn next := by
  cases moves with
  | @begins _ main program calm =>
    refine ⟨inTurn.host, ?_, ?_, inTurn.sent⟩
    · intro one there
      rcases List.mem_append.mp there with old | new
      · exact inTurn.duties one old
      · rw [List.mem_singleton.mp new]
        exact .of_calm calm
    · have same : Threads.flight { history.threads with
          waiting := history.threads.waiting ++
            [{ ticket := history.begun, call := { main, todo := program } }] } =
          history.threads.flight := by
        have nobody : [({ ticket := history.begun, call := { main, todo := program } } :
            Waiting Strand)].filterMap (fun one => inHand one.call.todo) = [] :=
          List.filterMap_cons_none (inHand_of_calm calm)
        rw [Threads.flight, List.filterMap_append, nobody, List.append_nil]
        rfl
      dsimp only
      rw [same]
      exact inTurn.balanced
  | acts law todo taken => exact inTurn.acts law todo taken
  | @ends context before after one deeds begun done =>
    refine ⟨inTurn.host, ?_, ?_, inTurn.sent⟩
    · exact fun other there =>
        inTurn.duties other ((sublist_of_others before after one).subset there)
    · have balanced := inTurn.balanced
      have nothing : inHand one.call.todo = none := by
        rw [done]
        rfl
      rw [flight_split, nothing, Option.toList_none, List.nil_append, ← List.append_assoc,
        ← List.filterMap_append] at balanced
      exact balanced

/-- Where there is no manifest and no task yet. -/
theorem InTurn.of_nothing {history : History} (nothing : history.deeds = [])
    (manifests : history.threads.state.manifests = {})
    (tasks : history.threads.state.host.tasks = {}) (host : history.threads.state.host.Calm)
    (nobody : history.threads.waiting = []) : InTurn history := by
  refine ⟨host, ?_, ?_, ?_⟩
  · rw [nobody]
    exact List.forall_mem_nil _
  · rw [History.received, History.works, Threads.flight, nothing, nobody, tasks, manifests]
    exact ⟨[], [], none, .idle, rfl, rfl, rfl, fun _ => rfl⟩
  · rw [nothing]
    exact fun _ there => absurd there List.not_mem_nil

theorem History.Serving.inTurn {history : History} (serving : history.Serving) :
    InTurn history := by
  obtain ⟨fresh, manifests, tasks, host, nobody, run⟩ := serving
  induction run with
  | refl => exact .of_nothing rfl manifests tasks host nobody
  | tail _ moves ih => exact ih.moves moves

namespace InTurn

variable {history : History}

theorem rounds (inTurn : InTurn history) :
    ∃ rounds : List Round, rounds.map Round.manifest <+: history.received ∧
      history.works <+: rounds.flatMap Round.works := by
  obtain ⟨done, taken, token, stage, -, received, -⟩ := inTurn.balanced
  obtain ⟨rounds, manifests, works⟩ := stage.rounds
  refine ⟨rounds, ?_, works⟩
  rw [received]
  exact manifests.trans (List.prefix_append _ _)

theorem isPaused_iff (inTurn : InTurn history) :
    history.threads.state.isPaused = true ↔
      ∃ rounds : List Round, rounds.map Round.manifest = history.received ∧
        history.works = rounds.flatMap Round.works := by
  obtain ⟨done, taken, token, stage, -, received, processing, nothing⟩ := inTurn.balanced
  rw [Context.isPaused, processing, Bool.not_eq_true', Option.isSome_eq_false_iff,
    Option.isNone_iff_eq_none]
  rcases stage.length_cases with ⟨idle, manifests, works⟩ | ⟨busy, less⟩
  · refine iff_of_true idle ⟨done, ?_, works⟩
    rw [received, nothing idle, List.append_nil, manifests]
  · refine iff_of_false ?_ ?_
    · rintro rfl
      cases busy
    · rintro ⟨rounds, manifests, works⟩
      have all := congrArg List.length manifests
      rw [received, List.length_map, List.length_append] at all
      rw [works, Processing.length_works] at less
      omega

theorem length_flight (inTurn : InTurn history) :
    history.threads.flight.length = (!history.threads.state.isPaused).toNat := by
  obtain ⟨done, taken, token, -, flight, -, processing, -⟩ := inTurn.balanced
  rw [flight, Context.isPaused, Bool.not_not, processing]
  cases token <;> rfl

end InTurn

end Playback
