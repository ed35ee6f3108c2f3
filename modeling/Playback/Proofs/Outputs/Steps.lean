import Playback.Proofs.Outputs.Asking

set_option autoImplicit false

namespace Playback

namespace Tree

/-! What the actions come to -/

section
variable {context : Context} {fork : UInt32}

theorem handle_of_callDown (own : context.fork = fork) {message : Message}
    (down : CallDown fork message) :
    context.handle message =
      context.followedBy [.enterRead, .dispatch message, .leaveRead] := by
  rw [Context.handle, if_pos (down.fork.trans own.symm)]
  obtain ⟨id, answers⟩ := down
  cases answers <;> rfl

/-- An answer comes to the slot, with what it conveys. -/
theorem dispatch_of_conveys (context : Context) (main : Bool) {message : Message}
    {tag : Option CallId} {output : Bytes} (conveys : Conveys fork message tag output) :
    context.dispatch main message =
      { context := { context with calls := (context.calls.deliver tag output).2 }
        records := ExternalCalls.deliverRecords (context.calls.deliver tag output).1 tag } := by
  cases conveys with
  | available id output =>
    rw [← CallId.ofNumber?_number id]
    rfl
  | unavailable => rfl

theorem dispatchFork_callRequest (context : Context) (main : Bool) (id : CallId) (input : Bytes) :
    context.dispatchFork main (.externalCallRequest fork id.number input) =
      context.followedBy [.route (context.callResponse fork (some id))] := by
  rw [← CallId.ofNumber?_number id]
  rfl

theorem dispatchFork_report (context : Context) (main : Bool) (id : CallId) (output : Bytes) :
    context.dispatchFork main (.externalCallResponse fork id.number output) =
      { context := { context with calls := context.calls.insert id output }
        records := context.calls.insertRecords id output } := by
  simp only [Context.dispatchFork, Message.externalCallResponse, CallId.ofNumber?_number]

theorem callResponse_down (context : Context) (fork : UInt32) (id : CallId) :
    CallDown fork (context.callResponse fork (some id)) := by
  unfold Context.callResponse
  cases known : context.calls.output? id with
  | none =>
    rw [Option.bind_some, known]
    exact ⟨id, .unavailable⟩
  | some output =>
    rw [Option.bind_some, known]
    exact ⟨id, .available output⟩

theorem callResponse_of_known {id : CallId} {output : Bytes}
    (known : context.calls.output? id = some output) (fork : UInt32) :
    context.callResponse fork (some id) = .externalCallResponse fork id.number output := by
  rw [Context.callResponse, Option.bind_some, known]
  rfl

end

section
variable {story next : Story} {act : Act} {strand later : Strand} {outcome : Outcome}
  {program rest : Program}

/-! What stays -/

/-- A process that keeps its forks and its channel, and has its slot as it was. -/
structure Even (context : Context) (outcome : Outcome) : Prop where
  own : outcome.context.fork = context.fork
  channel : outcome.context.channel = context.channel
  forks : outcome.context.forks = context.forks
  slot : outcome.context.calls.slot = context.calls.slot

/-- An action with which a request is sent or answered. -/
def stirsCall : Action → Bool
  | .claimCall _ => true
  | .dispatchFork message => isRequest message
  | _ => false

theorem Act.requests?_of_not (act : Act) (still : stirsCall act.action = false) (fork : UInt32) :
    act.requests? fork = none ∧ act.answers? fork = none := by
  constructor
  · unfold Act.requests?
    split <;> try split
    all_goals simp_all [stirsCall]
  · unfold Act.answers?
    split <;> try split
    all_goals simp_all [stirsCall]

theorem Goes.asked_same (goes : Goes story next act strand later outcome) {fork : UInt32}
    (silent : act.requests? fork = none) : requests fork next.acts = requests fork story.acts := by
  rw [goes.acts, requests, filterMap_snoc, silent, Option.toList_none, List.append_nil, requests]

theorem Goes.handled_same (goes : Goes story next act strand later outcome) {fork : UInt32}
    (silent : act.answers? fork = none) : answered fork next.acts = answered fork story.acts := by
  rw [goes.acts, answered, filterMap_snoc, silent, Option.toList_none, List.append_nil, answered]

theorem Goes.legs_same (goes : Goes story next act strand later outcome)
    (todo : strand.todo = act.action :: rest) (goesOn : later.todo = outcome.next ++ rest)
    {fork : UInt32} (leg : outcome.next.filterMap (leg? fork) = (leg? fork act.action).toList)
    (lines : next.tree.lines fork = story.tree.lines fork) :
    (next.tree.legs fork).Perm (story.tree.legs fork) := by
  obtain ⟨others, before, after⟩ := goes.legs todo goesOn fork
  rw [leg, lines] at after
  exact after.trans before.symm

/-- An action that does nothing to the errand of a fork. -/
theorem Goes.calm (goes : Goes story next act strand later outcome) {fork : UInt32}
    (legs : (next.tree.legs fork).Perm (story.tree.legs fork))
    (slot : fork = act.fork →
      outcome.context.calls.slot.waiting = act.context.calls.slot.waiting)
    (quiet : fork = act.fork → ∀ id rest,
      strand.todo ≠ .takeCall id :: rest ∧ later.todo ≠ .takeCall id :: rest)
    (asked : act.requests? fork = none) (handled : act.answers? fork = none) :
    Change story next fork := by
  refine .calm legs ?_ (goes.awaitsOutput_same quiet) (goes.asked_same asked)
    (goes.handled_same handled)
  rw [goes.slot]
  split
  case isTrue own => rw [slot own, own, goes.callSlot_before]
  case isFalse _ => rfl

/-- An action keeps a story as it is described if it keeps what it has to do with. -/
theorem Asking.goes (asking : Asking story) (goes : Goes story next act strand later outcome)
    (began : story.begun[act.thread]? = some program)
    (stance : Stance act.fork program (did act.thread story.acts ++ [act.action]) later.todo)
    (own : outcome.context.fork = act.context.fork)
    (channel : outcome.context.channel = act.context.channel)
    (table : act.fork = rootFork → Holds CallDown outcome.context.forks)
    (ups : ∀ message ∈ outcome.effects.filterMap upward?, CallUp act.fork message)
    (downs : act.fork = rootFork → ∀ fork, ∀ message ∈ outcome.effects.filterMap (downward? fork),
      fork ≠ rootFork ∧ CallDown fork message)
    (changes : ∀ fork, fork ≠ rootFork → Change story next fork) :
    Asking next ∧ ∀ fork, fork ≠ rootFork → Change story next fork := by
  refine ⟨?_, changes⟩
  constructor
  case root =>
    by_cases top : act.fork = rootFork
    · refine ⟨outcome.context, ?_, table top⟩
      rw [goes.members, if_pos top.symm]
    · obtain ⟨one, there, holds⟩ := asking.root
      refine ⟨one, ?_, holds⟩
      rw [goes.members, if_neg (Ne.symm top)]
      exact there
  case own =>
    intro fork context there
    rw [goes.members] at there
    split at there
    case isTrue same =>
      cases there
      rw [own, channel, same]
      exact asking.own act.fork act.context goes.here
    case isFalse _ => exact asking.own fork context there
  case size =>
    rw [goes.begun, goes.threads, List.length_set]
    exact asking.size
  case past =>
    intro one there
    rw [goes.acts] at there
    rw [goes.threads, List.length_set]
    rcases List.mem_append.mp there with old | new
    · exact asking.past one old
    · rw [List.mem_singleton.mp new]
      exact (List.getElem?_eq_some_iff.mp goes.there).1
  case homes => exact goes.homes asking.homes
  case stances =>
    intro thread fork one there
    rw [goes.begun, goes.acts]
    rcases goes.thread_cases there with ⟨rfl, rfl, rfl⟩ | ⟨apart, there⟩
    · rw [did_own rfl]
      exact ⟨program, began, stance⟩
    · rw [did_other (Ne.symm apart)]
      exact asking.stances thread fork one there
  case ups =>
    intro fork message there
    rw [goes.up] at there
    rcases List.mem_append.mp there with old | new
    · exact asking.ups fork message old
    · obtain ⟨same, new⟩ := List.mem_ite_nil_right.mp new
      rw [same]
      exact ups message new
  case downs =>
    intro fork message there
    rw [goes.down] at there
    rcases List.mem_append.mp there with old | new
    · exact asking.downs fork message old
    · obtain ⟨same, new⟩ := List.mem_ite_nil_right.mp new
      obtain ⟨other, down⟩ := downs same fork message new
      exact ⟨other, down, fun _ => framed_of_downward new⟩
  case lines => exact fun fork other => (asking.lines fork other).change (changes fork other)

/-- An action that touches no errand and sends at most an output. -/
theorem Asking.still (asking : Asking story) (goes : Goes story next act strand later outcome)
    (began : story.begun[act.thread]? = some program)
    (stance : Stance act.fork program (did act.thread story.acts ++ [act.action]) later.todo)
    {one : Action} (action : act.action = one) (todo : strand.todo = one :: rest)
    (goesOn : later.todo = outcome.next ++ rest) (even : Even act.context outcome)
    (leg : ∀ fork, outcome.next.filterMap (leg? fork) = (leg? fork one).toList)
    (ups : ∀ message ∈ outcome.effects.filterMap upward?,
      CallUp act.fork message ∧ isRequest message = false)
    (downs : ∀ fork, outcome.effects.filterMap (downward? fork) = [])
    (still : stirsCall one = false) (here : ∀ id, one ≠ .takeCall id)
    (there : ∀ id rest, later.todo ≠ .takeCall id :: rest) :
    Asking next ∧ ∀ fork, fork ≠ rootFork → Change story next fork := by
  subst action
  refine asking.goes goes began stance even.own even.channel ?_ (fun message there =>
    (ups message there).1) ?_ ?_
  · intro top
    rw [even.forks]
    exact asking.of_root (goes.here_root top)
  · intro _ fork
    rw [downs]
    exact List.forall_mem_nil _
  · intro fork _
    obtain ⟨asked, handled⟩ := act.requests?_of_not still fork
    refine goes.calm (goes.legs_same todo goesOn (leg fork) ?_) (fun _ => by rw [even.slot])
      (fun _ id behind => ⟨?_, there id behind⟩) asked handled
    · refine goes.lines_same ?_ (fun _ => by rw [even.slot]) (fun _ => even.forks)
        fun _ => downs fork
      intro _
      rw [List.filterMap_eq_nil_iff]
      intro message sent
      refine if_neg ?_
      rw [(ups message sent).2]
      exact Bool.false_ne_true
    · rw [todo]
      exact fun same => here id (List.cons.inj same).1

/-- An action that does nothing beyond its process. -/
theorem Asking.inside (asking : Asking story) (goes : Goes story next act strand later outcome)
    (began : story.begun[act.thread]? = some program)
    (stance : Stance act.fork program (did act.thread story.acts ++ [act.action]) later.todo)
    {one : Action} (action : act.action = one) (todo : strand.todo = one :: rest)
    (goesOn : later.todo = outcome.next ++ rest) (even : Even act.context outcome)
    (leg : ∀ fork, outcome.next.filterMap (leg? fork) = (leg? fork one).toList)
    (nothing : outcome.effects = []) (still : stirsCall one = false)
    (here : ∀ id, one ≠ .takeCall id) (there : ∀ id rest, later.todo ≠ .takeCall id :: rest) :
    Asking next ∧ ∀ fork, fork ≠ rootFork → Change story next fork := by
  refine asking.still goes began stance action todo goesOn even leg ?_ (fun fork => ?_) still here
    there
  · rw [nothing]
    exact List.forall_mem_nil _
  · rw [nothing]
    rfl

/-! Errands that go on -/

/-- A thread claims the slot of its process and sends a request, unless that is too large. -/
theorem Asking.claims (asking : Asking story) (goes : Goes story next act strand later outcome)
    (began : story.begun[act.thread]? = some program) {id : CallId} {input : Bytes}
    (action : act.action = .claimCall (.externalCallRequest act.fork id.number input))
    (todo : strand.todo = act.action :: .takeCall id :: rest)
    (goesOn : later.todo = .takeCall id :: rest) (nothing : outcome.next = [])
    (stance : Stance act.fork program (did act.thread story.acts ++ [act.action]) later.todo)
    (free : act.context.calls.slot.waiting = false)
    (own : outcome.context.fork = act.context.fork)
    (channel : outcome.context.channel = act.context.channel)
    (forks : outcome.context.forks = act.context.forks)
    (slot : outcome.context.calls.slot = { waiting := true })
    (effects : outcome.effects =
      [.send upstream (.externalCallRequest act.fork id.number input)]) :
    Asking next ∧ ∀ fork, fork ≠ rootFork → Change story next fork := by
  have ups : outcome.effects.filterMap upward? =
      carried [.externalCallRequest act.fork id.number input] := by
    rw [effects, upward?_upstream]
  have downs (fork : UInt32) : outcome.effects.filterMap (downward? fork) = [] := by
    rw [effects, downward?_upstream]
  have leg (fork : UInt32) : leg? fork act.action = none := by
    rw [action]
    rfl
  have handled (fork : UInt32) : act.answers? fork = none := by
    rw [Act.answers?, action]
    exact ite_self _
  have follows : later.todo = outcome.next ++ .takeCall id :: rest :=
    goesOn.trans (by rw [nothing]; rfl)
  refine asking.goes goes began stance own channel ?_ ?_ ?_ ?_
  · intro top
    rw [forks]
    exact asking.of_root (goes.here_root top)
  · rw [ups]
    intro message there
    rw [List.mem_singleton.mp (carried_subset _ there)]
    exact .request id input
  · intro _ fork
    rw [downs]
    exact List.forall_mem_nil _
  · intro fork other
    by_cases same : fork = act.fork
    · subst same
      have away : act.fork ≠ rootFork := other
      obtain ⟨others, before, after⟩ := goes.legs todo follows act.fork
      have unclaimed : (story.tree.slot act.fork).waiting = false := by
        rw [goes.callSlot_before]
        exact free
      have claimed : (next.tree.slot act.fork).waiting = true := by
        rw [goes.slot, if_pos rfl, slot]
      have awaits (one : Nat) (call : CallId) : next.tree.AwaitsOutput act.fork one call ↔
          story.tree.AwaitsOutput act.fork one call ∨ one = act.thread ∧ call = id := by
        rw [goes.awaitsOutput, goesOn]
        split
        case isTrue thread =>
          have nobody : ¬story.tree.AwaitsOutput act.fork one call := by
            rintro ⟨before, behind, there, first⟩
            rw [thread, goes.there] at there
            cases there
            rw [todo, action] at first
            cases first
          subst thread
          simp [nobody, eq_comm]
        case isFalse apart => simp [apart]
      have lines : next.tree.lines act.fork = (story.tree.up act.fork).filterMap upLeg? ++
          ((carried [.externalCallRequest act.fork id.number input]).map .request ++
            (story.tree.held act.fork ++ story.tree.down act.fork).map .answer) := by
        rw [Tree.lines, goes.up, if_pos rfl, ups, List.filterMap_append,
          goes.held_same fun top => absurd top away, goes.down, if_neg away, goes.slot, if_pos rfl,
          slot, List.append_nil, List.append_assoc, carried_singleton]
        split <;> exact congrArg _ (congrArg _ (List.append_nil _))
      have asked : requests act.fork next.acts = requests act.fork story.acts ++
          (carried [.externalCallRequest act.fork id.number input]).map (act.thread, ·) := by
        rw [goes.acts, requests, filterMap_snoc, Act.requests?, if_pos rfl, action,
          carried_singleton]
        dsimp only
        split <;> rfl
      rw [nothing, lines] at after
      rw [leg, Tree.lines, slotLegs_of_free unclaimed, List.append_nil] at before
      rw [carried_singleton] at after asked
      by_cases framed : (Message.externalCallRequest act.fork id.number input).Framed
      · rw [if_pos framed] at after asked
        rw [List.map_singleton, List.singleton_append] at after
        refine @Change.asks _ _ _ act.thread id input unclaimed ?_ claimed awaits asked
          (goes.handled_same (handled act.fork))
        refine after.trans (List.Perm.trans ?_ (before.symm.cons _))
        simp only [List.filterMap_nil, Option.toList_none, List.nil_append, ← List.append_assoc]
        exact List.perm_middle
      · rw [if_neg framed] at after asked
        refine @Change.strands _ _ _ act.thread id unclaimed (after.trans before.symm) claimed
          ((awaits act.thread id).mpr (Or.inr ⟨rfl, rfl⟩)) ?_
          (goes.handled_same (handled act.fork))
        rw [asked]
        exact List.append_nil _
    · have silent : act.requests? fork = none := if_neg (Ne.symm same)
      refine goes.calm (goes.legs_same todo follows ?_ ?_)
        (absurd · same) (absurd · same) silent (handled fork)
      · rw [nothing, leg]
        rfl
      · exact goes.lines_same (absurd · same) (absurd · same) (fun _ => forks) fun _ => downs fork

/-- What the slot of a process does to the errands of other processes. -/
theorem Goes.elsewhere (goes : Goes story next act strand later outcome)
    (todo : strand.todo = act.action :: rest) (goesOn : later.todo = outcome.next ++ rest)
    (forks : outcome.context.forks = act.context.forks) (nothing : outcome.effects = [])
    (still : stirsCall act.action = false) {fork : UInt32} (other : fork ≠ act.fork)
    (leg : outcome.next.filterMap (leg? fork) = (leg? fork act.action).toList) :
    Change story next fork := by
  obtain ⟨asked, handled⟩ := act.requests?_of_not still fork
  refine goes.calm (goes.legs_same todo goesOn leg ?_) (absurd · other) (absurd · other) asked
    handled
  refine goes.lines_same (absurd · other) (absurd · other) (fun _ => forks) fun _ => ?_
  rw [nothing]
  rfl

/-- What an action of a fork leaves of the legs beyond the threads. -/
theorem Goes.lines_at_fork (goes : Goes story next act strand later outcome)
    (nothing : outcome.effects = []) (away : act.fork ≠ rootFork) :
    story.tree.lines act.fork = (story.tree.up act.fork).filterMap upLeg? ++
        ((story.tree.held act.fork ++ story.tree.down act.fork).map .answer ++
          slotLegs act.context.calls.slot) ∧
      next.tree.lines act.fork = (story.tree.up act.fork).filterMap upLeg? ++
        ((story.tree.held act.fork ++ story.tree.down act.fork).map .answer ++
          slotLegs outcome.context.calls.slot) := by
  constructor
  · rw [Tree.lines, goes.callSlot_before]
  · rw [Tree.lines, goes.up, if_pos rfl, nothing, goes.held_same fun top => absurd top away,
      goes.down, if_neg away, goes.slot, if_pos rfl, List.filterMap_nil, List.append_nil,
      List.append_nil]

/-- A thread takes the response to the request of its process. -/
theorem Asking.takes (asking : Asking story) (goes : Goes story next act strand later outcome)
    (began : story.begun[act.thread]? = some program) {id : CallId} {tag : Option CallId}
    {output : Bytes} (action : act.action = .takeCall id)
    (todo : strand.todo = .takeCall id :: rest)
    (goesOn : later.todo = outcome.next ++ rest)
    (there : act.context.calls.slot.response = some (tag, output))
    (behind : ∀ action ∈ outcome.next ++ rest, Proper act.fork action)
    (plain : ∀ fork, outcome.next.filterMap (leg? fork) = [])
    (own : outcome.context.fork = act.context.fork)
    (channel : outcome.context.channel = act.context.channel)
    (forks : outcome.context.forks = act.context.forks)
    (slot : outcome.context.calls.slot = { waiting := false }) (nothing : outcome.effects = []) :
    Asking next ∧ ∀ fork, fork ≠ rootFork → Change story next fork := by
  have stance : Stance act.fork program (did act.thread story.acts ++ [act.action]) later.todo := by
    rw [goesOn]
    exact .plain behind
  have first : strand.todo = act.action :: rest := todo.trans (by rw [action])
  have leg (fork : UInt32) : leg? fork act.action = none := by
    rw [action]
    rfl
  have still : stirsCall act.action = false := by
    rw [action]
    rfl
  refine asking.goes goes began stance own channel ?_ ?_ ?_ ?_
  · intro top
    rw [forks]
    exact asking.of_root (goes.here_root top)
  · rw [nothing]
    exact List.forall_mem_nil _
  · intro _ fork
    rw [nothing]
    exact List.forall_mem_nil _
  · intro fork other
    by_cases same : fork = act.fork
    · subst same
      have away : act.fork ≠ rootFork := other
      have awaited : story.tree.AwaitsOutput act.fork act.thread id :=
        ⟨strand, rest, goes.there, todo⟩
      have claimed := (asking.lines act.fork away).claimed_of_awaits awaited
      rw [goes.callSlot_before] at claimed
      have response : slotLegs act.context.calls.slot = [.response tag output] := by
        rw [slotLegs, if_pos claimed, there]
        rfl
      obtain ⟨others, before, after⟩ := goes.legs first goesOn act.fork
      obtain ⟨linesBefore, linesAfter⟩ := goes.lines_at_fork nothing away
      rw [leg, linesBefore, response] at before
      rw [plain, linesAfter, slot, slotLegs_of_free rfl, List.append_nil] at after
      obtain ⟨asked, handled⟩ := act.requests?_of_not still act.fork
      refine @Change.takes _ _ _ _ _ tag output _ awaited ?_ after ?_ (goes.asked_same asked)
        (goes.handled_same handled)
      · refine before.trans ?_
        simp only [Option.toList_none, List.nil_append, ← List.append_assoc]
        exact List.perm_append_singleton _ _
      · intro other call awaiting
        rw [goes.awaitsOutput] at awaiting
        split at awaiting
        case isTrue same =>
          obtain ⟨-, tail, waits⟩ := awaiting
          rw [goesOn] at waits
          have proper := behind (.takeCall call) (by rw [waits]; exact List.mem_cons_self)
          cases proper
        case isFalse apart => exact ⟨awaiting, apart⟩
    · refine goes.elsewhere first goesOn forks nothing still same ?_
      rw [plain, leg]
      rfl

/-- An answer comes to the slot of its process. -/
theorem Asking.dispatches (asking : Asking story) (goes : Goes story next act strand later outcome)
    (began : story.begun[act.thread]? = some program) {message : Message} {tag : Option CallId}
    {output : Bytes} (conveys : Conveys act.fork message tag output)
    (arrives : Arrives act.fork message)
    (action : act.action = .dispatch message) (todo : strand.todo = .dispatch message :: rest)
    (goesOn : later.todo = rest) (last : outcome.next = [])
    (proper : ∀ action ∈ rest, Proper act.fork action)
    (own : outcome.context.fork = act.context.fork)
    (channel : outcome.context.channel = act.context.channel)
    (forks : outcome.context.forks = act.context.forks)
    (slot : outcome.context.calls.slot = (act.context.calls.slot.deliver (tag, output)).2)
    (nothing : outcome.effects = []) :
    Asking next ∧ ∀ fork, fork ≠ rootFork → Change story next fork := by
  have stance : Stance act.fork program (did act.thread story.acts ++ [act.action]) later.todo := by
    rw [goesOn]
    exact .plain proper
  have first : strand.todo = act.action :: rest := todo.trans (by rw [action])
  have goesOn' : later.todo = outcome.next ++ rest := goesOn.trans (by rw [last]; rfl)
  have still : stirsCall act.action = false := by
    rw [action]
    rfl
  have waits (id : CallId) (tail : Program) :
      strand.todo ≠ .takeCall id :: tail ∧ later.todo ≠ .takeCall id :: tail := by
    constructor
    · rw [todo]
      exact fun same => by cases same
    · rw [goesOn]
      rintro rfl
      cases proper _ List.mem_cons_self
  refine asking.goes goes began stance own channel ?_ ?_ ?_ ?_
  · intro top
    rw [forks]
    exact asking.of_root (goes.here_root top)
  · rw [nothing]
    exact List.forall_mem_nil _
  · intro _ fork
    rw [nothing]
    exact List.forall_mem_nil _
  · intro fork other
    by_cases same : fork = act.fork
    · subst same
      have away : act.fork ≠ rootFork := other
      have leg : leg? act.fork act.action = some (.answer message) := by
        rw [action]
        exact if_pos arrives.down.fork
      obtain ⟨others, before, after⟩ := goes.legs first goesOn' act.fork
      obtain ⟨linesBefore, linesAfter⟩ := goes.lines_at_fork nothing away
      rw [leg, Option.toList_some, List.singleton_append] at before
      obtain ⟨alone, thread, id, out⟩ := (asking.lines act.fork away).out_of_leg before rfl
      -- The answer is the only leg, so the slot is claimed and holds no response yet.
      have empty := alone
      rw [linesBefore] at empty
      simp only [List.append_eq_nil_iff] at empty
      obtain ⟨noOthers, noUp, noDown, noResponse⟩ := empty
      have claimed := out.claimed
      rw [goes.callSlot_before] at claimed
      have unfilled : act.context.calls.slot.response = none := by
        rw [slotLegs, if_pos claimed] at noResponse
        cases response : act.context.calls.slot.response with
        | none => rfl
        | some one =>
          rw [response] at noResponse
          cases noResponse
      have filled : slotLegs outcome.context.calls.slot = [.response tag output] := by
        rw [slot, Slot.deliver, claimed, unfilled]
        exact if_pos rfl
      rw [last, noOthers, linesAfter, noUp, noDown, filled] at after
      rw [alone] at before
      obtain ⟨asked, handled⟩ := act.requests?_of_not still act.fork
      refine .delivers conveys (arrives.framed away) before after ?_
        (goes.awaitsOutput_same fun _ => waits) (goes.asked_same asked) (goes.handled_same handled)
      rw [goes.slot, if_pos rfl, slot, goes.callSlot_before, Slot.deliver]
      split <;> rfl
    · refine goes.elsewhere first goesOn' forks nothing still same ?_
      have foreign : leg? fork act.action = none := by
        rw [action]
        refine if_neg ?_
        rw [arrives.down.fork]
        exact Ne.symm same
      rw [last, foreign]
      rfl

end

end Tree

end Playback
