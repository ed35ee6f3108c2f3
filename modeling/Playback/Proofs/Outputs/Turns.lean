import Playback.Proofs.Outputs.Acts

set_option autoImplicit false

namespace Playback

namespace Tree

variable {story next : Story}

/-! Threads that begin -/

section
variable {fork : UInt32} {strand : Strand}

theorem Begins.slot (begins : Begins story next fork strand) (other : UInt32) :
    next.tree.slot other = story.tree.slot other := by
  rw [Tree.slot, begins.members]
  rfl

theorem Begins.legs (begins : Begins story next fork strand) {other : UInt32}
    (moves : (strand.todo.filterMap (leg? other) ++ next.tree.lines other).Perm
      (story.tree.lines other)) : (next.tree.legs other).Perm (story.tree.legs other) := by
  rw [Tree.legs, Tree.legs, begins.threads, List.flatMap_append, List.flatMap_singleton,
    List.append_assoc]
  exact List.Perm.append_left _ moves

theorem Begins.awaitsOutput (begins : Begins story next fork strand)
    (waits : ∀ id rest, strand.todo ≠ .takeCall id :: rest) (other : UInt32) (thread : Nat)
    (id : CallId) :
    next.tree.AwaitsOutput other thread id ↔ story.tree.AwaitsOutput other thread id := by
  unfold AwaitsOutput
  rw [begins.threads]
  rcases Nat.lt_trichotomy thread story.tree.threads.length with old | last | none
  · rw [List.getElem?_append_left old]
  · subst last
    rw [List.getElem?_concat_length, List.getElem?_eq_none (Nat.le_refl _)]
    constructor
    · rintro ⟨one, rest, same, todo⟩
      cases same
      exact absurd todo (waits id rest)
    · rintro ⟨one, rest, same, -⟩
      cases same
  · have many : (story.tree.threads ++ [(fork, strand)]).length ≤ thread := by
      rw [List.length_append, List.length_singleton]
      exact none
    rw [List.getElem?_eq_none many, List.getElem?_eq_none (Nat.le_of_lt none)]

/-- A thread begins, perhaps with a message that was on its way. -/
theorem Asking.starts (asking : Asking story) (begins : Begins story next fork strand)
    (ups : ∀ other, next.tree.up other ⊆ story.tree.up other)
    (downs : ∀ other, next.tree.down other ⊆ story.tree.down other)
    (stance : Stance fork strand.todo [] strand.todo)
    (waits : ∀ id rest, strand.todo ≠ .takeCall id :: rest)
    (moves : ∀ other, other ≠ rootFork →
      (strand.todo.filterMap (leg? other) ++ next.tree.lines other).Perm
        (story.tree.lines other)) :
    Asking next ∧ ∀ other, other ≠ rootFork → Change story next other := by
  have changes (other : UInt32) (apart : other ≠ rootFork) : Change story next other := by
    refine .calm (begins.legs (moves other apart)) ?_ (begins.awaitsOutput waits other) ?_ ?_
    · rw [begins.slot]
    · rw [begins.acts]
    · rw [begins.acts]
  refine ⟨?_, changes⟩
  constructor
  case root =>
    rw [begins.members]
    exact asking.root
  case own =>
    rw [begins.members]
    exact asking.own
  case size => exact begins.size asking.size
  case past =>
    intro act there
    rw [begins.acts] at there
    rw [begins.threads, List.length_append]
    exact Nat.lt_add_right _ (asking.past act there)
  case homes => exact begins.homes asking.homes
  case stances =>
    intro thread owner one there
    rw [begins.acts]
    rcases begins.thread_cases there with ⟨rfl, rfl, rfl⟩ | there
    · rw [asking.did_new]
      exact ⟨one.todo, begins.began asking.size, stance⟩
    · obtain ⟨program, first, stands⟩ := asking.stances thread owner one there
      exact ⟨program, begins.began_of first, stands⟩
  case ups => exact fun other message there => asking.ups other message (ups other there)
  case downs => exact fun other message there => asking.downs other message (downs other there)
  case lines => exact fun other apart => (asking.lines other apart).change (changes other apart)

/-- A thread begins that has to do with no message yet. -/
theorem Asking.startsFresh (asking : Asking story) (begins : Begins story next fork strand)
    (up : next.tree.up = story.tree.up) (down : next.tree.down = story.tree.down)
    (stance : Stance fork strand.todo [] strand.todo)
    (waits : ∀ id rest, strand.todo ≠ .takeCall id :: rest)
    (fresh : ∀ other, other ≠ rootFork → strand.todo.filterMap (leg? other) = []) :
    Asking next ∧ ∀ other, other ≠ rootFork → Change story next other := by
  refine asking.starts begins (fun other => ?_) (fun other => ?_) stance waits fun other apart => ?_
  · rw [up]
    exact List.Subset.refl _
  · rw [down]
    exact List.Subset.refl _
  · rw [fresh other apart, Tree.lines, Tree.lines, up, down, begins.held, begins.slot]
    exact List.Perm.refl _

theorem leg?_handle (message : Message) (other : UInt32) :
    (Program.handle message).filterMap (leg? other) =
      if message.fork = other then [.answer message] else [] := by
  change [Action.handle message, .answer .done].filterMap (leg? other) = _
  rw [filterMap_cons_toList]
  simp only [leg?]
  split <;> rfl

theorem leg?_handleFork (message : Message) (other : UInt32) :
    (Program.handleFork message).filterMap (leg? other) =
      if message.fork = other then (upLeg? message).toList else [] := by
  change [Action.handleFork message, .answer .done].filterMap (leg? other) = _
  rw [filterMap_cons_toList]
  change (leg? other (.handleFork message)).toList ++ [] = _
  simp only [leg?, upLeg?]
  by_cases same : message.fork = other <;> simp [same]

/-- A fork begins with the first message that is on its way to it. -/
theorem Asking.hears (asking : Asking story) {message : Message} {rest : List Message}
    (begins : Begins story next fork { todo := Program.handle message })
    (first : story.tree.down fork = message :: rest) (up : next.tree.up = story.tree.up)
    (down : ∀ other, next.tree.down other = if other = fork then rest else story.tree.down other) :
    Asking next ∧ ∀ other, other ≠ rootFork → Change story next other := by
  obtain ⟨apart, arrives⟩ := asking.downs fork message (first ▸ List.mem_cons_self)
  have proper : ∀ action ∈ Program.handle message, Proper fork action :=
    List.forall_mem_cons.mpr ⟨.handle arrives, List.forall_mem_singleton.mpr (.answer _)⟩
  refine asking.starts begins (fun other => ?_) (subset_of_rest first down) (.plain proper)
    (not_awaits_of_proper proper) fun other foreign => ?_
  · rw [up]
    exact List.Subset.refl _
  · rw [leg?_handle, arrives.down.fork, Tree.lines, Tree.lines, up, down, begins.held, begins.slot]
    by_cases same : other = fork
    · rw [if_pos same, if_pos same.symm, same, first, List.perm_iff_count]
      intro one
      simp only [List.map_append, List.map_cons, List.count_append, List.count_cons,
        List.count_nil]
      omega
    · rw [if_neg same, if_neg (Ne.symm same)]
      exact List.Perm.refl _

/-- The root begins with the first message of a fork. -/
theorem Asking.attends (asking : Asking story) {message : Message} {rest : List Message}
    (begins : Begins story next rootFork { todo := Program.handleFork message })
    (other : fork ≠ rootFork) (first : story.tree.up fork = message :: rest)
    (up : ∀ other, next.tree.up other = if other = fork then rest else story.tree.up other)
    (down : next.tree.down = story.tree.down) :
    Asking next ∧ ∀ other, other ≠ rootFork → Change story next other := by
  have fits := asking.ups fork message (first ▸ List.mem_cons_self)
  refine asking.starts begins (subset_of_rest first up) (fun one => ?_)
    (.attends rfl other fits rfl) nofun fun one foreign => ?_
  · rw [down]
    exact List.Subset.refl _
  · rw [leg?_handleFork, fits.fork, Tree.lines, Tree.lines, up, down, begins.held, begins.slot]
    by_cases same : one = fork
    · rw [if_pos same, if_pos same.symm, same, first, filterMap_cons_toList, List.append_assoc]
    · rw [if_neg same, if_neg (Ne.symm same)]
      exact List.Perm.refl _

end

/-! Turns beside the threads -/

/-- A turn that leaves the threads alone. -/
theorem Asking.aside (asking : Asking story) (threads : next.tree.threads = story.tree.threads)
    (begun : next.begun = story.begun) (acts : next.acts = story.acts)
    (root : next.tree.members rootFork = story.tree.members rootFork)
    (own : ∀ fork context, next.tree.members fork = some context →
      context.fork = fork ∧ context.channel = some upstream)
    (homes : ∀ fork context, story.tree.members fork = some context →
      ∃ one, next.tree.members fork = some one)
    (ups : ∀ other, next.tree.up other ⊆ story.tree.up other)
    (downs : next.tree.down = story.tree.down)
    (changes : ∀ fork, fork ≠ rootFork → Change story next fork) :
    Asking next ∧ ∀ fork, fork ≠ rootFork → Change story next fork := by
  refine ⟨?_, changes⟩
  constructor
  case root =>
    rw [root]
    exact asking.root
  case own => exact own
  case size =>
    rw [begun, threads]
    exact asking.size
  case past =>
    rw [acts, threads]
    exact asking.past
  case homes =>
    intro thread fork strand there
    rw [threads] at there
    obtain ⟨context, here⟩ := asking.homes thread fork strand there
    exact homes fork context here
  case stances =>
    rw [threads, begun, acts]
    exact asking.stances
  case ups => exact fun fork message there => asking.ups fork message (ups fork there)
  case downs =>
    rw [downs]
    exact asking.downs
  case lines => exact fun fork other => (asking.lines fork other).change (changes fork other)

theorem awaitsOutput_of_threads {tree other : Tree} (threads : other.threads = tree.threads)
    (fork : UInt32) (thread : Nat) (id : CallId) :
    other.AwaitsOutput fork thread id ↔ tree.AwaitsOutput fork thread id := by
  unfold AwaitsOutput
  rw [threads]

/-- No thread begins. -/
theorem begun_of_threads {changed : Tree} (threads : changed.threads = story.tree.threads) :
    story.begun ++ (changed.threads.drop story.tree.threads.length).map (fun one => one.2.todo) =
      story.begun := by
  rw [threads, List.drop_length, List.map_nil, List.append_nil]

/-- The middleman takes what the root has sent. -/
theorem Asking.takenOff (asking : Asking story) {message : Message} {rest : List Message}
    (first : story.tree.up rootFork = message :: rest)
    (threads : next.tree.threads = story.tree.threads) (begun : next.begun = story.begun)
    (acts : next.acts = story.acts) (members : next.tree.members = story.tree.members)
    (up : ∀ other, next.tree.up other = if other = rootFork then rest else story.tree.up other)
    (down : next.tree.down = story.tree.down) :
    Asking next ∧ ∀ fork, fork ≠ rootFork → Change story next fork := by
  refine asking.aside threads begun acts (congrFun members rootFork) ?_ ?_
    (subset_of_rest first up) down ?_
  · rw [members]
    exact asking.own
  · rw [members]
    exact fun _ context here => ⟨context, here⟩
  · intro fork other
    have held : next.tree.held fork = story.tree.held fork := by
      rw [Tree.held, members]
      rfl
    have slot : next.tree.slot fork = story.tree.slot fork := by
      rw [Tree.slot, members]
      rfl
    refine .calm ?_ (congrArg Slot.waiting slot) (awaitsOutput_of_threads threads fork)
      (congrArg _ acts) (congrArg _ acts)
    rw [Tree.legs, Tree.legs, Tree.lines, Tree.lines, threads, up, if_neg other, held, down, slot]

theorem legs_setMember (tree : Tree) {fork : UInt32} (apart : rootFork ≠ fork)
    (context : Context) (other : UInt32) :
    (tree.setMember fork context).legs other =
      tree.threads.flatMap (fun one => one.2.todo.filterMap (leg? other)) ++
        ((tree.up other).filterMap upLeg? ++ ((tree.held other ++ tree.down other).map .answer ++
          slotLegs (if other = fork then context.calls.slot else tree.slot other))) := by
  have held : (tree.setMember fork context).held other = tree.held other := by
    rw [Tree.held, members_setMember, if_neg apart]
    rfl
  rw [Tree.legs, Tree.lines, held, slot_setMember]
  rfl

/-- A new fork may have a claimed slot, but it has no errand out. -/
theorem Asking.joins (asking : Asking story) {fork : UInt32} {context : Context}
    (new : story.tree.members fork = none)
    (tree : next.tree = story.tree.setMember fork (Machine.forked context fork upstream))
    (begun : next.begun = story.begun) (acts : next.acts = story.acts) :
    Asking next ∧ ∀ other, other ≠ rootFork → Change story next other := by
  have apart : rootFork ≠ fork := by
    rintro rfl
    obtain ⟨root, here, -⟩ := asking.root
    rw [new] at here
    cases here
  have members (other : UInt32) : next.tree.members other =
      if other = fork then some (Machine.forked context fork upstream)
      else story.tree.members other := by
    rw [tree]
    exact members_setMember ..
  have threads : next.tree.threads = story.tree.threads := by
    rw [tree]
    rfl
  refine asking.aside threads begun acts ?_ ?_ ?_ (fun other => ?_) ?_ ?_
  · rw [members, if_neg apart]
  · intro other one here
    rw [members] at here
    split at here
    case isTrue same =>
      cases here
      exact ⟨same.symm, rfl⟩
    case isFalse _ => exact asking.own other one here
  · intro other one here
    rw [members]
    split
    · exact ⟨_, rfl⟩
    · exact ⟨one, here⟩
  · rw [tree]
    exact List.Subset.refl _
  · rw [tree]
    rfl
  · intro other foreign
    have awaits := awaitsOutput_of_threads threads other
    by_cases same : other = fork
    · subst same
      have idle : (story.tree.slot other).waiting = false := by
        rw [Tree.slot, new]
        rfl
      obtain ⟨nothing, nobody⟩ := (asking.lines other foreign).free idle
      simp only [Tree.legs, Tree.lines, List.append_eq_nil_iff] at nothing
      obtain ⟨noThread, noUp, noDown, -⟩ := nothing
      refine .joins idle (fun leg here => Or.inr ?_)
        (fun thread id waits => nobody thread id ((awaits thread id).mp waits)) (congrArg _ acts)
        (congrArg _ acts)
      rw [tree, legs_setMember _ apart, noThread, noUp, noDown, if_pos rfl] at here
      exact (isResponse_of_slotLegs here).1
    · refine .calm ?_ ?_ awaits (congrArg _ acts) (congrArg _ acts)
      · rw [tree, legs_setMember _ apart, if_neg same, Tree.legs, Tree.lines]
      · rw [tree, slot_setMember, if_neg same]

/-! Any turn -/

/-- What a turn comes to. -/
inductive Comes (story next : Story) : Prop where
  | acts {act : Act} {strand : Strand} {rest : Program} {outcome : Outcome}
      (todo : strand.todo = act.action :: rest)
      (step : act.context.step strand.main strand.value {} act.action = some outcome)
      (goes : Goes story next act strand
        { strand with todo := outcome.next ++ rest, value := outcome.value.getD strand.value }
        outcome)
  | starts {fork : UInt32} {strand : Strand} (begins : Begins story next fork strand)
      (use : OutputUse fork strand.todo) (up : next.tree.up = story.tree.up)
      (down : next.tree.down = story.tree.down)
  | hears {fork : UInt32} {message : Message} {rest : List Message}
      (begins : Begins story next fork { todo := Program.handle message })
      (first : story.tree.down fork = message :: rest) (up : next.tree.up = story.tree.up)
      (down : ∀ other,
        next.tree.down other = if other = fork then rest else story.tree.down other)
  | attends {fork : UInt32} {message : Message} {rest : List Message}
      (begins : Begins story next rootFork { todo := Program.handleFork message })
      (other : fork ≠ rootFork) (first : story.tree.up fork = message :: rest)
      (up : ∀ other, next.tree.up other = if other = fork then rest else story.tree.up other)
      (down : next.tree.down = story.tree.down)
  | takes {message : Message} {rest : List Message}
      (first : story.tree.up rootFork = message :: rest)
      (threads : next.tree.threads = story.tree.threads) (begun : next.begun = story.begun)
      (acts : next.acts = story.acts) (members : next.tree.members = story.tree.members)
      (up : ∀ other, next.tree.up other = if other = rootFork then rest else story.tree.up other)
      (down : next.tree.down = story.tree.down)
  | joins {fork : UInt32} {context : Context} (new : story.tree.members fork = none)
      (tree : next.tree = story.tree.setMember fork (Machine.forked context fork upstream))
      (begun : next.begun = story.begun) (acts : next.acts = story.acts)

theorem Asking.comes (asking : Asking story) (follows : story.Follows next) :
    Comes story next := by
  obtain ⟨turn, allowed, taken⟩ := follows
  cases allowed with
  | act thread =>
    obtain ⟨act, strand, rest, outcome, -, todo, step, goes⟩ := goes_of_act taken
    exact .acts todo step goes
  | begin main use =>
    obtain ⟨changed, began, rfl⟩ := Option.map_eq_some_iff.mp taken
    obtain ⟨context, here, rfl⟩ := Option.map_eq_some_iff.mp began
    exact .starts (begins_of_start ⟨context, here⟩ rfl rfl) use rfl rfl
  | hear fork =>
    obtain ⟨changed, heard, rfl⟩ := Option.map_eq_some_iff.mp taken
    simp only [Tree.take?] at heard
    split at heard
    case h_1 context message rest here first =>
      cases heard
      exact .hears (begins_of_start ⟨context, here⟩ rfl rfl) first rfl (down_setDown fork rest)
    case h_2 => cases heard
  | attend fork =>
    obtain ⟨changed, attended, rfl⟩ := Option.map_eq_some_iff.mp taken
    simp only [Tree.take?] at attended
    split at attended
    case h_1 message rest first =>
      split at attended
      case isTrue _ => cases attended
      case isFalse other =>
        cases attended
        obtain ⟨root, here, -⟩ := asking.root
        exact .attends (begins_of_start ⟨root, here⟩ rfl rfl) other first (up_setUp fork rest) rfl
    case h_2 => cases attended
  | take =>
    obtain ⟨changed, moved, rfl⟩ := Option.map_eq_some_iff.mp taken
    simp only [Tree.take?] at moved
    split at moved
    case h_1 message rest first =>
      cases moved
      refine .takes first rfl (begun_of_threads rfl) (List.append_nil _) rfl
        (up_setUp rootFork rest) (funext fun other => (down_setDown rootFork _ other).trans ?_)
      split
      case isTrue same =>
        rw [same]
        exact List.append_nil _
      case isFalse _ => rfl
    case h_2 => cases moved
  | duplicate parent fork =>
    obtain ⟨changed, moved, rfl⟩ := Option.map_eq_some_iff.mp taken
    simp only [Tree.take?] at moved
    split at moved
    case h_1 context here new =>
      cases moved
      exact .joins new rfl (begun_of_threads rfl) (List.append_nil _)
    case h_2 => cases moved

/-- Where a thread stands that begins. -/
theorem OutputUse.begins {fork : UInt32} {program : Program} (use : OutputUse fork program) :
    Stance fork program [] program ∧ (∀ id rest, program ≠ .takeCall id :: rest) ∧
      ∀ other, other ≠ rootFork → program.filterMap (leg? other) = [] := by
  cases use with
  | call _ use =>
    cases use with
    | call id input output =>
      refine ⟨.looks rfl ?_, nofun, fun _ _ => rfl⟩
      exact List.forall_mem_singleton.mpr (.unlessKnown id input output)
    | request id input => exact ⟨.looks rfl (List.forall_mem_nil _), nofun, fun _ _ => rfl⟩
    | publish id output =>
      exact ⟨.plain (List.forall_mem_singleton.mpr (.publishCall id output)), nofun,
        fun _ _ => rfl⟩
  | register pid other =>
    refine ⟨.plain ?_, nofun, fun _ _ => rfl⟩
    exact List.forall_mem_cons.mpr ⟨.enterRead, List.forall_mem_cons.mpr
      ⟨.register pid rfl other, List.forall_mem_singleton.mpr .leaveRead⟩⟩
  | told down =>
    refine ⟨.plain ?_, nofun, fun other apart => ?_⟩
    · exact List.forall_mem_cons.mpr
        ⟨.handle ⟨down, absurd rfl⟩, List.forall_mem_singleton.mpr (.answer _)⟩
    · rw [leg?_handle, down.fork, if_neg (Ne.symm apart)]

theorem Asking.turn (asking : Asking story) (follows : story.Follows next) :
    Asking next ∧ ∀ fork, fork ≠ rootFork → Change story next fork := by
  cases asking.comes follows with
  | acts todo step goes => exact asking.act todo step goes
  | starts begins use up down =>
    obtain ⟨stance, waits, fresh⟩ := use.begins
    exact asking.startsFresh begins up down stance waits fresh
  | hears begins first up down => exact asking.hears begins first up down
  | attends begins other first up down => exact asking.attends begins other first up down
  | takes first threads begun acts members up down =>
    exact asking.takenOff first threads begun acts members up down
  | joins new tree begun acts => exact asking.joins new tree begun acts

/-! Stories -/

theorem AtRest.held {tree : Tree} (atRest : tree.AtRest) (fork : UInt32) : tree.held fork = [] := by
  obtain ⟨root, here, pending, -⟩ := atRest.root
  rw [held_of_root here, ForkTable.pendingFor, pending, List.filter_nil]

/-- No fork has an errand out. -/
theorem AtRest.line {tree : Tree} (atRest : tree.AtRest) {fork : UInt32} (other : fork ≠ rootFork) :
    Line { tree } fork := by
  have free : (tree.slot fork).waiting = false := by
    unfold Tree.slot
    cases here : tree.members fork with
    | none => rfl
    | some context => exact atRest.slots fork context other here
  have nothing : tree.legs fork = [] := by
    rw [legs, Tree.lines, atRest.still, atRest.ups, atRest.held, atRest.downs,
      slotLegs_of_free free]
    rfl
  have home : Home { tree } fork := by
    refine ⟨?_, ?_⟩
    · rw [nothing]
      exact List.forall_mem_nil _
    · rintro thread id ⟨strand, rest, there, -⟩
      rw [atRest.still] at there
      cases there
  refine ⟨?_, Or.inl home⟩
  rw [home.requests]
  rfl

theorem AtRest.asking {tree : Tree} (atRest : tree.AtRest) : Asking { tree } := by
  have nobody {thread : Nat} {fork : UInt32} {strand : Strand} :
      tree.threads[thread]? ≠ some (fork, strand) := by
    rw [atRest.still]
    exact (Option.some_ne_none _).symm
  constructor
  case root =>
    obtain ⟨root, here, pending, handles⟩ := atRest.root
    refine ⟨root, here, handles, ?_, ?_⟩
    · rw [pending]
      exact List.forall_mem_nil _
    · intro fork process _
      rw [ForkTable.pendingFor, pending, List.filter_nil]
  case own => exact atRest.own
  case size =>
    rw [atRest.still]
    rfl
  case past => exact List.forall_mem_nil _
  case homes => exact fun _ _ _ there => absurd there nobody
  case stances => exact fun _ _ _ there => absurd there nobody
  case ups =>
    intro fork
    rw [atRest.ups]
    exact List.forall_mem_nil _
  case downs =>
    intro fork
    rw [atRest.downs]
    exact List.forall_mem_nil _
  case lines => exact fun fork other => atRest.line other

theorem Story.Uses.asking (uses : story.Uses) : Asking story := by
  induction uses with
  | begins atRest => exact atRest.asking
  | turn _ follows ih => exact (ih.turn follows).1

end Tree

end Playback
