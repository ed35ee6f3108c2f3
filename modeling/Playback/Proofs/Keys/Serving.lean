import Playback.Proofs.Keys.Steps

set_option autoImplicit false

namespace Playback

namespace Tree

theorem shelf_iff_holds {table : ForkTable Nat} : Shelf table ↔ Holds KeyDown table :=
  ⟨fun shelf => ⟨shelf.handles, shelf.pending, shelf.clear⟩,
    fun holds => ⟨holds.handles, holds.pending, holds.clear⟩⟩

/-- A response is held for a fork that is not registered. -/
theorem Shelf.hold {table : ForkTable Nat} (shelf : Shelf table) {target : UInt32}
    (other : target ≠ rootFork) {message : Message} (down : KeyDown target message)
    (absent : table.process? target = none) :
    Shelf { table with pending := table.pending ++ [message] } := by
  obtain rfl := down.fork
  exact shelf_iff_holds.mpr ((shelf_iff_holds.mp shelf).hold other down absent)

theorem Shelf.register {table : ForkTable Nat} (shelf : Shelf table) (target pid : UInt32) :
    Shelf (table.register target { pid, handle := target.toNat }).2 :=
  shelf_iff_holds.mpr ((shelf_iff_holds.mp shelf).register target pid)

/-- What the root has for a fork can be sent to it. -/
theorem Shelf.held {table : ForkTable Nat} (shelf : Shelf table) {target : UInt32}
    {message : Message} (there : message ∈ table.pendingFor target) : KeyDown target message :=
  (shelf_iff_holds.mp shelf).held there

section
variable {story next : Story} {act : Act} {strand later : Strand} {outcome : Outcome}
  {program rest : Program}

theorem Kept.of_root {tree : Tree} {acts : List Act} (kept : Kept tree acts) {root : Context}
    (here : tree.members rootFork = some root) :
    Shelf root.forks ∧ ∀ key, root.keys.get key = latest key acts := by
  obtain ⟨one, there, shelf, keys⟩ := kept.root
  rw [here] at there
  cases there
  exact ⟨shelf, keys⟩

/-- A setting takes effect at the root. -/
theorem Goes.kept_of_setting (goes : Goes story next act strand later outcome)
    (kept : Kept story.tree story.acts) (root : act.fork = rootFork) {key value : String}
    (setting : act.setting? = some (key, value))
    (framed : ∀ fork, (Message.sharedKeyResponse fork value).Framed)
    (own : outcome.context.fork = act.context.fork)
    (channel : outcome.context.channel = act.context.channel)
    (forks : outcome.context.forks = act.context.forks)
    (keys : outcome.context.keys = act.context.keys.set key value)
    (nothing : outcome.effects = []) : Kept next.tree next.acts := by
  obtain ⟨shelf, entries⟩ := kept.of_root (goes.here_root root)
  have now (other : String) : latest other next.acts =
      if key = other then value else latest other story.acts := by
    rw [goes.acts, latest_snoc, update_of_some setting]
  refine goes.kept kept own channel ?_ ?_ ?_ (absurd root) ?_
  · rw [nothing]
    exact List.forall_mem_nil _
  · rw [nothing]
    exact fun _ _ => List.forall_mem_nil _
  · intro _
    refine ⟨forks ▸ shelf, fun other => ?_⟩
    rw [keys, SharedKeys.get_set, now, entries]
    simp only [eq_comm]
  · intro other fork
    rw [now]
    split
    · exact framed fork
    · exact kept.framed other fork

theorem Keeping.atRoot (keeping : Keeping story)
    (goes : Goes story next act strand later outcome)
    (began : story.begun[act.thread]? = some program)
    (place : KeyPlace next.acts act.thread act.fork program later.todo later.value)
    (kept : Kept next.tree next.acts) (root : act.fork = rootFork) (target : UInt32)
    (others : ∀ fork, fork ≠ target → act.handles? fork = none ∧
      (fork ≠ rootFork → act.deals fork = false))
    (carried : ∀ fork, fork ≠ target →
      later.todo.filterMap (carries? fork) = strand.todo.filterMap (carries? fork))
    (returned : ∀ fork, fork ≠ target → (next.tree.back fork).Perm (story.tree.back fork))
    (line : target ≠ rootFork →
      ∃ errand : Errand, errand.Fits target next.acts (next.ways target)) : Keeping next := by
  refine keeping.goes goes kept began place ?_
  intro fork apart
  by_cases own : fork = target
  · subst own
    exact line apart
  · obtain ⟨errand, fits⟩ := keeping.lines fork apart
    have foreign : fork ≠ act.fork := by
      rw [root]
      exact apart
    have silent : act.sends? fork = none := if_neg (Ne.symm foreign)
    have alike : (story.ways fork).Alike (next.ways fork) :=
      goes.alike (carried fork own) (absurd · foreign) (returned fork own) (absurd · foreign)
        (absurd · foreign)
    obtain ⟨unhandled, idle⟩ := others fork own
    rw [goes.acts]
    exact ⟨errand, (fits.aside silent unhandled (idle apart)).alike alike⟩

/-- An action of the root leaves a fork its slot, its threads and what it has sent. -/
theorem Goes.apart_of_root (goes : Goes story next act strand later outcome)
    (root : act.fork = rootFork) {target : UInt32} (other : target ≠ rootFork) :
    next.tree.up target = story.tree.up target ∧
      next.tree.keySlot target = story.tree.keySlot target ∧
      ∀ thread key, next.Awaits target thread key ↔ story.Awaits target thread key := by
  have foreign : target ≠ act.fork := by
    rw [root]
    exact other
  refine ⟨?_, ?_, goes.awaits_same (absurd · foreign)⟩
  · rw [goes.up, if_neg foreign, List.append_nil]
  · rw [goes.keySlot, if_neg foreign]

/-- A thread of the root sets a key. -/
theorem Keeping.setsAtRoot (keeping : Keeping story)
    (goes : Goes story next act strand later outcome) {key value : String}
    (began : story.begun[act.thread]? = some [.setKey key value]) (root : act.fork = rootFork)
    (framed : (Message.sharedKeySet act.fork key value).Framed)
    (action : act.action = .setKey key value) (todo : strand.todo = [.setKey key value])
    (done : later.todo = []) (own : outcome.context.fork = act.context.fork)
    (channel : outcome.context.channel = act.context.channel)
    (forks : outcome.context.forks = act.context.forks)
    (keys : outcome.context.keys = act.context.keys.set key value)
    (nothing : outcome.effects = []) : Keeping next := by
  have setting : act.setting? = some (key, value) := by
    rw [Act.setting?, if_pos root, action]
  have kept := goes.kept_of_setting keeping.kept root setting framed.sharedKeyResponse own channel
    forks keys nothing
  refine keeping.atRoot goes began ?_ kept root rootFork ?_ ?_ ?_ (absurd rfl)
  · rw [done]
    exact .ends (fun _ same => by cases same) (List.forall_mem_nil _) later.value
  · intro fork _
    rw [Act.handles?, Act.deals, action]
    exact ⟨rfl, fun _ => rfl⟩
  · intro fork _
    rw [done, todo]
    rfl
  · intro fork _
    refine goes.back_same ?_
    rw [done, todo, goes.held_same fun _ => forks, goes.down_same fun _ => nothing]
    rfl

/-- A message of a fork is no longer in hand once it is handled. -/
theorem Goes.inHand_handled (goes : Goes story next act strand later outcome) {target : UInt32}
    {message : Message} (own : message.fork = target)
    (todo : strand.todo = .dispatchFork message :: rest)
    (quiet : ∀ action ∈ rest, Tree.idle action = true)
    (done : later.todo.filterMap (carries? target) = []) :
    ∃ front behind, story.tree.inHand target = front ++ message :: behind ∧
      next.tree.inHand target = front ++ behind := by
  obtain ⟨front, behind, before, after⟩ := goes.inHand target
  have carried : carries? target (.dispatchFork message) = some message := if_pos own
  refine ⟨front, behind, ?_, ?_⟩
  · rw [before, todo, List.filterMap_cons_some carried, (carries_of_quiet quiet target).1]
    rfl
  · rw [after, done, List.nil_append]

/-- What is on its way for one fork changes when the root handles a message of it. -/
theorem Keeping.dispatches (keeping : Keeping story)
    (goes : Goes story next act strand later outcome) {target : UInt32} {message : Message}
    (began : story.begun[act.thread]? = some program) (root : act.fork = rootFork)
    (other : target ≠ rootFork) (home : message.fork = target)
    (place : KeyPlace next.acts act.thread act.fork program later.todo later.value)
    (kept : Kept next.tree next.acts) (action : act.action = .dispatchFork message)
    (todo : strand.todo = .dispatchFork message :: rest)
    (quiet : ∀ action ∈ rest, Tree.idle action = true)
    (done : ∀ fork, later.todo.filterMap (carries? fork) = [])
    (returned : ∀ fork, fork ≠ target → (next.tree.back fork).Perm (story.tree.back fork))
    (line : ∀ {errand : Errand} {front behind : List Message},
      errand.Fits target story.acts (story.ways target) →
      story.tree.inHand target = front ++ message :: behind →
      ∃ (errand : Errand) (back : List Message), (next.tree.back target).Perm back ∧
        errand.Fits target (story.acts ++ [act])
          { story.ways target with inHand := front ++ behind, back }) : Keeping next := by
  refine keeping.atRoot goes began place kept root target ?_ ?_ returned ?_
  · intro fork apart
    have foreign : message.fork ≠ fork := by
      rw [home]
      exact Ne.symm apart
    rw [Act.handles?, Act.deals, action]
    exact ⟨if_neg fun own => foreign own.2, fun _ => by simp [foreign]⟩
  · intro fork apart
    have foreign : carries? fork (.dispatchFork message) = none := by
      refine if_neg ?_
      rw [home]
      exact Ne.symm apart
    rw [done, todo, List.filterMap_cons_none foreign, (carries_of_quiet quiet fork).1]
  · intro _
    obtain ⟨errand, fits⟩ := keeping.lines target other
    obtain ⟨front, behind, held, left⟩ := goes.inHand_handled home todo quiet (done target)
    obtain ⟨later, back, perm, now⟩ := line fits held
    obtain ⟨up, slot, awaits⟩ := goes.apart_of_root root other
    rw [goes.acts]
    exact ⟨later, now.alike ⟨left, up, perm, slot, awaits⟩⟩

/-- The root handles a setting of a fork. -/
theorem Keeping.handlesSetting (keeping : Keeping story)
    (goes : Goes story next act strand later outcome) {target : UInt32} {key value : String}
    (began : story.begun[act.thread]? =
      some (Program.handleFork (.sharedKeySet target key value)))
    (root : act.fork = rootFork) (other : target ≠ rootFork)
    (framed : (Message.sharedKeySet target key value).Framed)
    (action : act.action = .dispatchFork (.sharedKeySet target key value))
    (todo : strand.todo = .dispatchFork (.sharedKeySet target key value) :: rest)
    (goesOn : later.todo = rest) (quiet : ∀ action ∈ rest, Tree.idle action = true)
    (own : outcome.context.fork = act.context.fork)
    (channel : outcome.context.channel = act.context.channel)
    (forks : outcome.context.forks = act.context.forks)
    (keys : outcome.context.keys = act.context.keys.set key value)
    (nothing : outcome.effects = []) : Keeping next := by
  have handles : act.handles? target = some (.sharedKeySet target key value) := by
    rw [Act.handles?, action]
    exact if_pos ⟨root, rfl⟩
  have silent : act.sends? target = none := by
    refine if_neg ?_
    rw [root]
    exact Ne.symm other
  have deals : act.deals target = false := by
    rw [Act.deals, action]
    exact Bool.and_false _
  have setting := setting?_of_set handles framed
  have kept := goes.kept_of_setting keeping.kept root setting framed.sharedKeyResponse own channel
    forks keys nothing
  have back (fork : UInt32) : (next.tree.back fork).Perm (story.tree.back fork) := by
    refine goes.back_same ?_
    rw [goesOn, todo, goes.held_same fun _ => forks, goes.down_same fun _ => nothing]
    rfl
  refine keeping.dispatches goes began root other rfl ?_ kept action todo quiet ?_
    (fun fork _ => back fork) ?_
  · rw [goesOn]
    exact .ends (fun _ same => by cases same) quiet later.value
  · intro fork
    rw [goesOn]
    exact (carries_of_quiet quiet fork).1
  · intro errand front behind fits held
    exact ⟨errand, _, back target, fits.handles silent handles deals rfl held⟩

/-- The root handles a request of a fork, and has a response with the value of this moment. -/
theorem Keeping.servesRequest (keeping : Keeping story)
    (goes : Goes story next act strand later outcome) {target : UInt32} {key : String}
    (began : story.begun[act.thread]? = some (Program.handleFork (.sharedKeyRequest target key)))
    (root : act.fork = rootFork) (other : target ≠ rootFork)
    (action : act.action = .dispatchFork (.sharedKeyRequest target key))
    (todo : strand.todo = .dispatchFork (.sharedKeyRequest target key) :: rest)
    (goesOn : later.todo =
      .route (.sharedKeyResponse target (act.context.keys.get key)) :: rest)
    (quiet : ∀ action ∈ rest, Tree.idle action = true)
    (context : outcome.context = act.context) (nothing : outcome.effects = []) :
    Keeping next := by
  have setting : act.setting? = none := by
    rw [Act.setting?, if_pos root, action]
    rfl
  have forks : outcome.context.forks = act.context.forks := by rw [context]
  have kept := goes.kept_of_still keeping.kept setting
    ⟨by rw [context], by rw [context], forks, by rw [context], nothing⟩
  rw [(keeping.kept.of_root (goes.here_root root)).2 key] at goesOn
  have framed := keeping.kept.framed key target
  refine keeping.dispatches goes began root other rfl ?_ kept action todo quiet ?_ ?_ ?_
  · rw [goesOn]
    exact .answers root other (.response framed) quiet later.value
  · intro fork
    rw [goesOn]
    exact (carries_of_quiet quiet fork).1
  · intro fork apart
    have foreign : returns? fork (.route (.sharedKeyResponse target (latest key story.acts))) =
        none := if_neg (Ne.symm apart)
    refine goes.back_same ?_
    rw [goesOn, todo, List.filterMap_cons_none foreign, goes.held_same fun _ => forks,
      goes.down_same fun _ => nothing]
    rfl
  · intro errand front behind fits held
    obtain ⟨thread, served⟩ := fits.serves other ⟨root, action⟩ held
    refine ⟨_, _, ?_, served⟩
    obtain ⟨others, before, after⟩ := goes.back target
    have returns : returns? target (.route (.sharedKeyResponse target (latest key story.acts))) =
        some (.sharedKeyResponse target (latest key story.acts)) := if_pos rfl
    rw [goesOn, List.filterMap_cons_some returns, goes.held_same fun _ => forks,
      goes.down_same fun _ => nothing] at after
    rw [todo, (List.filterMap_cons_none rfl : (Action.dispatchFork
      (.sharedKeyRequest target key) :: rest).filterMap (returns? target) = _)] at before
    exact after.trans (List.perm_middle.trans (before.symm.cons _))

/-- The root hands messages down to the forks, or holds them. Nothing gets lost on the way. -/
theorem Keeping.handsDown (keeping : Keeping story)
    (goes : Goes story next act strand later outcome)
    (began : story.begun[act.thread]? = some program)
    (place : KeyPlace (story.acts ++ [act]) act.thread act.fork program later.todo later.value)
    (root : act.fork = rootFork) {one : Action} (action : act.action = one)
    (still : stirs one = false) (todo : strand.todo = one :: rest) (goesOn : later.todo = rest)
    (own : outcome.context.fork = act.context.fork)
    (channel : outcome.context.channel = act.context.channel)
    (keys : outcome.context.keys = act.context.keys)
    (carried : ∀ fork, carries? fork one = none) (shelf : Shelf outcome.context.forks)
    (ups : outcome.effects.filterMap upward? = [])
    (downs : ∀ fork, ∀ message ∈ outcome.effects.filterMap (downward? fork),
      fork ≠ rootFork ∧ KeyDown fork message)
    (moves : ∀ fork, (outcome.context.forks.pendingFor fork ++
      (story.tree.down fork ++ outcome.effects.filterMap (downward? fork))).Perm
        ((returns? fork one).toList ++
          (act.context.forks.pendingFor fork ++ story.tree.down fork))) : Keeping next := by
  subst action
  obtain ⟨setting, silent, unhandled, idle⟩ := Act.aside still
  obtain ⟨-, entries⟩ := keeping.kept.of_root (goes.here_root root)
  have before (key : String) : latest key next.acts = latest key story.acts := by
    rw [goes.acts, latest_of_none setting]
  have kept : Kept next.tree next.acts := by
    refine goes.kept keeping.kept own channel ?_ (fun _ => downs) ?_ (absurd root) ?_
    · rw [ups]
      exact List.forall_mem_nil _
    · refine fun _ => ⟨shelf, fun key => ?_⟩
      rw [keys, before]
      exact entries key
    · intro key fork
      rw [before]
      exact keeping.kept.framed key fork
  rw [← goes.acts] at place
  refine keeping.goes goes kept began place ?_
  intro fork apart
  have foreign : fork ≠ act.fork := by
    rw [root]
    exact apart
  obtain ⟨errand, fits⟩ := keeping.lines fork apart
  have alike : (story.ways fork).Alike (next.ways fork) := by
    refine goes.alike ?_ (absurd · foreign) (goes.back_same ?_) (absurd · foreign)
      (absurd · foreign)
    · rw [goesOn, todo, List.filterMap_cons_none (carried fork)]
    · rw [goes.held, if_pos root, goes.down, if_pos root, held_of_root (goes.here_root root),
        goesOn, todo, filterMap_cons_toList]
      refine ((moves fork).append_left _).trans ?_
      rw [← List.append_assoc]
      exact (List.perm_append_comm).append_right _
  rw [goes.acts]
  exact ⟨errand, (fits.aside (silent fork) (unhandled fork) (idle fork)).alike alike⟩

/-- The response to a fork goes to it, or is held. -/
theorem Keeping.answers (keeping : Keeping story)
    {target : UInt32} {request answer : Message}
    (goes : Goes story next act strand later (act.context.route answer))
    (began : story.begun[act.thread]? = some (Program.handleFork request))
    (root : act.fork = rootFork) (other : target ≠ rootFork) (down : KeyDown target answer)
    (action : act.action = .route answer) (todo : strand.todo = .route answer :: rest)
    (goesOn : later.todo = rest) (quiet : ∀ action ∈ rest, Tree.idle action = true) :
    Keeping next := by
  obtain ⟨shelf, -⟩ := keeping.kept.of_root (goes.here_root root)
  have own : answer.fork = target := down.fork
  have place : KeyPlace (story.acts ++ [act]) act.thread act.fork (Program.handleFork request)
      later.todo later.value := by
    rw [goesOn]
    exact .ends (fun _ same => by cases same) quiet later.value
  have returned (fork : UInt32) :
      (returns? fork (.route answer)).toList = if target = fork then [answer] else [] := by
    rw [← own]
    unfold returns?
    dsimp only
    split <;> rfl
  cases present : act.context.forks.process? answer.fork with
  | none =>
    rw [route_held present] at goes
    refine keeping.handsDown goes began place root action rfl todo goesOn rfl rfl rfl
      (fun _ => rfl) (shelf.hold other down (own ▸ present)) rfl (fun _ => List.forall_mem_nil _) ?_
    intro fork
    rw [returned, pendingFor_snoc, own, List.filterMap_nil, List.append_nil, List.append_assoc]
    exact List.perm_append_comm_assoc _ _ _
  | some process =>
    rw [route_sent down present (shelf.handles answer.fork process present)] at goes
    have whole : carried [answer] = [answer] :=
      carried_of_framed (List.forall_mem_singleton.mpr down.framed)
    refine keeping.handsDown goes began place root action rfl todo goesOn rfl rfl rfl
      (fun _ => rfl) shelf (upward?_sends other _) ?_ ?_
    · intro fork message there
      rw [downward?_sends other, whole] at there
      obtain ⟨same, there⟩ := List.mem_ite_nil_right.mp there
      rw [List.mem_singleton.mp there, same]
      exact ⟨other, down⟩
    · intro fork
      rw [returned, downward?_sends other, whole, ← List.append_assoc]
      simp only [eq_comm]
      exact List.perm_append_comm

/-- The root enters a fork into its table and sends it what was held for it. -/
theorem Keeping.enrolls (keeping : Keeping story)
    {target pid : UInt32}
    (goes : Goes story next act strand later (act.context.register target pid target.toNat))
    (began : story.begun[act.thread]? = some (Machine.registering target pid target.toNat))
    (root : act.fork = rootFork) (other : target ≠ rootFork)
    (action : act.action = .register target pid target.toNat)
    (todo : strand.todo = .register target pid target.toNat :: rest)
    (goesOn : later.todo = rest) (quiet : ∀ action ∈ rest, Tree.idle action = true) :
    Keeping next := by
  obtain ⟨shelf, -⟩ := keeping.kept.of_root (goes.here_root root)
  have place : KeyPlace (story.acts ++ [act]) act.thread act.fork
      (Machine.registering target pid target.toNat) later.todo later.value := by
    rw [goesOn]
    exact .ends (fun _ same => by cases same) quiet later.value
  have returned (fork : UInt32) : returns? fork (.register target pid target.toNat) = none := rfl
  have effects := register_effects act.context target pid
  have whole : carried (act.context.forks.pendingFor target) =
      act.context.forks.pendingFor target :=
    carried_of_framed fun _ there => (shelf.held there).framed
  refine keeping.handsDown goes began place root action rfl todo goesOn rfl rfl rfl
    (fun _ => rfl) (shelf.register target pid) ?_ ?_ ?_
  · rw [effects]
    exact upward?_sends other _
  · intro fork message there
    rw [effects, downward?_sends other, whole] at there
    obtain ⟨same, there⟩ := List.mem_ite_nil_right.mp there
    rw [same]
    exact ⟨other, shelf.held there⟩
  · intro fork
    have pending : (act.context.register target pid target.toNat).context.forks.pendingFor fork =
        if fork = target then [] else act.context.forks.pendingFor fork :=
      ForkTable.pendingFor_register ..
    rw [returned, effects, downward?_sends other, whole, pending, Option.toList_none,
      List.nil_append]
    by_cases same : fork = target
    · rw [if_pos same, if_pos same, same, List.nil_append]
      exact List.perm_append_comm
    · rw [if_neg same, if_neg same, List.append_nil]

end

end Tree

end Playback
