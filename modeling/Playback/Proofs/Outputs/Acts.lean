import Playback.Proofs.Outputs.Steps

set_option autoImplicit false

namespace Playback

namespace Tree

section
variable {story next : Story} {act : Act} {strand later : Strand} {outcome : Outcome}
  {program rest : Program}

/-! At the root -/

/-- The root takes up a request, and its answer is on its way. -/
theorem Asking.serves (asking : Asking story) (goes : Goes story next act strand later outcome)
    (began : story.begun[act.thread]? = some program)
    (stance : Stance act.fork program (did act.thread story.acts ++ [act.action]) later.todo)
    (root : act.fork = rootFork) {target : UInt32} {id : CallId} {input : Bytes} {answer : Message}
    (action : act.action = .dispatchFork (.externalCallRequest target id.number input))
    (down : CallDown target answer) (todo : strand.todo = act.action :: rest)
    (goesOn : later.todo = .route answer :: rest) (routes : outcome.next = [.route answer])
    (same : outcome.context = act.context) (nothing : outcome.effects = []) :
    Asking next ∧ ∀ fork, fork ≠ rootFork → Change story next fork := by
  have follows : later.todo = outcome.next ++ rest := goesOn.trans (by rw [routes]; rfl)
  have silent (fork : UInt32) : act.requests? fork = none := by
    rw [Act.requests?, action]
    exact ite_self _
  have waits (id : CallId) (tail : Program) :
      strand.todo ≠ .takeCall id :: tail ∧ later.todo ≠ .takeCall id :: tail := by
    rw [todo, action, goesOn]
    constructor <;>
    · intro same
      cases same
  have lines {fork : UInt32} (apart : fork ≠ act.fork) :
      next.tree.lines fork = story.tree.lines fork := by
    refine goes.lines_same (absurd · apart) (absurd · apart) (fun _ => ?_) fun _ => ?_
    · rw [same]
    · rw [nothing]
      rfl
  refine asking.goes goes began stance (by rw [same]) (by rw [same]) ?_ ?_ ?_ ?_
  · intro top
    rw [same]
    exact asking.of_root (goes.here_root top)
  · rw [nothing]
    exact List.forall_mem_nil _
  · intro _ fork
    rw [nothing]
    exact List.forall_mem_nil _
  · intro fork other
    have apart : fork ≠ act.fork := root ▸ other
    by_cases own : fork = target
    · subst own
      obtain ⟨others, before, after⟩ := goes.legs todo follows fork
      have request : leg? fork act.action =
          some (.request (.externalCallRequest fork id.number input)) := by
        rw [action]
        exact if_pos ⟨rfl, rfl⟩
      have answers : leg? fork (.route answer) = some (.answer answer) := if_pos down.fork
      have handled : act.answers? fork = some (.externalCallRequest fork id.number input) := by
        rw [Act.answers?, if_pos root, action]
        exact if_pos ⟨rfl, rfl⟩
      rw [request] at before
      rw [routes, filterMap_cons_toList, answers, lines apart] at after
      refine .serves before after ?_ (goes.awaitsOutput_same fun _ => waits)
        (goes.asked_same (silent fork)) ?_
      · rw [goes.slot, if_neg apart]
      · rw [goes.acts, answered, filterMap_snoc, handled]
        rfl
    · have foreign : leg? fork act.action = none := by
        rw [action]
        exact if_neg fun same => own same.1.symm
      have elsewhere : leg? fork (.route answer) = none :=
        if_neg fun same => own (same.symm.trans down.fork)
      have unanswered : act.answers? fork = none := by
        rw [Act.answers?, if_pos root, action]
        exact if_neg fun same => own same.1.symm
      refine goes.calm (goes.legs_same todo follows ?_ (lines apart)) (absurd · apart)
        (absurd · apart) (silent fork) unanswered
      rw [routes, foreign, filterMap_cons_toList, elsewhere]
      rfl

/-- What the root holds for a fork, and what it has sent to it. -/
theorem Goes.lines_at_root (goes : Goes story next act strand later outcome)
    (root : act.fork = rootFork) {fork : UInt32} (other : fork ≠ rootFork) {ups : List Leg}
    (up : (story.tree.up fork).filterMap upLeg? = ups) :
    story.tree.lines fork = ups ++
        ((act.context.forks.pendingFor fork ++ story.tree.down fork).map .answer ++
          slotLegs (story.tree.slot fork)) ∧
      next.tree.lines fork = ups ++
        ((outcome.context.forks.pendingFor fork ++ (story.tree.down fork ++
          outcome.effects.filterMap (downward? fork))).map .answer ++
            slotLegs (story.tree.slot fork)) := by
  have apart : fork ≠ act.fork := root ▸ other
  constructor
  · rw [Tree.lines, up, held_of_root (goes.here_root root)]
  · rw [Tree.lines, goes.up, if_neg apart, List.append_nil, up, goes.held, if_pos root, goes.down,
      if_pos root, goes.slot, if_neg apart]

/-- The root sends messages to a fork, or holds them: those that it held for it and the one that
the thread has. -/
theorem Asking.passes (asking : Asking story) (sent brought : List Message)
    (goes : Goes story next act strand later outcome)
    (began : story.begun[act.thread]? = some program)
    (stance : Stance act.fork program (did act.thread story.acts ++ [act.action]) later.todo)
    (root : act.fork = rootFork) {target : UInt32} (away : target ≠ rootFork)
    (todo : strand.todo = act.action :: rest) (goesOn : later.todo = rest)
    (last : outcome.next = []) (still : stirsCall act.action = false)
    (own : outcome.context.fork = act.context.fork)
    (channel : outcome.context.channel = act.context.channel)
    (holds : Holds CallDown outcome.context.forks)
    (effects : outcome.effects = sent.map (Effect.send target.toNat))
    (fits : ∀ message ∈ sent, CallDown target message)
    (leg : ∀ fork,
      (leg? fork act.action).toList = (if fork = target then brought else []).map .answer)
    (moves : (outcome.context.forks.pendingFor target ++ sent).Perm
      (act.context.forks.pendingFor target ++ brought))
    (others : ∀ fork, fork ≠ target →
      outcome.context.forks.pendingFor fork = act.context.forks.pendingFor fork) :
    Asking next ∧ ∀ fork, fork ≠ rootFork → Change story next fork := by
  have downs (fork : UInt32) : outcome.effects.filterMap (downward? fork) =
      carried (if fork = target then sent else []) := by
    rw [effects, downward?_sends away]
    split <;> rfl
  refine asking.goes goes began stance own channel (fun _ => holds) ?_ ?_ ?_
  · rw [effects, upward?_sends away]
    exact List.forall_mem_nil _
  · intro _ fork message there
    rw [downs] at there
    obtain ⟨same, there⟩ := List.mem_ite_nil_right.mp (carried_subset _ there)
    rw [same]
    exact ⟨away, fits message there⟩
  · intro fork other
    have apart : fork ≠ act.fork := root ▸ other
    obtain ⟨asked, handled⟩ := act.requests?_of_not still fork
    obtain ⟨behind, before, after⟩ := goes.legs todo (goesOn.trans (by rw [last]; rfl)) fork
    obtain ⟨linesBefore, linesAfter⟩ := goes.lines_at_root root other rfl
    rw [leg, linesBefore] at before
    rw [last, linesAfter, downs] at after
    have passed : (outcome.context.forks.pendingFor fork ++ if fork = target then sent else []).Perm
        (act.context.forks.pendingFor fork ++ if fork = target then brought else []) := by
      by_cases same : fork = target
      · rw [if_pos same, if_pos same, same]
        exact moves
      · rw [if_neg same, if_neg same, others fork same]
    have slot : (next.tree.slot fork).waiting = (story.tree.slot fork).waiting := by
      rw [goes.slot, if_neg apart]
    refine @Line.posts _ _ _ (asking.lines fork other) (if fork = target then sent else [])
      (behind ++ ((story.tree.up fork).filterMap upLeg? ++
        ((outcome.context.forks.pendingFor fork ++ story.tree.down fork).map .answer ++
          slotLegs (story.tree.slot fork))))
      (before.trans ?_) (after.trans ?_) slot (goes.awaitsOutput_same (absurd · apart))
      (goes.asked_same asked) (goes.handled_same handled)
    · rw [List.perm_iff_count]
      intro one
      have counts := (passed.map Leg.answer).count_eq one
      simp only [List.map_append, List.count_append] at counts ⊢
      omega
    · rw [List.perm_iff_count]
      intro one
      simp only [List.filterMap_nil, List.nil_append, List.map_append, List.count_append]
      omega

/-- The answer to a request is sent to its fork, or held for it. -/
theorem Asking.answers (asking : Asking story) {target : UInt32} {answer : Message}
    (goes : Goes story next act strand later (act.context.route answer))
    (began : story.begun[act.thread]? = some program)
    (stance : Stance act.fork program (did act.thread story.acts ++ [act.action]) later.todo)
    (root : act.fork = rootFork) (other : target ≠ rootFork) (down : CallDown target answer)
    (action : act.action = .route answer) (todo : strand.todo = act.action :: rest)
    (goesOn : later.todo = rest) :
    Asking next ∧ ∀ fork, fork ≠ rootFork → Change story next fork := by
  have holds := asking.of_root (goes.here_root root)
  have leg (fork : UInt32) :
      (leg? fork act.action).toList = (if fork = target then [answer] else []).map .answer := by
    rw [action]
    change (if answer.fork = fork then some (Leg.answer answer) else none).toList = _
    rw [down.fork]
    by_cases same : fork = target
    · rw [if_pos same, if_pos same.symm]
      rfl
    · rw [if_neg same, if_neg (Ne.symm same)]
      rfl
  have still : stirsCall act.action = false := by
    rw [action]
    rfl
  cases present : act.context.forks.process? answer.fork with
  | none =>
    rw [route_held present] at goes
    have held := holds.hold (down.fork ▸ other) (down.fork.symm ▸ down) present
    refine asking.passes [] [answer] goes began stance root other todo goesOn rfl still rfl rfl held
      rfl (List.forall_mem_nil _) leg ?_ ?_
    · rw [pendingFor_snoc, if_pos down.fork, List.append_nil]
    · intro fork apart
      rw [pendingFor_snoc, down.fork, if_neg (Ne.symm apart), List.append_nil]
  | some process =>
    rw [route_delivers down.not_ends present (holds.handles _ _ present), down.fork] at goes
    exact asking.passes [answer] [answer] goes began stance root other todo goesOn rfl still rfl rfl
      holds rfl (List.forall_mem_singleton.mpr down) leg (List.Perm.refl _) fun _ _ => rfl

/-- A fork is registered, and gets what was held for it. -/
theorem Asking.enrolls (asking : Asking story) {target pid : UInt32}
    (goes : Goes story next act strand later (act.context.register target pid target.toNat))
    (began : story.begun[act.thread]? = some program)
    (stance : Stance act.fork program (did act.thread story.acts ++ [act.action]) later.todo)
    (root : act.fork = rootFork) (other : target ≠ rootFork)
    (action : act.action = .register target pid target.toNat)
    (todo : strand.todo = act.action :: rest) (goesOn : later.todo = rest) :
    Asking next ∧ ∀ fork, fork ≠ rootFork → Change story next fork := by
  have holds := asking.of_root (goes.here_root root)
  have still : stirsCall act.action = false := by
    rw [action]
    rfl
  have pending (fork : UInt32) :
      (act.context.register target pid target.toNat).context.forks.pendingFor fork =
        if fork = target then [] else act.context.forks.pendingFor fork :=
    ForkTable.pendingFor_register ..
  refine asking.passes (act.context.forks.pendingFor target) [] goes began stance root other todo
    goesOn rfl still rfl rfl (holds.register target pid)
    (register_effects act.context target pid) (fun message there => holds.held there) ?_ ?_ ?_
  · intro fork
    rw [action]
    split <;> rfl
  · rw [pending, if_pos rfl, List.nil_append, List.append_nil]
  · intro fork apart
    rw [pending, if_neg apart]

/-! Any action -/

theorem not_awaits_of_proper {owner : UInt32} {todo : Program}
    (proper : ∀ action ∈ todo, Proper owner action) (id : CallId) (behind : Program) :
    todo ≠ .takeCall id :: behind := by
  rintro rfl
  cases proper _ List.mem_cons_self

/-- A thread that neither awaits an output nor handles a message of a fork. -/
theorem Asking.plain (asking : Asking story) (goes : Goes story next act strand later outcome)
    (began : story.begun[act.thread]? = some program)
    {one : Action} (action : act.action = one) (todo : strand.todo = one :: rest)
    (goesOn : later.todo = outcome.next ++ rest)
    (before : ∀ action ∈ one :: rest, Proper act.fork action)
    (new : ∀ action ∈ outcome.next, Proper act.fork action) (even : Even act.context outcome)
    (leg : ∀ fork, outcome.next.filterMap (leg? fork) = (leg? fork one).toList)
    (nothing : outcome.effects = []) :
    Asking next ∧ ∀ fork, fork ≠ rootFork → Change story next fork := by
  have after : ∀ action ∈ later.todo, Proper act.fork action := by
    rw [goesOn]
    exact List.forall_mem_append.mpr ⟨new, fun other there =>
      before other (List.mem_cons_of_mem _ there)⟩
  refine asking.inside goes began (.plain after) action todo goesOn even leg nothing ?_ ?_
    (not_awaits_of_proper after)
  · cases before one List.mem_cons_self <;> rfl
  · rintro id rfl
    cases before _ List.mem_cons_self

end

section
variable {story next : Story} {act : Act} {strand : Strand} {program rest : Program}
  {outcome : Outcome}

/-- An action of a thread that neither awaits an output nor handles a message of a fork. -/
theorem Asking.proper (asking : Asking story)
    (began : story.begun[act.thread]? = some program) {one : Action}
    (action : act.action = one) (todo : strand.todo = one :: rest)
    (proper : ∀ action ∈ one :: rest, Proper act.fork action)
    (step : act.context.step strand.main strand.value {} one = some outcome)
    (goes : Goes story next act strand
      { strand with todo := outcome.next ++ rest, value := outcome.value.getD strand.value }
      outcome) :
    Asking next ∧ ∀ fork, fork ≠ rootFork → Change story next fork := by
  obtain ⟨own, channel⟩ := asking.own act.fork act.context goes.here
  obtain ⟨first, behind⟩ := List.forall_mem_cons.mp proper
  have whole : strand.todo = act.action :: rest := todo.trans (by rw [action])
  cases first with
  | performUnlessKnown id input output =>
    cases Option.some.inj step
    unfold Context.performUnlessKnown at goes
    split at goes
    · exact asking.plain goes began action todo rfl proper (List.forall_mem_nil _)
        ⟨rfl, rfl, rfl, rfl⟩ (fun _ => rfl) rfl
    · refine asking.plain goes began action todo rfl proper ?_ ⟨rfl, rfl, rfl, rfl⟩
        (fun _ => rfl) rfl
      exact List.forall_mem_cons.mpr
        ⟨.publishCall id output, List.forall_mem_singleton.mpr (.answer _)⟩
  | publishCall id output =>
    cases Option.some.inj step
    refine asking.plain goes began action todo rfl proper ?_ ⟨rfl, rfl, rfl, ?_⟩ (fun _ => rfl) rfl
    · rw [own]
      exact List.forall_mem_singleton.mpr (.send id output)
    · exact ExternalCalls.slot_insert ..
  | keepCall id output =>
    cases Option.some.inj step
    exact asking.plain goes began action todo rfl proper (List.forall_mem_nil _)
      ⟨rfl, rfl, rfl, ExternalCalls.slot_insert ..⟩ (fun _ => rfl) rfl
  | send id output =>
    cases Option.some.inj step
    have effects := sendEffects_upstream channel (.externalCallResponse act.fork id.number output)
    refine asking.still goes began (.plain behind) action todo rfl ⟨rfl, rfl, rfl, rfl⟩
      (fun _ => rfl) ?_ (fun fork => ?_) rfl nofun (not_awaits_of_proper behind)
    · change ∀ message ∈ (act.context.sendEffects _).filterMap upward?, _
      rw [effects, upward?_upstream]
      intro message there
      rw [List.mem_singleton.mp (carried_subset _ there)]
      exact ⟨.report id output, rfl⟩
    · change (act.context.sendEffects _).filterMap _ = []
      rw [effects, downward?_upstream]
  | enterRead =>
    obtain ⟨lock, -, same⟩ := Option.map_eq_some_iff.mp step
    cases same
    exact asking.plain goes began action todo rfl proper (List.forall_mem_nil _)
      ⟨rfl, rfl, rfl, rfl⟩ (fun _ => rfl) rfl
  | answer | leaveRead =>
    cases Option.some.inj step
    exact asking.plain goes began action todo rfl proper (List.forall_mem_nil _)
      ⟨rfl, rfl, rfl, rfl⟩ (fun _ => rfl) rfl
  | handle arrives =>
    cases Option.some.inj step
    rw [handle_of_callDown own arrives.down] at goes
    refine asking.plain goes began action todo rfl proper ?_ ⟨rfl, rfl, rfl, rfl⟩
      (fun _ => leg?_underLock rfl) rfl
    exact List.forall_mem_cons.mpr ⟨.enterRead, List.forall_mem_cons.mpr
      ⟨.dispatch arrives, List.forall_mem_singleton.mpr .leaveRead⟩⟩
  | dispatch arrives =>
    cases Option.some.inj step
    obtain ⟨tag, output, conveys⟩ := arrives.down.conveys
    rw [dispatch_of_conveys _ _ conveys] at goes
    exact asking.dispatches goes began conveys arrives action todo rfl rfl behind rfl rfl rfl
      rfl rfl
  | register pid root other =>
    cases Option.some.inj step
    exact asking.enrolls goes began (.plain behind) root other action whole rfl

end

/-- A thread takes an action. -/
theorem Asking.act {story next : Story} (asking : Asking story) {act : Act} {strand : Strand}
    {rest : Program} {outcome : Outcome} (todo : strand.todo = act.action :: rest)
    (step : act.context.step strand.main strand.value {} act.action = some outcome)
    (goes : Goes story next act strand
      { strand with todo := outcome.next ++ rest, value := outcome.value.getD strand.value }
      outcome) :
    Asking next ∧ ∀ fork, fork ≠ rootFork → Change story next fork := by
  obtain ⟨own, channel⟩ := asking.own act.fork act.context goes.here
  obtain ⟨program, began, stance⟩ := asking.stances act.thread act.fork strand goes.there
  have whole := todo
  have ends : ∀ action ∈ [.leaveRead, .answer .done], Proper act.fork action :=
    List.forall_mem_cons.mpr ⟨.leaveRead, List.forall_mem_singleton.mpr (.answer _)⟩
  rw [todo] at stance
  generalize action : act.action = one at todo step stance
  generalize past : did act.thread story.acts = done at stance
  cases stance with
  | plain proper => exact asking.proper began action todo proper step goes
  | looks opens performs =>
    cases Option.some.inj step
    unfold Context.lookupCall at goes
    split at goes
    · have proper := proper_of_performs performs act.fork
      exact asking.inside goes began (.plain proper) action todo rfl ⟨rfl, rfl, rfl, rfl⟩
        (fun _ => rfl) rfl rfl nofun (not_awaits_of_proper proper)
    · refine asking.inside goes began ?_ action todo rfl ⟨rfl, rfl, rfl, rfl⟩ (fun _ => rfl) rfl
        rfl nofun nofun
      rw [past, action, own]
      exact .claims opens performs
  | claims opens performs =>
    obtain ⟨slot, claimed, same⟩ := Option.map_eq_some_iff.mp step
    obtain ⟨free, claimed⟩ := Option.ite_none_left_eq_some.mp claimed
    cases claimed
    cases same
    refine asking.claims goes began action whole rfl rfl ?_ (Bool.eq_false_of_not_eq_true free)
      rfl rfl rfl rfl (sendEffects_upstream channel _)
    rw [past, action]
    exact .takes opens performs
  | takes opens performs =>
    obtain ⟨⟨⟨tag, output⟩, slot⟩, taken, same⟩ := Option.map_eq_some_iff.mp step
    obtain ⟨response, there, pair⟩ := Option.map_eq_some_iff.mp taken
    cases pair
    cases same
    refine asking.takes goes began action todo rfl there ?_ (fun _ => ?_) rfl rfl rfl rfl rfl
    · refine List.forall_mem_append.mpr ⟨fun kept there => ?_, proper_of_performs performs _⟩
      obtain ⟨-, there⟩ := List.mem_ite_nil_right.mp there
      cases List.mem_singleton.mp there
      exact .keepCall ..
    · dsimp only
      split <;> rfl
  | attends root other up opens =>
    cases Option.some.inj step
    refine asking.inside goes began ?_ action todo rfl ⟨rfl, rfl, rfl, rfl⟩
      (fun _ => leg?_underLock rfl) rfl rfl nofun nofun
    rw [past, action]
    exact .enters root other up opens
  | enters root other up opens =>
    obtain ⟨lock, -, same⟩ := Option.map_eq_some_iff.mp step
    cases same
    refine asking.inside goes began ?_ action todo rfl ⟨rfl, rfl, rfl, rfl⟩ (fun _ => rfl) rfl rfl
      nofun nofun
    rw [past, action]
    exact .serves root other up opens
  | @serves target message root other up opens =>
    cases Option.some.inj step
    cases up with
    | request id input =>
      rw [dispatchFork_callRequest] at goes
      refine asking.serves goes began ?_ root action (callResponse_down ..) whole rfl rfl rfl rfl
      rw [past, action]
      exact .routes root other (callResponse_down ..) opens
    | report id output =>
      rw [dispatchFork_report] at goes
      refine asking.inside goes began (.plain ends) action todo rfl
        ⟨rfl, rfl, rfl, ExternalCalls.slot_insert ..⟩ (fun fork => ?_) rfl rfl nofun nofun
      have none :
          leg? fork (.dispatchFork (.externalCallResponse target id.number output)) = none :=
        if_neg (not_and_of_not_right _ Bool.false_ne_true)
      rw [none]
      rfl
  | routes root other down opens =>
    cases Option.some.inj step
    exact asking.answers goes began (.plain ends) root other down action whole rfl

end Tree

end Playback
