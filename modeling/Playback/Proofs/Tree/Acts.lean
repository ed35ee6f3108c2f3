import Playback.Proofs.Tree.Changes

set_option autoImplicit false

namespace Playback

namespace Tree

variable {tree : Tree} {asked : UInt32 → Option CallId}

/-! Actions -/

/-- A thread that stands somewhere among the others, in a process, before an action. -/
structure Stands (tree : Tree) (front back : List (UInt32 × Strand)) (fork : UInt32)
    (strand : Strand) (context : Context) (action : Action) (rest : Program) : Prop where
  there : tree.threads = front ++ (fork, strand) :: back
  here : tree.members fork = some context
  todo : strand.todo = action :: rest

section
variable {front back : List (UInt32 × Strand)} {fork : UInt32} {strand : Strand}
  {context : Context} {action : Action} {rest : Program}

theorem Sound.taking {known : Knowledge} {owner : UInt32} {todo : Program}
    (sound : ∀ action ∈ todo, Sound known asked owner action) (other : UInt32) :
    taking owner other todo = 0 := by
  cases todo with
  | nil => rfl
  | cons action rest =>
    cases sound action List.mem_cons_self <;> rfl

theorem Sound.append {known : Knowledge} {owner : UInt32} {first rest : Program}
    (sound : ∀ action ∈ first, Sound known asked owner action)
    (others : ∀ action ∈ rest, Sound known asked owner action) :
    ∀ action ∈ first ++ rest, Sound known asked owner action := by
  intro action there
  rcases List.mem_append.mp there with first | second
  · exact sound action first
  · exact others action second

theorem Stands.mem (stands : Stands tree front back fork strand context action rest) :
    (fork, strand) ∈ tree.threads := by
  rw [stands.there]
  exact List.mem_append_right _ List.mem_cons_self

/-- What is left to do behind an action has no more errands than the action had. -/
theorem Stands.less (stands : Stands tree front back fork strand context action rest)
    {next : Program} (less : ∀ other, errands fork other next ≤ errand fork other action)
    (other : UInt32) : errands fork other (next ++ rest) ≤ errands fork other strand.todo := by
  rw [stands.todo, errands_append, errands_cons]
  exact Nat.add_le_add_right (less other) _

/-- The thread goes on with sound actions. -/
theorem Sane.forward (sane : Sane tree asked)
    (stands : Stands tree front back fork strand context action rest)
    (others : ∀ action ∈ rest, Sound tree.knowledge asked fork action) {next : Program}
    (sound : ∀ action ∈ next, Sound tree.knowledge asked fork action)
    (less : ∀ other, errands fork other next ≤ errand fork other action) (value : Reply) :
    Sane (tree.setThread front.length fork { strand with todo := next ++ rest, value }) asked :=
  sane.goesOn stands.there (.plain (Sound.append sound others))
    (Sound.taking (Sound.append sound others)) (stands.less less)

/-- An action that remembers an output. -/
theorem Sane.remember (sane : Sane tree asked)
    (stands : Stands tree front back fork strand context action rest)
    (others : ∀ action ∈ rest, Sound tree.knowledge asked fork action) {id : CallId}
    {output : Bytes} (sourced : Sourced tree.knowledge fork id output)
    {next : Program} (sound : ∀ action ∈ next, Sound tree.knowledge asked fork action)
    (less : ∀ other, errands fork other next ≤ errand fork other action) (value : Reply) :
    Sane ((tree.setMember fork { context with calls := context.calls.insert id output }).setThread
      front.length fork { strand with todo := next ++ rest, value }) asked :=
  (sane.forward stands others sound less value).insert stands.here sourced

theorem Stands.inFlight (stands : Stands tree front back fork strand context action rest)
    (next : Program) (value : Reply) (other : UInt32) :
    (tree.setThread front.length fork { strand with todo := next ++ rest, value }).inFlight other +
        errand fork other action =
      tree.inFlight other + errands fork other next := by
  have moved := inFlight_setThread stands.there { strand with todo := next ++ rest, value } other
  rw [stands.todo, errands_append, errands_cons] at moved
  omega

/-- The root hands an answer to the fork that it is for, or holds it. -/
theorem Sane.route (sane : Sane tree asked) {message : Message}
    (stands : Stands tree front back rootFork strand context (.route message) rest)
    (others : ∀ action ∈ rest, Sound tree.knowledge asked rootFork action) {target : UInt32}
    (other : target ≠ rootFork)
    (down : Downward tree.knowledge (asked target) target message) (value : Reply) :
    Sane ((context.route message).effects.foldl (fun tree effect => tree.post rootFork effect)
      ((tree.setMember rootFork (context.route message).context).setThread front.length rootFork
        { strand with todo := [] ++ rest, value })) asked := by
  have went : Sane (tree.setThread front.length rootFork { strand with todo := [] ++ rest, value })
      asked := sane.forward stands others (List.forall_mem_nil _) (fun _ => Nat.zero_le _) value
  have flight := stands.inFlight [] value target
  have one : errand rootFork target (.route message) = 1 := if_pos down.fork
  rw [one] at flight
  have room := (Nat.add_right_cancel_iff.mpr flight).trans_le (sane.fits target).errands
  cases present : context.forks.process? message.fork with
  | none =>
    rw [Context.route, ForkTable.route_of_none present]
    exact went.hold stands.here other down room
  | some process =>
    have handle := (sane.leads stands.here).handles message.fork process present
    rw [down.fork] at handle
    rw [Context.route, ForkTable.route_of_some present, down.not_ends, handle]
    change Sane (((tree.setMember rootFork context).setThread front.length rootFork
      { strand with todo := [] ++ rest, value }).post rootFork (.send target.toNat message)) asked
    rw [setMember_self stands.here, post_toNat other]
    exact went.postsDown (List.forall_mem_singleton.mpr down) room

/-- The root enters a fork into its table and sends it what was held for it. -/
theorem Sane.register (sane : Sane tree asked) {target pid : UInt32}
    (stands : Stands tree front back rootFork strand context
      (.register target pid target.toNat) rest)
    (others : ∀ action ∈ rest, Sound tree.knowledge asked rootFork action)
    (other : target ≠ rootFork) (value : Reply) :
    Sane ((context.register target pid target.toNat).effects.foldl
      (fun tree effect => tree.post rootFork effect)
      ((tree.setMember rootFork (context.register target pid target.toNat).context).setThread
        front.length rootFork { strand with todo := [] ++ rest, value })) asked := by
  have went : Sane (tree.setThread front.length rootFork { strand with todo := [] ++ rest, value })
      asked := sane.forward stands others (List.forall_mem_nil _) (fun _ => Nat.zero_le _) value
  have taken : (context.forks.register target { pid, handle := target.toNat }).1 =
      context.forks.pendingFor target := by
    rw [ForkTable.register_eq]
  have effects : (context.register target pid target.toNat).effects =
      (context.forks.pendingFor target).map (Effect.send target.toNat) := by
    rw [← taken]
    rfl
  rw [effects, foldl_post_toNat other]
  exact went.flush stands.here other pid

/-- Behind a claim and what it is made for there is nothing of the kind. -/
theorem Shape.behind {known : Knowledge} {owner : UInt32} {todo : Program}
    (shape : Shape known asked owner todo) {request : Message} {id : CallId} {rest : Program}
    (same : todo = .claimCall request :: .takeCall id :: rest) :
    ∀ action ∈ rest, Sound known asked owner action := by
  cases shape with
  | plain sound =>
    subst same
    cases sound _ List.mem_cons_self
  | claims input sound =>
    cases same
    exact sound
  | takes known sound => cases same

/-- The thread that has claimed the slot of its process begins to await the response. -/
theorem Sane.awaits (sane : Sane tree asked) {request : Message} {id : CallId}
    (stands : Stands tree front back fork strand context (.claimCall request)
      (.takeCall id :: rest))
    (same : asked fork = some id) (claimed : tree.slot fork = { waiting := true })
    (nobody : tree.takers fork = 0) (value : Reply) :
    Sane (tree.setThread front.length fork { strand with todo := .takeCall id :: rest, value })
      asked := by
  have shape : Shape tree.knowledge asked fork (.takeCall id :: rest) :=
    .takes same ((sane.shapes (fork, strand) stands.mem).behind stands.todo)
  have flight : ∀ other, (tree.setThread front.length fork
      { strand with todo := .takeCall id :: rest, value }).inFlight other = tree.inFlight other :=
    stands.inFlight [] value
  have takers : ∀ other, (tree.setThread front.length fork
      { strand with todo := .takeCall id :: rest, value }).takers other =
        tree.takers other + if fork = other then 1 else 0 := by
    intro other
    have moved := takers_setThread stands.there
      { strand with todo := .takeCall id :: rest, value } other
    rw [stands.todo] at moved
    exact moved
  refine sane.setThread stands.there shape ?_ ?_
  · intro other
    rw [flight, takers]
    refine ⟨(sane.fits other).errands, ?_⟩
    split
    case isTrue own =>
      rw [← own, claimed, nobody]
      exact Nat.le_refl 1
    case isFalse _ => exact (sane.fits other).takers
  · intro other more
    rw [takers] at more
    split at more
    case isTrue own => rw [← own, claimed]
    case isFalse _ => exact absurd more (Nat.lt_irrefl _)

/-- A thread claims the slot and sends its request. From now on its process asks for this call. -/
theorem Sane.claim (sane : Sane tree asked) {id : CallId} {input : Bytes}
    (stands : Stands tree front back fork strand context
      (.claimCall (.externalCallRequest fork id.number input)) (.takeCall id :: rest))
    (free : context.calls.slot.waiting = false) (value : Reply) :
    Sane (((tree.setMember fork
        { context with calls := { context.calls with slot := { waiting := true } } }).setThread
          front.length fork { strand with todo := .takeCall id :: rest, value }).post fork
            (.send upstream (.externalCallRequest fork id.number input)))
      (Function.update asked fork (some id)) := by
  have unclaimed : (tree.slot fork).waiting = false := by
    rw [slot_of_member stands.here]
    exact free
  obtain ⟨nothing, nobody⟩ := sane.idle unclaimed
  obtain ⟨turned, given⟩ : ∃ turned : Context, turned =
    { context with calls := { context.calls with slot := { waiting := true } } } := ⟨_, rfl⟩
  have claimed := (sane.ask unclaimed (some id)).claimSlot stands.here unclaimed
  rw [← given] at claimed ⊢
  have slots : (tree.setMember fork turned).slot fork = { waiting := true } := by
    rw [slot_setMember, if_pos rfl, given]
  have asks : Function.update asked fork (some id) fork = some id := Function.update_self ..
  have here : (tree.setMember fork turned).members fork = some turned := by
    rw [members_setMember, if_pos rfl]
  have stands' : Stands (tree.setMember fork turned) front back fork strand turned
      (.claimCall (.externalCallRequest fork id.number input)) (.takeCall id :: rest) :=
    ⟨stands.there, here, stands.todo⟩
  have flight := stands'.inFlight [] value fork
  rw [inFlight_setMember_of_forks stands.here (by rw [given]), nothing] at flight
  have waits := claimed.awaits stands' asks slots nobody value
  rw [post_upstream]
  split
  case isFalse _ => exact waits
  refine waits.request asks ?_ input
  change _ + 1 + filled ((tree.setMember fork turned).slot fork) ≤
    ((tree.setMember fork turned).slot fork).waiting.toNat
  rw [slots]
  have quiet := Nat.eq_zero_of_add_eq_zero_right (flight.trans rfl)
  exact Nat.le_of_eq (congrArg (· + 1) quiet)

/-- A thread takes the response, which carries the output that it asked for, and frees the slot. -/
theorem Sane.take (sane : Sane tree asked) {id : CallId}
    (stands : Stands tree front back fork strand context (.takeCall id) rest)
    (same : asked fork = some id)
    (others : ∀ action ∈ rest, Sound tree.knowledge asked fork action) {tag : Option CallId}
    {output : Bytes} (there : context.calls.slot.response = some (tag, output)) (value : Reply) :
    Sane ((tree.setMember fork
        { context with calls := { context.calls with slot := { waiting := false } } }).setThread
          front.length fork
          { strand with todo := (if tag.isSome then [.keepCall id output] else []) ++ rest
                        value }) asked := by
  have slots := slot_of_member stands.here
  have moved := takers_setThread stands.there
  rw [stands.todo] at moved
  have taker : taking fork fork (.takeCall id :: rest) = 1 := if_pos rfl
  have some : 0 < tree.takers fork := by
    rw [Tree.takers, stands.there, load_split, stands.todo, taker]
    exact Nat.succ_pos _
  have sound : ∀ action ∈ (if tag.isSome then [.keepCall id output] else []),
      Sound tree.knowledge asked fork action := by
    cases sane.responses fork tag output (slots ▸ there) some with
    | available asks sourced =>
      rw [same] at asks
      cases asks
      exact List.forall_mem_singleton.mpr (.keepCall sourced)
    | unavailable => exact List.forall_mem_nil _
  have less : ∀ other,
      errands fork other (if tag.isSome then [.keepCall id output] else []) ≤ 0 := by
    intro other
    split <;> exact Nat.le_refl 0
  obtain ⟨next, given⟩ : ∃ next : Program,
    next = (if tag.isSome then [.keepCall id output] else []) := ⟨_, rfl⟩
  rw [← given] at sound less ⊢
  have went := sane.forward stands others sound less value
  obtain ⟨errands, takers⟩ := sane.fits fork
  have full : filled (tree.slot fork) = 1 := by
    rw [slots, filled, there]
    rfl
  have most := Bool.toNat_le (tree.slot fork).waiting
  refine went.setCalls stands.here rfl rfl rfl (fun _ _ known => known)
    (fun _ _ known => Or.inl known) ?_ ?_
  · intro other bytes response
    cases response
  · have flight := stands.inFlight next value fork
    have left := moved { strand with todo := next ++ rest, value } fork
    rw [taker, Sound.taking (Sound.append sound others)] at left
    have := less fork
    constructor
    · change _ + 0 ≤ 0
      omega
    · change _ ≤ 0
      omega

/-! What a step does -/

theorem handle_of_down {known : Knowledge} {fork : UInt32} {context : Context} {message : Message}
    (down : Downward known (asked fork) fork message) (own : context.fork = fork) :
    context.handle message =
      context.followedBy [.enterRead, .dispatch message, .leaveRead] := by
  have same : message.fork = context.fork := down.fork.trans own.symm
  rw [Context.handle, if_pos same]
  cases down <;> rfl

/-- An answer comes to the slot, under its own call. -/
theorem dispatch_of_down {known : Knowledge} {fork : UInt32} (context : Context) (main : Bool)
    {message : Message} (down : Downward known (asked fork) fork message) :
    ∃ tag output, context.dispatch main message =
        { context := { context with calls := (context.calls.deliver tag output).2 }
          records := ExternalCalls.deliverRecords (context.calls.deliver tag output).1 tag } ∧
      Response known (asked fork) fork tag output := by
  cases down with
  | @available id output same sourced =>
    refine ⟨some id, output, ?_, .available same sourced⟩
    rw [← CallId.ofNumber?_number id]
    rfl
  | unavailable => exact ⟨none, [], rfl, .unavailable []⟩

/-- What the root answers to a request. -/
theorem callResponse_downward (sane : Sane tree asked) {root : Context}
    (here : tree.members rootFork = some root) {target : UInt32} {id : CallId}
    (same : asked target = some id) :
    Downward tree.knowledge (asked target) target (root.callResponse target (some id)) := by
  unfold Context.callResponse
  cases known : root.calls.output? id with
  | none =>
    rw [Option.bind_some, known]
    exact .unavailable
  | some output =>
    rw [Option.bind_some, known]
    have there : tree.output? rootFork id = some output := by
      rw [output?_of_member here]
      exact known
    have sourced := sane.cached rootFork id output there
    exact .available same ⟨sourced.performed, Or.inr (Or.inl there)⟩

/-- What becomes of a tree with the outcome of an action. -/
def follow (tree : Tree) (index : Nat) (fork : UInt32) (strand : Strand) (rest : Program)
    (outcome : Outcome) : Tree :=
  outcome.effects.foldl (fun tree effect => tree.post fork effect)
    ((tree.setMember fork outcome.context).setThread index fork
      { strand with todo := outcome.next ++ rest, value := outcome.value.getD strand.value })

/-- An action that does nothing to outputs, slots and forks, and nothing beyond its process. -/
theorem Sane.still (sane : Sane tree asked)
    (stands : Stands tree front back fork strand context action rest)
    (others : ∀ action ∈ rest, Sound tree.knowledge asked fork action) {outcome : Outcome}
    (own : outcome.context.fork = context.fork)
    (channel : outcome.context.channel = context.channel)
    (forks : outcome.context.forks = context.forks)
    (calls : outcome.context.calls = context.calls)
    (nothing : outcome.effects = [])
    (sound : ∀ action ∈ outcome.next, Sound tree.knowledge asked fork action)
    (less : ∀ other, errands fork other outcome.next ≤ errand fork other action) :
    Sane (tree.follow front.length fork strand rest outcome) asked := by
  rw [follow, nothing]
  exact (sane.forward stands others sound less _).setOther stands.here own channel forks calls

/-- An action under the read side of the lock is all that counts there. -/
theorem errands_guarded (owner other : UInt32) (action : Action) :
    errands owner other [.enterRead, action, .leaveRead] = errand owner other action := by
  simp [errands, errand]

theorem Sound.guarded {known : Knowledge} {owner : UInt32} {action : Action}
    (sound : Sound known asked owner action) :
    ∀ one ∈ [.enterRead, action, .leaveRead], Sound known asked owner one :=
  List.forall_mem_cons.mpr ⟨.enterRead, List.forall_mem_cons.mpr
    ⟨sound, List.forall_mem_singleton.mpr .leaveRead⟩⟩

theorem Sane.actsSound (sane : Sane tree asked)
    (stands : Stands tree front back fork strand context action rest)
    (sound : Sound tree.knowledge asked fork action)
    (others : ∀ action ∈ rest, Sound tree.knowledge asked fork action)
    (new : performed fork action ⊆ tree.outputs) {outcome : Outcome}
    (step : context.step strand.main strand.value {} action = some outcome) :
    Sane (tree.follow front.length fork strand rest outcome) asked := by
  obtain ⟨own, channel⟩ := sane.own fork context stands.here
  cases sound with
  | lookupCall id input =>
    cases Option.some.inj step
    unfold Context.lookupCall
    split
    · exact sane.still stands others rfl rfl rfl rfl rfl (List.forall_mem_nil _)
        (fun _ => Nat.zero_le _)
    · have shape : Shape tree.knowledge asked fork
          (.claimCall (.externalCallRequest fork id.number input) :: .takeCall id :: rest) :=
        .claims input others
      rw [own]
      refine (sane.goesOn stands.there shape (fun _ => rfl) ?_).setOther stands.here rfl rfl rfl rfl
      exact stands.less fun _ => Nat.zero_le _
  | performUnlessKnown id input output =>
    cases Option.some.inj step
    unfold Context.performUnlessKnown
    split
    · exact sane.still stands others rfl rfl rfl rfl rfl (List.forall_mem_nil _)
        (fun _ => Nat.zero_le _)
    · refine sane.still stands others rfl rfl rfl rfl rfl ?_ (fun _ => Nat.zero_le _)
      exact List.forall_mem_cons.mpr
        ⟨.publishCall id output, List.forall_mem_singleton.mpr (.answer _)⟩
  | publishCall id output =>
    cases Option.some.inj step
    have sourced : Sourced tree.knowledge fork id output := .ofPerformed (new List.mem_cons_self)
    refine sane.remember stands others sourced ?_ (fun _ => Nat.zero_le _) _
    rw [own]
    exact List.forall_mem_singleton.mpr (.send sourced.atRoot)
  | keepCall sourced =>
    cases Option.some.inj step
    exact sane.remember stands others sourced (List.forall_mem_nil _) (fun _ => Nat.zero_le _) _
  | @send id output sourced =>
    cases Option.some.inj step
    have effects : context.sendEffects (.externalCallResponse fork id.number output) =
        [.send upstream (.externalCallResponse fork id.number output)] := by
      rw [Context.sendEffects, channel]
    rw [follow, Context.send, effects]
    change Sane (((tree.setMember fork context).setThread front.length fork
      { strand with todo := [] ++ rest }).post fork (.send upstream _)) asked
    rw [setMember_self stands.here, post_upstream]
    have went := sane.forward stands others (List.forall_mem_nil _) (fun _ => Nat.zero_le _)
      strand.value
    split
    case isTrue _ => exact went.report (.report sourced) rfl
    case isFalse _ => exact went
  | answer reply =>
    cases Option.some.inj step
    exact sane.still stands others rfl rfl rfl rfl rfl (List.forall_mem_nil _)
      (fun _ => Nat.zero_le _)
  | enterRead =>
    obtain ⟨lock, -, same⟩ := Option.map_eq_some_iff.mp step
    cases same
    exact sane.still stands others rfl rfl rfl rfl rfl (List.forall_mem_nil _)
      (fun _ => Nat.zero_le _)
  | leaveRead =>
    cases Option.some.inj step
    exact sane.still stands others rfl rfl rfl rfl rfl (List.forall_mem_nil _)
      (fun _ => Nat.zero_le _)
  | @handle message down =>
    cases Option.some.inj step
    rw [handle_of_down down own]
    refine sane.still stands others rfl rfl rfl rfl rfl (Sound.dispatch down).guarded ?_
    exact fun other => Nat.le_of_eq (errands_guarded fork other _)
  | @dispatch message down =>
    cases Option.some.inj step
    obtain ⟨tag, output, arrives, response⟩ := dispatch_of_down context strand.main down
    have went := sane.forward stands others (List.forall_mem_nil _) (fun _ => Nat.zero_le _)
      strand.value
    have flight := stands.inFlight [] strand.value fork
    have one : errand fork fork (.dispatch message) = 1 := if_pos rfl
    rw [one] at flight
    have fits := (sane.fits fork).errands
    rw [arrives]
    refine went.deliver stands.here response ?_
    change _ + 1 + filled (tree.slot fork) ≤ (tree.slot fork).waiting.toNat
    exact (Nat.add_right_cancel_iff.mpr flight).trans_le fits
  | @handleFork target message root other up =>
    cases Option.some.inj step
    refine sane.still stands others rfl rfl rfl rfl rfl
      (Sound.dispatchFork root other up).guarded ?_
    exact fun other => Nat.le_of_eq (errands_guarded fork other _)
  | @dispatchFork target message root other up =>
    cases Option.some.inj step
    subst root
    cases up with
    | @request id input same =>
      have down := callResponse_downward sane stands.here same
      have answers :
          context.dispatchFork strand.main (.externalCallRequest target id.number input) =
            context.followedBy [.route (context.callResponse target (some id))] := by
        rw [← CallId.ofNumber?_number id]
        rfl
      rw [answers]
      refine sane.still stands others rfl rfl rfl rfl rfl
        (List.forall_mem_singleton.mpr (.route rfl other down)) fun one => ?_
      simp [Context.followedBy, errands, errand, down.fork, isRequest, Message.externalCallRequest]
    | @report id output sourced =>
      have keeps :
          context.dispatchFork strand.main (.externalCallResponse target id.number output) =
            { context := { context with calls := context.calls.insert id output }
              records := context.calls.insertRecords id output } := by
        simp only [Context.dispatchFork, Message.externalCallResponse, CallId.ofNumber?_number]
      rw [keeps]
      exact sane.remember stands others sourced (List.forall_mem_nil _) (fun _ => Nat.zero_le _) _
  | route root other down =>
    cases Option.some.inj step
    subst root
    exact sane.route stands others other down _
  | register pid root other =>
    cases Option.some.inj step
    subst root
    exact sane.register stands others other _

theorem claimCall_eq_some {main : Bool} {request : Message} {outcome : Outcome}
    (step : context.claimCall main request = some outcome) :
    context.calls.slot.waiting = false ∧
      outcome = { context.send main request with
                  context := { context with
                    calls := { context.calls with slot := { waiting := true } } } } := by
  obtain ⟨slot, claimed, same⟩ := Option.map_eq_some_iff.mp step
  unfold Slot.claim? at claimed
  split at claimed
  case isTrue _ => cases claimed
  case isFalse free =>
    cases claimed
    exact ⟨Bool.eq_false_iff.mpr free, same.symm⟩

theorem takeCall_eq_some {id : CallId} {outcome : Outcome}
    (step : context.takeCall id = some outcome) :
    ∃ tag output, context.calls.slot.response = some (tag, output) ∧
      outcome.context =
        { context with calls := { context.calls with slot := { waiting := false } } } ∧
      outcome.effects = [] ∧
      outcome.next = if tag.isSome then [.keepCall id output] else [] := by
  obtain ⟨⟨⟨tag, output⟩, slot⟩, taken, same⟩ := Option.map_eq_some_iff.mp step
  obtain ⟨response, there, pair⟩ := Option.map_eq_some_iff.mp taken
  cases pair
  cases same
  exact ⟨tag, output, there, rfl, rfl, rfl⟩

theorem Shape.first {known : Knowledge} {owner : UInt32}
    (shape : Shape known asked owner (action :: rest)) :
    (Sound known asked owner action ∧ ∀ one ∈ rest, Sound known asked owner one) ∨
    (∃ id input later, action = .claimCall (.externalCallRequest owner id.number input) ∧
      rest = .takeCall id :: later) ∨
    (∃ id, action = .takeCall id ∧ asked owner = some id ∧
      ∀ one ∈ rest, Sound known asked owner one) := by
  cases shape with
  | plain sound => exact Or.inl (List.forall_mem_cons.mp sound)
  | claims input sound => exact Or.inr (Or.inl ⟨_, input, _, rfl, rfl⟩)
  | takes same sound => exact Or.inr (Or.inr ⟨_, rfl, same, sound⟩)

/-- An action of a thread. Only a claim changes what a process asks for. -/
theorem Sane.act (sane : Sane tree asked) {next : Tree} {index : Nat}
    (taken : tree.act? index = some next) : ∃ asked, Sane next asked := by
  obtain ⟨front, fork, strand, back, context, action, rest, outcome, there, rfl, here, todo, step,
    rfl⟩ := act?_eq_some taken
  have stands : Stands (tree.perform (performed fork action)) front back fork strand context action
      rest := ⟨there, here, todo⟩
  have ready := sane.perform (performed fork action)
  have shape := ready.shapes (fork, strand) stands.mem
  rw [todo] at shape
  obtain ⟨own, channel⟩ := sane.own fork context here
  rcases shape.first with ⟨sound, others⟩ | ⟨id, input, later, rfl, rfl⟩ | ⟨id, rfl, same, others⟩
  · exact ⟨asked, ready.actsSound stands sound others (List.subset_append_right _ _) step⟩
  · obtain ⟨free, rfl⟩ := claimCall_eq_some step
    have effects : context.sendEffects (.externalCallRequest fork id.number input) =
        [.send upstream (.externalCallRequest fork id.number input)] := by
      rw [Context.sendEffects, channel]
    refine ⟨Function.update asked fork (some id), ?_⟩
    dsimp only [Context.send]
    rw [effects]
    exact ready.claim stands free strand.value
  · obtain ⟨tag, output, response, changed, effects, next⟩ := takeCall_eq_some step
    refine ⟨asked, ?_⟩
    rw [effects, changed, next]
    exact ready.take stands same others response _

end

end Tree

end Playback
