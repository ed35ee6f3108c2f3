import Playback.Proofs.Outputs.Known

set_option autoImplicit false

namespace Playback

namespace Tree

variable {story next later : Story}

/-! The thread that serves -/

/-- All that a thread does for a request. -/
def serving (request answer : Message) : Program :=
  [.handleFork request, .enterRead, .dispatchFork request, .route answer, .leaveRead,
    .answer .done]

/-- Actions that bring no others with them. -/
inductive Straight : Action → Prop where
  | route (answer : Message) : Straight (.route answer)
  | leaveRead : Straight .leaveRead
  | answer (reply : Reply) : Straight (.answer reply)

theorem Straight.brings_nothing {action : Action} (straight : Straight action) {context : Context}
    {main : Bool} {value : Reply} {outcome : Outcome}
    (step : context.step main value {} action = some outcome) : outcome.next = [] := by
  cases straight <;>
  · cases Option.some.inj step
    rfl

/-- A thread has done a part of what it does in all, and does the rest. -/
def Finishes (story : Story) (thread : Nat) (whole : Program) : Prop :=
  ∃ one, story.tree.threads[thread]? = some one ∧ did thread story.acts ++ one.2.todo = whole ∧
    ∀ action ∈ one.2.todo, Straight action

theorem Finishes.comes {thread : Nat} {whole : Program} (finishes : Finishes story thread whole)
    (comes : Comes story next) : Finishes next thread whole := by
  obtain ⟨one, there, all, straight⟩ := finishes
  rcases comes.thread there with ⟨still, same⟩ |
    ⟨act, strand, rest, outcome, rfl, rfl, todo, step, goes⟩
  · refine ⟨one, still, ?_, straight⟩
    rw [same]
    exact all
  · dsimp only at all straight
    rw [todo] at all straight
    obtain ⟨first, others⟩ := List.forall_mem_cons.mp straight
    have nothing := first.brings_nothing step
    refine ⟨_, goes.there_later, ?_, ?_⟩
    · rw [goes.acts, did_own rfl, nothing, List.append_assoc]
      exact all
    · dsimp only
      rw [nothing]
      exact others

theorem Story.Uses.finishes (uses : story.Uses)
    (run : Relation.ReflTransGen Story.Follows story later) {thread : Nat} {whole : Program}
    (finishes : Finishes story thread whole) : Finishes later thread whole := by
  induction run with
  | refl => exact finishes
  | tail run follows ih => exact ih.comes ((uses.run run).asking.comes follows)

/-! The thread that asks -/

/-- All that a thread does for an external call whose output the root knows. -/
def getting (fork : UInt32) (id : CallId) (input performed output : Bytes) : Program :=
  [.lookupCall id input, .claimCall (.externalCallRequest fork id.number input), .takeCall id,
    .keepCall id output, .performUnlessKnown id input performed]

/-- An output is on its way to the thread that awaits it. -/
def Owed (story : Story) (fork : UInt32) (asker : Nat) (id : CallId) (output : Bytes) : Prop :=
  Out story fork asker id (.answer (.externalCallResponse fork id.number output)) ∨
    Out story fork asker id (.response (some id) output)

/-- What a thread has done, has still to do and has come to that gets an output. -/
inductive Gets (story : Story) (fork : UInt32) (asker : Nat) (id : CallId)
    (input performed output : Bytes) : Program → Program → Reply → Prop where
  | awaits (owed : Owed story fork asker id output) (value : Reply) :
      Gets story fork asker id input performed output
        [.lookupCall id input, .claimCall (.externalCallRequest fork id.number input)]
        [.takeCall id, .performUnlessKnown id input performed] value
  | keeps (value : Reply) :
      Gets story fork asker id input performed output
        [.lookupCall id input, .claimCall (.externalCallRequest fork id.number input),
          .takeCall id]
        [.keepCall id output, .performUnlessKnown id input performed] value
  | knows :
      Gets story fork asker id input performed output
        [.lookupCall id input, .claimCall (.externalCallRequest fork id.number input),
          .takeCall id, .keepCall id output]
        [.performUnlessKnown id input performed] (.output (.available output))
  | returns :
      Gets story fork asker id input performed output
        (getting fork id input performed output) [] (.performed output none)

/-- A thread of a fork gets an output. -/
def Getting (story : Story) (fork : UInt32) (asker : Nat) (id : CallId)
    (input performed output : Bytes) : Prop :=
  ∃ strand, story.tree.threads[asker]? = some (fork, strand) ∧
    Gets story fork asker id input performed output (did asker story.acts) strand.todo strand.value

section
variable {fork : UInt32} {asker : Nat} {id : CallId} {input performed output : Bytes}

theorem Owed.out (owed : Owed story fork asker id output) :
    ∃ leg, Out story fork asker id leg ∧ leg.request? = none := by
  rcases owed with out | out <;> exact ⟨_, out, rfl⟩

/-- An output that a channel carries stays on its way as long as it is awaited. -/
theorem Owed.change (owed : Owed story fork asker id output)
    (framed : (Message.externalCallResponse fork id.number output).Framed)
    (change : Change story next fork) (awaits : next.tree.AwaitsOutput fork asker id) :
    Owed next fork asker id output := by
  obtain ⟨one, known, unasked⟩ := owed.out
  cases change with
  | calm legs slot awaits asked handled =>
    rcases owed with out | out
    · exact Or.inl (out.goesOn (out.legs ▸ legs) slot awaits asked)
    · exact Or.inr (out.goesOn (out.legs ▸ legs) slot awaits asked)
  | asks free | strands free | joins free =>
    rw [known.claimed] at free
    cases free
  | serves before =>
    rw [known.legs] at before
    obtain ⟨rfl, -⟩ := List.cons_eq_cons.mp before.symm.eq_singleton
    cases unasked
  | drops large before =>
    rcases owed with out | out
    · rw [out.legs] at before
      cases List.singleton_perm_singleton.mp before
      exact absurd framed large
    · rw [out.legs] at before
      cases List.singleton_perm_singleton.mp before
  | delivers conveys _ before after slot awaits asked handled =>
    rcases owed with out | out
    · rw [out.legs] at before
      obtain ⟨same, rfl⟩ := List.cons_eq_cons.mp before.symm.eq_singleton
      cases same
      obtain ⟨rfl, rfl⟩ := conveys.of_response
      exact Or.inr (out.goesOn after slot awaits asked)
    · rw [out.legs] at before
      obtain ⟨same, -⟩ := List.cons_eq_cons.mp before.symm.eq_singleton
      cases same
  | takes awaited before after left asked handled =>
    obtain ⟨old, apart⟩ := left asker id awaits
    exact absurd ((known.awaits _ _).mp awaited).1.symm apart

/-- What is taken from the slot is what was on its way. -/
theorem Owed.taken (owed : Owed story fork asker id output) {tag : Option CallId} {other : Bytes}
    (there : (story.tree.slot fork).response = some (tag, other)) :
    tag = some id ∧ other = output := by
  obtain ⟨one, known, -⟩ := owed.out
  have response : .response tag other ∈ story.tree.legs fork := by
    have inSlot : .response tag other ∈ slotLegs (story.tree.slot fork) := by
      rw [slotLegs, if_pos known.claimed, there]
      exact List.mem_singleton_self _
    exact List.mem_append_right _ (List.mem_append_right _ (List.mem_append_right _ inSlot))
  rcases owed with out | out
  · rw [out.legs] at response
    cases List.mem_singleton.mp response
  · rw [out.legs] at response
    cases List.mem_singleton.mp response
    exact ⟨rfl, rfl⟩

theorem Getting.turn (getting : Getting story fork asker id input performed output)
    (framed : (Message.externalCallResponse fork id.number output).Framed) (asking : Asking story)
    (other : fork ≠ rootFork) (follows : story.Follows next) :
    Getting next fork asker id input performed output := by
  obtain ⟨strand, there, gets⟩ := getting
  rcases (asking.comes follows).thread there with ⟨still, same⟩ |
    ⟨act, one, rest, outcome, rfl, pair, todo, step, goes⟩
  · refine ⟨strand, still, ?_⟩
    rw [same]
    generalize did asker story.acts = done at gets ⊢
    generalize first : strand.todo = todo at gets ⊢
    generalize strand.value = value at gets ⊢
    cases gets with
    | awaits owed value =>
      have change := (asking.turn follows).2 fork other
      exact .awaits (owed.change framed change ⟨strand, _, still, first⟩) value
    | keeps value => exact .keeps value
    | knows => exact .knows
    | returns => exact .returns
  · cases pair
    refine ⟨_, goes.there_later, ?_⟩
    rw [goes.acts, did_own rfl]
    rw [todo] at gets
    generalize did act.thread story.acts = done at gets ⊢
    generalize strand.value = value at gets step ⊢
    generalize action : act.action = one at gets step ⊢
    cases gets with
    | awaits owed =>
      obtain ⟨⟨⟨tag, told⟩, slot⟩, taken, same⟩ := Option.map_eq_some_iff.mp step
      obtain ⟨response, inside, both⟩ := Option.map_eq_some_iff.mp taken
      cases both
      cases same
      rw [← goes.callSlot_before] at inside
      obtain ⟨rfl, rfl⟩ := owed.taken inside
      exact .keeps _
    | keeps =>
      cases Option.some.inj step
      exact .knows
    | knows =>
      cases Option.some.inj step
      exact .returns

theorem Story.Uses.getting (uses : story.Uses)
    (run : Relation.ReflTransGen Story.Follows story later) (other : fork ≠ rootFork)
    (framed : (Message.externalCallResponse fork id.number output).Framed)
    (getting : Getting story fork asker id input performed output) :
    Getting later fork asker id input performed output := by
  induction run with
  | refl => exact getting
  | tail run follows ih => exact ih.turn framed (uses.run run).asking other follows

/-- It does nothing but get the output, and returns it. -/
theorem Getting.gets (gets : Getting story fork asker id input performed output) :
    did asker story.acts <+: getting fork id input performed output ∧
      ∀ one, story.tree.threads[asker]? = some one → one.2.todo = [] →
        did asker story.acts = getting fork id input performed output ∧
          one.2.value = .performed output none := by
  obtain ⟨strand, there, gets⟩ := gets
  refine ⟨?_, fun one at_ done => ?_⟩
  · generalize did asker story.acts = done at gets
    generalize strand.value = value at gets
    generalize strand.todo = todo at gets
    cases gets with
    | awaits | keeps | knows => exact ⟨_, rfl⟩
    | returns => exact List.prefix_rfl
  · rw [there] at at_
    cases at_
    dsimp only at done ⊢
    rw [done] at gets
    generalize did asker story.acts = all at gets ⊢
    generalize strand.value = value at gets ⊢
    cases gets
    exact ⟨rfl, rfl⟩

end

/-! The thread that waits in vain -/

/-- The answer that a thread awaits is on its way to a channel that does not carry it, or is dropped
already. -/
def Denied (story : Story) (fork : UInt32) (asker : Nat) (id : CallId) (answer : Message) : Prop :=
  Out story fork asker id (.answer answer) ∨ LeftWaiting story fork asker id

section
variable {fork : UInt32} {asker : Nat} {id : CallId} {answer : Message}

theorem Denied.change (denied : Denied story fork asker id answer) (large : ¬answer.Framed)
    (change : Change story next fork) : Denied next fork asker id answer := by
  rcases denied with out | stuck
  · cases change with
    | calm legs slot awaits asked => exact Or.inl (out.goesOn (out.legs ▸ legs) slot awaits asked)
    | asks free | strands free | joins free =>
      rw [out.claimed] at free
      cases free
    | drops _ _ after slot awaits =>
      exact Or.inr ⟨after, slot.trans out.claimed,
        (awaits asker id).mpr ((out.awaits asker id).mpr ⟨rfl, rfl⟩)⟩
    | serves before | takes _ before =>
      rw [out.legs] at before
      obtain ⟨⟨⟩, -⟩ := List.cons_eq_cons.mp before.symm.eq_singleton
    | delivers _ framed before =>
      rw [out.legs] at before
      obtain ⟨same, -⟩ := List.cons_eq_cons.mp before.symm.eq_singleton
      cases same
      exact absurd framed large
  · exact Or.inr (stuck.change change)

theorem Story.Uses.denied (uses : story.Uses)
    (run : Relation.ReflTransGen Story.Follows story later) (other : fork ≠ rootFork)
    (large : ¬answer.Framed) (denied : Denied story fork asker id answer) :
    Denied later fork asker id answer := by
  induction run with
  | refl => exact denied
  | tail run follows ih =>
    exact ih.change large (((uses.run run).asking.turn follows).2 fork other)

theorem Denied.not_returned (denied : Denied story fork asker id answer) :
    ¬story.tree.Returned asker := by
  rintro ⟨one, there, done⟩
  have awaits : story.tree.AwaitsOutput fork asker id := by
    rcases denied with out | stuck
    · exact (out.awaits asker id).mpr ⟨rfl, rfl⟩
    · exact stuck.awaits
  obtain ⟨strand, rest, at_, todo⟩ := awaits
  rw [there] at at_
  cases at_
  rw [done] at todo
  cases todo

end

/-! The request -/

section
variable {fork : UInt32} {id : CallId} {input output : Bytes}

theorem externalCallRequest_inj {other : CallId} {again : Bytes}
    (same : Message.externalCallRequest fork id.number input =
      .externalCallRequest fork other.number again) : id = other ∧ input = again := by
  injection same with _ _ _ payload
  obtain ⟨number, rfl⟩ := Payload.binary.inj payload
  exact ⟨CallId.number_inj number, rfl⟩

theorem Act.answers?_eq_some {act : Act} {message : Message}
    (answers : act.answers? fork = some message) :
    act.fork = rootFork ∧ act.action = .dispatchFork message ∧ message.fork = fork ∧
      isRequest message = true := by
  obtain ⟨root, same⟩ := Option.ite_none_right_eq_some.mp answers
  split at same
  case h_1 one action =>
    obtain ⟨⟨own, request⟩, same⟩ := Option.ite_none_right_eq_some.mp same
    cases same
    exact ⟨root, action, own, request⟩
  case h_2 => cases same

theorem Stance.serves_inv {owner : UInt32} {program done rest : Program} {message : Message}
    (stance : Stance owner program done (.dispatchFork message :: rest)) :
    done = [.handleFork message, .enterRead] ∧ rest = [.leaveRead, .answer .done] ∧
      message.fork ≠ rootFork := by
  cases stance with
  | plain proper => cases proper _ List.mem_cons_self
  | serves root other up =>
    refine ⟨rfl, rfl, ?_⟩
    rw [up.fork]
    exact other

theorem Stance.takes_inv {owner : UInt32} {program done rest : Program}
    (stance : Stance owner program done (.takeCall id :: rest)) :
    ∃ input, program = .lookupCall id input :: rest ∧
      done = [.lookupCall id input, .claimCall (.externalCallRequest owner id.number input)] := by
  cases stance with
  | plain proper => cases proper _ List.mem_cons_self
  | takes began => exact ⟨_, began, rfl⟩

/-- Whoever has sent a request has done so with an action of its own. -/
theorem claims_of_requests {acts : List Act} {asker : Nat} {request : Message}
    (there : (asker, request) ∈ requests fork acts) : .claimCall request ∈ did asker acts := by
  obtain ⟨act, done, asks⟩ := List.mem_filterMap.mp there
  obtain ⟨-, same⟩ := Option.ite_none_right_eq_some.mp asks
  split at same
  case h_1 one action =>
    obtain ⟨-, same⟩ := Option.ite_none_right_eq_some.mp same
    cases same
    exact List.mem_filterMap.mpr ⟨act, done, by rw [if_pos rfl, action]⟩
  case h_2 => cases same

/-- The thread whose errand is out began with the call. -/
theorem Out.began {asker : Nat} {leg : Leg} (out : Out story fork asker id leg)
    (asking : Asking story)
    (asked : (asker, .externalCallRequest fork id.number input) ∈ requests fork story.acts) :
    ∃ strand rest, story.tree.threads[asker]? = some (fork, strand) ∧
      strand.todo = .takeCall id :: rest ∧
      story.begun[asker]? = some (.lookupCall id input :: rest) ∧
      did asker story.acts =
        [.lookupCall id input, .claimCall (.externalCallRequest fork id.number input)] := by
  obtain ⟨strand, rest, there, todo⟩ := (out.awaits asker id).mpr ⟨rfl, rfl⟩
  obtain ⟨program, began, stance⟩ := asking.stances asker fork strand there
  rw [todo] at stance
  obtain ⟨given, rfl, past⟩ := stance.takes_inv
  have claims := claims_of_requests asked
  rw [past] at claims
  obtain ⟨-, rfl⟩ : id = id ∧ input = given := by
    rcases List.mem_cons.mp claims with none | one
    · cases none
    · exact externalCallRequest_inj (Action.claimCall.inj (List.mem_singleton.mp one))
  exact ⟨strand, rest, there, todo, began, past⟩

/-- The root handles a request for an output that it knows. -/
structure Serves (story next : Story) (act : Act) (fork : UInt32) (id : CallId)
    (input output : Bytes) : Prop where
  other : fork ≠ rootFork
  finishes : Finishes next act.thread
    (serving (.externalCallRequest fork id.number input)
      (.externalCallResponse fork id.number output))
  order : (requests fork story.acts).map Prod.snd = answered fork (story.acts ++ [act])
  out : ∃ asker, (requests fork story.acts).getLast? =
      some (asker, .externalCallRequest fork id.number input) ∧
    Out next fork asker id (.answer (.externalCallResponse fork id.number output))

theorem Asking.serving (asking : Asking story) (follows : story.Follows next) {act : Act}
    (does : next.acts = story.acts ++ [act])
    (answers : act.answers? fork = some (.externalCallRequest fork id.number input))
    (known : story.tree.output? rootFork id = some output) :
    Serves story next act fork id input output := by
  obtain ⟨root, action, -, -⟩ := Act.answers?_eq_some answers
  obtain ⟨strand, rest, outcome, todo, step, goes⟩ := asking.does follows does
  obtain ⟨program, began, stance⟩ := asking.stances act.thread act.fork strand goes.there
  rw [todo, action] at stance
  obtain ⟨past, rfl, away⟩ := stance.serves_inv
  have other : fork ≠ rootFork := away
  have later := (asking.turn follows).1
  rw [output?_of_member (goes.here_root root)] at known
  have routes : outcome =
      act.context.followedBy [.route (.externalCallResponse fork id.number output)] := by
    rw [action] at step
    rw [← Option.some.inj step, dispatchFork_callRequest, callResponse_of_known known]
  subst routes
  have leg : leg? fork act.action =
      some (.request (.externalCallRequest fork id.number input)) := by
    rw [action]
    exact if_pos ⟨rfl, rfl⟩
  have legAfter : leg? fork (.route (.externalCallResponse fork id.number output)) =
      some (.answer (.externalCallResponse fork id.number output)) := if_pos rfl
  obtain ⟨others, before, after⟩ := goes.legs todo rfl fork
  rw [leg] at before
  obtain ⟨-, asker, call, out⟩ := (asking.lines fork other).out_of_leg before rfl
  have order := (asking.lines fork other).order
  rw [out.legs] at order
  -- The request that is handled is the last one that the fork has sent.
  obtain ⟨sent, last⟩ := out.last
  have same := congrArg List.getLast? order
  rw [List.getLast?_map, last] at same
  change some _ = (answered fork story.acts ++ [_]).getLast? at same
  rw [List.getLast?_concat] at same
  obtain ⟨rfl, rfl⟩ := externalCallRequest_inj (Option.some.inj same)
  have awaits := (out.awaits asker call).mpr ⟨rfl, rfl⟩
  rw [← goes.awaitsOutput_same fun home => absurd (home.trans root) other] at awaits
  change (next.tree.legs fork).Perm ([Action.route _].filterMap _ ++ _) at after
  rw [filterMap_cons_toList, legAfter] at after
  obtain ⟨-, thread, called, waits⟩ := (later.lines fork other).out_of_leg after rfl
  obtain ⟨rfl, rfl⟩ := (waits.awaits asker call).mp awaits
  constructor
  case other => exact other
  case finishes =>
    refine ⟨_, goes.there_later, ?_, ?_⟩
    · rw [goes.acts, did_own rfl, past, action]
      rfl
    · exact List.forall_mem_cons.mpr ⟨.route _, List.forall_mem_cons.mpr
        ⟨.leaveRead, List.forall_mem_singleton.mpr (.answer _)⟩⟩
  case order =>
    rw [order, answered, answered, filterMap_snoc, answers]
    rfl
  case out => exact ⟨asker, last, waits⟩

end

end Tree

end Playback
