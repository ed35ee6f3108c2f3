import Playback.Proofs.ExternalCalls.Learning
import Playback.Proofs.Slot.Inherited

set_option autoImplicit false

namespace Playback

/-- What is done beyond a child makes it forget no output. -/
def World.Remembers (world : World) : Prop :=
  ∀ operation context outcome, world operation context = some outcome →
    ∀ id output, context.calls.output? id = some output →
      outcome.context.calls.output? id = some output

theorem World.still_remembers : World.still.Remembers := by
  intro operation context outcome taken
  cases taken

/-- The two ways to ask for the output of a call: with and without a way to perform it. -/
inductive IsCall (id : CallId) : Program → Prop where
  | request (input : Bytes) : IsCall id [.lookupCall id input]
  | external (input performed : Bytes) : IsCall id (Program.externalCall id input performed)

/-- The output that is given back, if any. -/
def Reply.given? : Reply → Option Bytes
  | .output (.available told) => some told
  | .performed told _ => some told
  | _ => none

/-- An output is offered while another one is remembered. -/
def Refuses (id : CallId) (context : Context) (action : Action) : Prop :=
  ∃ output, (action = .keepCall id output ∨ action = .publishCall id output) ∧
    context.calls.stored id output = .different

/-- The action offers an output of its own. -/
def Action.offers : Action → Bool
  | .keepCall _ _ | .publishCall _ _ => true
  | _ => false

theorem not_refuses {id : CallId} {action : Action} (silent : action.offers = false)
    (context : Context) : ¬ Refuses id context action := by
  rintro ⟨output, rfl | rfl, -⟩ <;> cases silent

theorem refuses_keepCall (id : CallId) (context : Context) (output : Bytes) :
    Refuses id context (.keepCall id output) ↔ context.calls.stored id output = .different := by
  simp [Refuses]

theorem refuses_publishCall (id : CallId) (context : Context) (output : Bytes) :
    Refuses id context (.publishCall id output) ↔ context.calls.stored id output = .different := by
  simp [Refuses]

/-! Offers -/

namespace ExternalCalls

variable {calls : ExternalCalls} {id : CallId} {output : Bytes}

theorem stored_eq_different_iff :
    calls.stored id output = .different ↔
      ∃ other, other ≠ output ∧ calls.output? id = some other := by
  unfold stored
  cases known : calls.output? id with
  | none => simp
  | some other =>
    by_cases same : other = output <;> simp [same]

/-- What is remembered behind an offer. -/
theorem output?_offered (fits : calls.stored id output ≠ .different) :
    (calls.insert id output).output? id = some output := by
  rw [output?_insert, if_pos rfl]
  cases known : calls.output? id with
  | none => rfl
  | some other =>
    have same : other = output := by
      by_contra apart
      exact fits (stored_eq_different_iff.mpr ⟨other, apart, known⟩)
    rw [same]
    rfl

/-- The process remembers the output for the call, unless it has refused it for another one. -/
structure Follows (calls : ExternalCalls) (id : CallId) (refused : Prop) (output : Bytes) :
    Prop where
  other : refused → ∃ other, other ≠ output ∧ calls.output? id = some other
  same : ¬ refused → calls.output? id = some output

theorem follows_offered {refused : Prop} (clean : ¬ refused) :
    (calls.insert id output).Follows id (refused ∨ calls.stored id output = .different) output := by
  constructor
  · rintro (before | different)
    · exact absurd before clean
    · obtain ⟨other, apart, known⟩ := stored_eq_different_iff.mp different
      exact ⟨other, apart, output?_insert_of_some output known⟩
  · intro fits
    exact output?_offered fun different => fits (.inr different)

theorem Follows.remembers {after : ExternalCalls} {refused : Prop}
    (follows : calls.Follows id refused output)
    (remembers : ∀ known, calls.output? id = some known → after.output? id = some known) :
    after.Follows id refused output := by
  constructor
  · intro before
    obtain ⟨other, apart, known⟩ := follows.other before
    exact ⟨other, apart, remembers other known⟩
  · exact fun fits => remembers output (follows.same fits)

end ExternalCalls

/-! Where a thread stands with a call -/

/-- What comes behind the look of a call. -/
inductive Behind (id : CallId) : Program → Prop where
  | nothing : Behind id []
  | performs (input performed : Bytes) : Behind id [.performUnlessKnown id input performed]

/-- Where a thread stands with a call that it makes, and what it has come to. -/
inductive CallStage (id : CallId) (behind rest : Program) (calls : ExternalCalls) (refused : Prop)
    (todo : Program) (value : Reply) : Prop where
  | looks {input : Bytes} (clean : ¬ refused)
      (here : todo = .lookupCall id input :: (behind ++ rest))
  | claims {request : Message} (clean : ¬ refused)
      (here : todo = .claimCall request :: .takeCall id :: (behind ++ rest))
  | takes (clean : ¬ refused) (here : todo = .takeCall id :: (behind ++ rest))
  | keeps {output : Bytes} (clean : ¬ refused)
      (here : todo = .keepCall id output :: (behind ++ rest))
  | unknown (clean : ¬ refused) (here : todo = behind ++ rest)
      (nothing : value = .output .unavailable)
  | known {output : Bytes} (follows : calls.Follows id refused output)
      (here : todo = behind ++ rest) (given : value = .output (.available output))
  | publishes {input performed : Bytes} (clean : ¬ refused)
      (here : todo =
        .publishCall id performed :: .answer (.performed performed (some input)) :: rest)
  | sends {message : Message} {input performed : Bytes}
      (follows : calls.Follows id refused performed)
      (here : todo = .send message :: .answer (.performed performed (some input)) :: rest)
  | answers {input performed : Bytes} (follows : calls.Follows id refused performed)
      (here : todo = .answer (.performed performed (some input)) :: rest)
  | returns {input : Option Bytes} {output : Bytes} (follows : calls.Follows id refused output)
      (here : todo = rest) (given : value = .performed output input)

namespace CallStage

variable {id : CallId} {behind rest todo : Program} {calls : ExternalCalls} {refused : Prop}
  {value : Reply}

theorem remembers (stage : CallStage id behind rest calls refused todo value) {after : ExternalCalls}
    (remembers : ∀ known, calls.output? id = some known → after.output? id = some known) :
    CallStage id behind rest after refused todo value := by
  cases stage with
  | looks clean here => exact .looks clean here
  | claims clean here => exact .claims clean here
  | takes clean here => exact .takes clean here
  | keeps clean here => exact .keeps clean here
  | unknown clean here nothing => exact .unknown clean here nothing
  | known follows here given => exact .known (follows.remembers remembers) here given
  | publishes clean here => exact .publishes clean here
  | sends follows here => exact .sends (follows.remembers remembers) here
  | answers follows here => exact .answers (follows.remembers remembers) here
  | returns follows here given => exact .returns (follows.remembers remembers) here given

/-- A call that has come to its end gives what is remembered for it, unless that was refused. -/
theorem follows_of_given (stage : CallStage id behind rest calls refused rest value) {output : Bytes}
    (given : value.given? = some output) : calls.Follows id refused output := by
  cases stage with
  | looks _ here | claims _ here | takes _ here | keeps _ here | publishes _ here | sends _ here
  | answers _ here =>
    have longer := congrArg List.length here
    simp only [List.length_cons, List.length_append] at longer
    omega
  | unknown _ _ nothing =>
    rw [nothing] at given
    cases given
  | known follows _ same | returns follows _ same =>
    rw [same] at given
    cases given
    exact follows

/-- Who offers nothing is not refused. -/
theorem silent (stage : CallStage id behind rest calls refused todo value) {context : Context}
    {action : Action} (silent : action.offers = false) :
    CallStage id behind rest calls (refused ∨ Refuses id context action) todo value := by
  rw [or_iff_left (not_refuses silent context)]
  exact stage

/-- One action of the thread that makes the call. -/
theorem acts {world : World} {disk : Disk} {context : Context} {main : Bool} {action : Action}
    {more : Program} {outcome : Outcome} (comes : Behind id behind)
    (stage : CallStage id behind rest context.calls refused todo value) (first : todo = action :: more)
    (inside : rest.length < todo.length)
    (taken : ({ main, value, todo } : Strand).take? world disk context action = some outcome) :
    CallStage id behind rest outcome.context.calls (refused ∨ Refuses id context action)
      (outcome.next ++ more) (outcome.value.getD value) := by
  cases stage with
  | @looks input clean here =>
    cases here.symm.trans first
    refine .silent ?_ rfl
    cases taken
    unfold Context.lookupCall
    split
    · rename_i known
      exact .known ⟨fun before => absurd before clean, fun _ => known⟩ rfl rfl
    · exact .claims clean rfl
  | @claims request clean here =>
    cases here.symm.trans first
    refine .silent ?_ rfl
    obtain ⟨slot, -, same⟩ := Option.map_eq_some_iff.mp taken
    cases same
    exact .takes clean rfl
  | takes clean here =>
    cases here.symm.trans first
    refine .silent ?_ rfl
    obtain ⟨⟨⟨tag, output⟩, slot⟩, -, same⟩ := Option.map_eq_some_iff.mp taken
    cases same
    cases tag with
    | none => exact .unknown clean rfl rfl
    | some tag => exact .keeps clean rfl
  | @keeps output clean here =>
    cases here.symm.trans first
    rw [refuses_keepCall]
    cases taken
    exact .known (ExternalCalls.follows_offered clean) rfl rfl
  | unknown clean here nothing =>
    cases comes with
    | nothing =>
      rw [here] at inside
      exact absurd inside (Nat.lt_irrefl _)
    | performs input performed =>
      cases here.symm.trans first
      refine .silent ?_ rfl
      rw [nothing] at taken
      cases taken
      exact .publishes clean rfl
  | @known output follows here given =>
    cases comes with
    | nothing =>
      rw [here] at inside
      exact absurd inside (Nat.lt_irrefl _)
    | performs input performed =>
      cases here.symm.trans first
      refine .silent ?_ rfl
      rw [given] at taken
      cases taken
      exact .returns follows rfl rfl
  | @publishes input performed clean here =>
    cases here.symm.trans first
    rw [refuses_publishCall]
    cases taken
    exact .sends (ExternalCalls.follows_offered clean) rfl
  | sends follows here =>
    cases here.symm.trans first
    refine .silent ?_ rfl
    cases taken
    exact .answers follows rfl
  | answers follows here =>
    cases here.symm.trans first
    refine .silent ?_ rfl
    cases taken
    exact .returns follows rfl rfl
  | returns follows here given =>
    rw [here] at inside
    exact absurd inside (Nat.lt_irrefl _)

end CallStage

namespace History

variable {may : Threads → Program → Prop} {history next later fresh first last : History}
  {number : Nat} {id : CallId} {behind rest : Program}

/-- What may become of the threads of a child, whatever they do. -/
abbrev Goes (may : Threads → Program → Prop) : History → History → Prop :=
  Relation.ReflTransGen (Moves World.Remembers may)

/-- The thread has more to do than what comes behind its call. -/
def Calls (number : Nat) (rest : Program) (history : History) : Prop :=
  ∃ one ∈ history.threads.waiting, one.ticket = number ∧ rest.length < one.call.todo.length

/-- What may become of the threads while one of them makes its call. -/
abbrev GoesDuring (may : Threads → Program → Prop) (number : Nat) (rest : Program) :
    History → History → Prop :=
  Relation.ReflTransGen fun here there => Moves World.Remembers may here there ∧
    Calls number rest here

/-! Memory -/

theorem take?_remembers {world : World} (law : world.Remembers) {disk : Disk} {strand : Strand}
    {context : Context} {action : Action} {outcome : Outcome}
    (taken : strand.take? world disk context action = some outcome) {output : Bytes}
    (known : context.calls.output? id = some output) :
    outcome.context.calls.output? id = some output := by
  unfold Strand.take? at taken
  split at taken
  · exact law _ _ _ taken id output known
  · exact (Context.step_learns taken).remembers known

theorem remembers_moves (moves : Moves World.Remembers may history next) {output : Bytes}
    (known : history.threads.state.calls.output? id = some output) :
    next.threads.state.calls.output? id = some output := by
  cases moves with
  | begins | ends => exact known
  | acts law todo taken => exact take?_remembers law taken known

/-- What a process remembers it remembers for ever. -/
theorem remembers_goes (goes : Goes may history later) {output : Bytes}
    (known : history.threads.state.calls.output? id = some output) :
    later.threads.state.calls.output? id = some output := by
  induction goes with
  | refl => exact known
  | tail _ moves ih => exact remembers_moves moves ih

/-! A call of one thread among the others -/

/-- What a thread has been refused among so many deeds. -/
def Refused (number : Nat) (id : CallId) (deeds : List Deed) : Prop :=
  ∃ deed ∈ Deed.own deeds number, Refuses id deed.context deed.action

theorem refused_snoc_own {deeds : List Deed} {deed : Deed} (mine : deed.thread.ticket = number) :
    Refused number id (deeds ++ [deed]) ↔
      Refused number id deeds ∨ Refuses id deed.context deed.action := by
  rw [Refused, Deed.own_snoc_own mine]
  simp only [List.mem_append, List.mem_singleton, or_and_right, exists_or, exists_eq_left]
  rfl

theorem refused_snoc_other {deeds : List Deed} {deed : Deed} (other : deed.thread.ticket ≠ number) :
    Refused number id (deeds ++ [deed]) ↔ Refused number id deeds := by
  rw [Refused, Deed.own_snoc_other other]
  rfl

/-- Where the thread stands with its call, which it has begun behind so many deeds. -/
structure CallAt (number : Nat) (id : CallId) (behind rest : Program) (before : List Deed)
    (history : History) : Prop where
  numbered : Numbered history
  deeds : before <+: history.deeds
  stage : ∃ one ∈ history.threads.waiting, one.ticket = number ∧
    CallStage id behind rest history.threads.state.calls
      (Refused number id (history.deeds.drop before.length)) one.call.todo one.call.value

/-- Threads are known by their numbers. -/
theorem Numbered.eq_of_ticket (numbered : Numbered history) {one other : Waiting Strand}
    (there : one ∈ history.threads.waiting) (here : other ∈ history.threads.waiting)
    (same : one.ticket = other.ticket) : one = other :=
  List.inj_on_of_nodup_map numbered.apart there here same

theorem CallAt.moves (comes : Behind id behind) {before : List Deed}
    (callAt : CallAt number id behind rest before history)
    (moves : Moves World.Remembers may history next) (calls : Calls number rest history) :
    CallAt number id behind rest before next := by
  obtain ⟨numbered, deeds, one, there, mine, stage⟩ := callAt
  have still := numbered.moves moves
  cases moves with
  | begins main allowed =>
    exact ⟨still, deeds, one, List.mem_append_left _ there, mine, stage⟩
  | @acts world law disk context front back actor action more outcome done begun todo taken =>
    let deed : Deed := { context, thread := actor, action, outcome }
    have dropped : (done ++ [deed]).drop before.length = done.drop before.length ++ [deed] :=
      List.drop_append_of_le_length deeds.length_le
    refine ⟨still, deeds.trans (List.prefix_append _ _), ?_⟩
    dsimp only
    rw [dropped]
    -- The thread of the call acts itself, or what another one does leaves it where it is.
    by_cases same : one = actor
    case pos =>
      subst same
      obtain ⟨other, here, ours, inside⟩ := calls
      cases numbered.eq_of_ticket here there (ours.trans mine.symm)
      refine ⟨{ one with call := one.call.after outcome more },
        List.mem_append_right _ List.mem_cons_self, mine, ?_⟩
      rw [refused_snoc_own mine]
      exact stage.acts comes todo inside taken
    case neg =>
      have others := Threads.mem_others there same
      have apart : actor.ticket ≠ number := by
        rintro rfl
        exact numbered.ticket_ne others mine
      refine ⟨one, ?_, mine, ?_⟩
      · exact (sublist_of_others _ _ _).subset others
      · rw [refused_snoc_other apart]
        exact stage.remembers fun known => take?_remembers law taken
  | @ends context front back actor done begun empty =>
    refine ⟨still, deeds, one, ?_, mine, stage⟩
    apply Threads.mem_others there
    rintro rfl
    obtain ⟨other, here, ours, inside⟩ := calls
    cases numbered.eq_of_ticket here there (ours.trans mine.symm)
    rw [empty] at inside
    exact Nat.not_lt_zero _ inside

theorem CallAt.goes (comes : Behind id behind) {before : List Deed}
    (callAt : CallAt number id behind rest before history)
    (goes : GoesDuring may number rest history later) :
    CallAt number id behind rest before later := by
  induction goes with
  | refl => exact callAt
  | tail _ moves ih => exact ih.moves comes moves.1 moves.2

theorem numbered_goes (nobody : fresh.threads.waiting = []) (goes : Goes may fresh history) :
    Numbered history := by
  induction goes with
  | refl => 
    constructor
    · rw [nobody]
      exact List.nodup_nil
    · rw [nobody]
      exact List.forall_mem_nil _
  | tail _ moves ih => exact ih.moves moves

/-- From the moment at which a call has given an output, its process remembers one output for it for
ever; and this is the output that was given, unless the thread that made the call has offered its
own to the process and was refused, as the process had learned another one in the meantime. -/
theorem returned_is_remembered_iff (nobody : fresh.threads.waiting = [])
    (goes : Goes may fresh first) {call : Program} (isCall : IsCall id call)
    {one : Waiting Strand} (there : one ∈ first.threads.waiting)
    (begins : one.call.todo = call ++ rest) (during : GoesDuring may one.ticket rest first last)
    {other : Waiting Strand} (here : other ∈ last.threads.waiting)
    (same : other.ticket = one.ticket) (returned : other.call.todo = rest) {output : Bytes}
    (given : other.call.value.given? = some output) :
    ∃ known, (∀ later, Goes may last later → later.threads.state.calls.output? id = some known) ∧
      (known = output ↔ ¬ Refused one.ticket id (last.deeds.drop first.deeds.length)) := by
  obtain ⟨input, behind, comes, whole⟩ : ∃ input behind, Behind id behind ∧
      call = .lookupCall id input :: behind := by
    cases isCall with
    | request input => exact ⟨input, _, .nothing, rfl⟩
    | external input performed => exact ⟨input, _, .performs input performed, rfl⟩
  have callAt : CallAt one.ticket id behind rest first.deeds first := by
    refine ⟨numbered_goes nobody goes, List.prefix_rfl, one, there, rfl, ?_⟩
    have clean : ¬ Refused one.ticket id (first.deeds.drop first.deeds.length) := by
      rw [List.drop_length]
      rintro ⟨deed, nothing, -⟩
      cases nothing
    apply CallStage.looks clean
    rw [begins, whole]
    rfl
  obtain ⟨numbered, -, two, inside, ours, stage⟩ := callAt.goes comes during
  cases numbered.eq_of_ticket inside here (ours.trans same.symm)
  rw [returned] at stage
  have follows := stage.follows_of_given given
  by_cases refused : Refused one.ticket id (last.deeds.drop first.deeds.length)
  case pos =>
    obtain ⟨known, apart, remembered⟩ := follows.other refused
    refine ⟨known, fun later goes => remembers_goes goes remembered, ?_⟩
    exact ⟨fun same => absurd same apart, fun clean => absurd refused clean⟩
  case neg =>
    refine ⟨output, fun later goes => remembers_goes goes (follows.same refused), ?_⟩
    exact ⟨fun _ => refused, fun _ => rfl⟩

/-! Calls that are played -/

/-- Whatever may begin begins. -/
abbrev Anything : Threads → Program → Prop := fun _ _ => True

instance (number : Nat) (rest : Program) (history : History) :
    Decidable (Calls number rest history) :=
  inferInstanceAs (Decidable (∃ one ∈ history.threads.waiting, _ ∧ _))

/-- A turn while the thread makes its call. -/
def takeDuring? (number : Nat) (rest : Program) (history : History) (turn : Turn) :
    Option History :=
  if Calls number rest history then history.take? turn else none

theorem goesDuring_of_play {turns : List Turn}
    (played : turns.foldlM (takeDuring? number rest) history = some later) :
    GoesDuring Anything number rest history later := by
  induction turns generalizing history with
  | nil =>
    cases played
    exact .refl
  | cons turn turns ih =>
    obtain ⟨middle, taken, others⟩ := Option.bind_eq_some_iff.mp played
    obtain ⟨calls, step⟩ := Option.ite_none_right_eq_some.mp taken
    exact .head ⟨.of_take? World.still_remembers (fun _ _ _ => trivial) step, calls⟩ (ih others)

/-- A thread that has just begun to ask for an output. -/
def asker : Waiting Strand where
  ticket := 0
  call := { todo := asking }

def askedRoot : History where
  threads := { state := replayingRoot, waiting := [asker] }
  begun := 1

/-- A response that reaches the root. -/
def response : Program := Program.handle (.externalCallResponse 0 7 [2])

/-- A thread asks and gets a response. What it gives is remembered. -/
theorem response_is_remembered :
    ∃ last other, GoesDuring Anything asker.ticket [] askedRoot last ∧
      other ∈ last.threads.waiting ∧ other.ticket = asker.ticket ∧ other.call.todo = [] ∧
      other.call.value.given? = some [2] ∧
      ∀ later, Goes Anything last later →
        later.threads.state.calls.output? someCall = some [2] := by
  have played : ([.acts 0, .acts 0, .begins false response, .acts 1, .acts 1, .acts 1, .acts 1,
      .acts 1, .acts 0, .acts 0].foldlM (takeDuring? asker.ticket []) askedRoot).map
      (fun history => (history.threads.waiting, history.threads.state.calls.cache)) =
      some ([{ asker with call := { todo := [], value := .output (.available [2]) } },
        { ticket := 1, call := { todo := [] } }], [(someCall, [2])]) := rfl
  obtain ⟨last, reached, stands⟩ := Option.map_eq_some_iff.mp played
  obtain ⟨threads, cache⟩ := Prod.mk.inj stands
  have during := goesDuring_of_play reached
  have goes : Goes Anything { threads := { state := replayingRoot } } askedRoot :=
    .single (.begins false trivial)
  have here : { asker with call := { todo := [], value := .output (.available [2]) } } ∈
      last.threads.waiting := by
    rw [threads]
    exact List.mem_cons_self
  obtain ⟨known, remembered, -⟩ := returned_is_remembered_iff rfl goes (.request [])
    (show asker ∈ askedRoot.threads.waiting from List.mem_singleton_self _) rfl during here rfl rfl
    rfl
  have now := remembered last .refl
  rw [ExternalCalls.output?, cache] at now
  cases now
  exact ⟨last, _, during, here, rfl, rfl, rfl, remembered⟩

/-- While a thread waits for a response, another one publishes an output of the same call. The
thread gives what the response says, which the process does not remember; and a third thread that
asks gets what was published. -/
theorem given_and_not_remembered :
    ∃ last other third, GoesDuring Anything asker.ticket [] askedRoot last ∧
      other ∈ last.threads.waiting ∧ other.ticket = asker.ticket ∧ other.call.todo = [] ∧
      other.call.value.given? = some [2] ∧
      third ∈ last.threads.waiting ∧ third.call.value.given? = some [1] ∧
      ∀ later, Goes Anything last later →
        later.threads.state.calls.output? someCall = some [1] := by
  have played : ([.acts 0, .acts 0, .begins false [.publishCall someCall [1]], .acts 1, .acts 1,
      .begins false response, .acts 2, .acts 2, .acts 2, .acts 2, .acts 2, .begins false asking,
      .acts 3, .acts 0, .acts 0].foldlM (takeDuring? asker.ticket []) askedRoot).map
      (fun history => (history.threads.waiting, history.threads.state.calls.cache)) =
      some ([{ asker with call := { todo := [], value := .output (.available [2]) } },
        { ticket := 1, call := { todo := [] } }, { ticket := 2, call := { todo := [] } },
        { ticket := 3, call := { todo := [], value := .output (.available [1]) } }],
        [(someCall, [1])]) := rfl
  obtain ⟨last, reached, stands⟩ := Option.map_eq_some_iff.mp played
  obtain ⟨threads, cache⟩ := Prod.mk.inj stands
  have here : { asker with call := { todo := [], value := .output (.available [2]) } } ∈
      last.threads.waiting := by
    rw [threads]
    exact List.mem_cons_self
  have there : { ticket := 3, call := { todo := [], value := .output (.available [1]) } } ∈
      last.threads.waiting := by
    rw [threads]
    exact List.mem_of_getLast? rfl
  refine ⟨last, _, _, goesDuring_of_play reached, here, rfl, rfl, rfl, there, rfl, ?_⟩
  intro later onward
  apply remembers_goes onward
  rw [ExternalCalls.output?, cache]
  rfl

end History

end Playback
