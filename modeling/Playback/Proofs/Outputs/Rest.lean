import Playback.Proofs.Outputs.Served
import Playback.Proofs.Tree.Work

set_option autoImplicit false

namespace Playback

namespace Tree

variable {story next last : Story}

/-! What is left to do -/

/-- What an action may still bring with it. -/
def expense : Action → Nat
  | .takeCall _ => 2
  | .handle _ => 4
  | .route _ => 8
  | .dispatchFork _ => 9
  | .handleFork _ => 12
  | .send _ | .claimCall _ => 21
  | .publishCall _ _ => 22
  | .performUnlessKnown _ _ _ | .lookupCall _ _ => 24
  | _ => 1

/-- An action at one of the places where a thread may stand. -/
theorem Stance.pays {owner : UInt32} {program done rest : Program} {action : Action}
    (stance : Stance owner program done (action :: rest)) {context : Context}
    (own : context.fork = owner) (channel : context.channel = some upstream)
    (holds : owner = rootFork → Holds CallDown context.forks) {main : Bool} {value : Reply}
    {outcome : Outcome} (step : context.step main value {} action = some outcome) :
    Pays expense owner context action outcome := by
  cases stance with
  | plain proper =>
    cases proper action List.mem_cons_self with
    | performUnlessKnown =>
      cases Option.some.inj step
      unfold Context.performUnlessKnown
      split <;> exact .still rfl rfl (Nat.le_of_ble_eq_true rfl)
    | publishCall | keepCall | answer | leaveRead =>
      cases Option.some.inj step
      exact .still rfl rfl (Nat.le_of_ble_eq_true rfl)
    | send =>
      cases Option.some.inj step
      exact .sends rfl (sendEffects_upstream channel _) (Nat.le_of_ble_eq_true rfl)
    | register pid root other =>
      cases Option.some.inj step
      exact .registers root other (Nat.le_of_ble_eq_true rfl)
    | enterRead =>
      obtain ⟨lock, -, same⟩ := Option.map_eq_some_iff.mp step
      cases same
      exact .still rfl rfl (Nat.le_of_ble_eq_true rfl)
    | handle arrives =>
      cases Option.some.inj step
      rw [handle_of_callDown own arrives.down]
      exact .still rfl rfl (Nat.le_of_ble_eq_true rfl)
    | dispatch arrives =>
      cases Option.some.inj step
      obtain ⟨tag, told, conveys⟩ := arrives.down.conveys
      rw [dispatch_of_conveys _ _ conveys]
      exact .still rfl rfl (Nat.le_of_ble_eq_true rfl)
  | looks =>
    cases Option.some.inj step
    unfold Context.lookupCall
    split <;> exact .still rfl rfl (Nat.le_of_ble_eq_true rfl)
  | claims =>
    obtain ⟨slot, -, same⟩ := Option.map_eq_some_iff.mp step
    cases same
    exact .sends rfl (sendEffects_upstream channel _) (Nat.le_of_ble_eq_true rfl)
  | takes =>
    obtain ⟨⟨⟨tag, told⟩, slot⟩, -, same⟩ := Option.map_eq_some_iff.mp step
    cases same
    refine .still rfl rfl ?_
    dsimp only
    split <;> exact Nat.le_of_ble_eq_true rfl
  | enters =>
    obtain ⟨lock, -, same⟩ := Option.map_eq_some_iff.mp step
    cases same
    exact .still rfl rfl (Nat.le_of_ble_eq_true rfl)
  | attends =>
    cases Option.some.inj step
    exact .still rfl rfl (Nat.le_of_ble_eq_true rfl)
  | serves root other up =>
    cases Option.some.inj step
    cases up with
    | request asked input =>
      rw [dispatchFork_callRequest]
      exact .still rfl rfl (Nat.le_of_ble_eq_true rfl)
    | report told output =>
      rw [dispatchFork_report]
      exact .still rfl rfl (Nat.le_of_ble_eq_true rfl)
  | routes root other down =>
    cases Option.some.inj step
    exact .routes root (down.fork ▸ other) down.not_ends (holds root) (Nat.le_of_ble_eq_true rfl)

/-- Every turn that is onward takes something from what is left to do. -/
theorem Asking.work_lt (asking : Asking story) {turn : Turn} (onward : Onward turn)
    (taken : story.take? turn = some next) :
    next.tree.work expense < story.tree.work expense := by
  refine onward.work_lt (fun _ => Nat.le_of_ble_eq_true rfl) (fun _ => Nat.le_of_ble_eq_true rfl)
    ?_ taken
  intro act strand later outcome rest todo step goes
  obtain ⟨program, -, stance⟩ := asking.stances act.thread act.fork strand goes.there
  obtain ⟨own, channel⟩ := asking.own act.fork act.context goes.here
  rw [todo] at stance
  exact stance.pays own channel (fun root => asking.of_root (goes.here_root root)) step

/-- So many turns with which nothing new is asked for. -/
inductive Drains : Nat → Story → Story → Prop where
  | none (story : Story) : Drains 0 story story
  | turn {count : Nat} {story next last : Story} {turn : Turn} (onward : Onward turn)
      (taken : story.take? turn = some next) (drains : Drains count next last) :
      Drains (count + 1) story last

/-- No thread can take an action, and no message can be taken up. -/
def Story.Drained (story : Story) : Prop := ∀ turn, Onward turn → story.take? turn = none

theorem Onward.follows {turn : Turn} (onward : Onward turn)
    (taken : story.take? turn = some next) : story.Follows next := by
  refine ⟨turn, ?_, taken⟩
  cases onward with
  | act thread => exact .act thread
  | hear fork => exact .hear fork
  | attend fork => exact .attend fork

theorem Drains.run {count : Nat} (drains : Drains count story last) :
    Relation.ReflTransGen Story.Follows story last := by
  induction drains with
  | none => exact .refl
  | turn onward taken _ ih => exact .head (onward.follows taken) ih

theorem Asking.drains {count : Nat} (asking : Asking story) (drains : Drains count story last) :
    count + last.tree.work expense ≤ story.tree.work expense := by
  induction drains with
  | none => exact (Nat.zero_add _).le
  | turn onward taken _ ih =>
    have less := asking.work_lt onward taken
    have enough := ih (asking.turn (onward.follows taken)).1
    omega

/-- As long as something can be done it may be done, and that comes to an end. -/
theorem Asking.comesToRest (asking : Asking story) :
    ∃ count last, Drains count story last ∧ last.Drained := by
  induction worth : story.tree.work expense using Nat.strong_induction_on generalizing story with
  | h worth' ih =>
    by_cases drained : story.Drained
    · exact ⟨0, story, .none story, drained⟩
    · simp only [Story.Drained, not_forall] at drained
      obtain ⟨turn, onward, moves⟩ := drained
      obtain ⟨next, taken⟩ := Option.ne_none_iff_exists'.mp moves
      have less := asking.work_lt onward taken
      obtain ⟨count, last, drains, rests⟩ :=
        ih _ (worth ▸ less) (asking.turn (onward.follows taken)).1 rfl
      exact ⟨count + 1, last, .turn onward taken drains, rests⟩

/-! Who waits for what -/

/-- What a thread is at that cannot go on. -/
inductive Blocked (slot : Slot (Option CallId × Bytes)) : Program → Prop where
  | claims {rest : Program} (performs : ∀ action ∈ rest, Performs action) (request : Message)
      (id : CallId) (taken : slot.waiting = true) :
      Blocked slot (.claimCall request :: .takeCall id :: rest)
  | takes {rest : Program} (performs : ∀ action ∈ rest, Performs action) (id : CallId)
      (lacks : slot.response = none) : Blocked slot (.takeCall id :: rest)

/-- A thread can go on, or it waits for the slot or for the response in it. -/
theorem Stance.goes_or_blocked {owner : UInt32} {program done rest : Program} {action : Action}
    (stance : Stance owner program done (action :: rest)) {context : Context}
    (unlocked : context.lock.isWriteLocked = false) (main : Bool) (value : Reply) :
    (∃ outcome, context.step main value {} action = some outcome) ∨
      Blocked context.calls.slot (action :: rest) := by
  have entered : ∃ outcome, context.step main value {} .enterRead = some outcome := by
    have entered : context.lock.enter? = some { word := context.lock.word + 1 } :=
      if_neg (by rw [unlocked]; exact Bool.false_ne_true)
    refine Option.isSome_iff_exists.mp ?_
    change (context.lock.enter?.map _).isSome = true
    rw [entered]
    rfl
  cases stance with
  | plain proper =>
    refine Or.inl ?_
    cases proper action List.mem_cons_self with
    | enterRead => exact entered
    | _ => exact ⟨_, rfl⟩
  | claims began performs =>
    cases taken : context.calls.slot.waiting with
    | true => exact Or.inr (.claims performs _ _ taken)
    | false =>
      have claimed : context.calls.slot.claim? = some { waiting := true } :=
        if_neg (by rw [taken]; exact Bool.false_ne_true)
      refine Or.inl (Option.isSome_iff_exists.mp ?_)
      change (context.claimCall main _).isSome = true
      rw [Context.claimCall, claimed]
      rfl
  | @takes id input rest began performs =>
    cases there : context.calls.slot.response with
    | none => exact Or.inr (.takes performs id there)
    | some one =>
      refine Or.inl (Option.isSome_iff_exists.mp ?_)
      change (context.takeCall id).isSome = true
      rw [Context.takeCall, Slot.take?, there]
      rfl
  | enters => exact Or.inl entered
  | looks | attends | serves | routes => exact Or.inl ⟨_, rfl⟩

theorem Blocked.leg? {slot : Slot (Option CallId × Bytes)} {todo : Program}
    (waits : Blocked slot todo) (fork : UInt32) : todo.filterMap (leg? fork) = [] := by
  have none {rest : Program} (performs : ∀ action ∈ rest, Performs action) :
      rest.filterMap (Tree.leg? fork) = [] := by
    rw [List.filterMap_eq_nil_iff]
    intro action there
    cases performs action there
    rfl
  cases waits with
  | claims performs | takes performs =>
    rw [← none performs]
    rfl

section
variable {thread : Nat} {fork : UInt32} {strand : Strand}

theorem Asking.blocked (asking : Asking story) (connected : story.tree.Connected)
    (drained : story.Drained) (there : story.tree.threads[thread]? = some (fork, strand)) :
    strand.todo = [] ∨ Blocked (story.tree.slot fork) strand.todo := by
  obtain ⟨program, began, stance⟩ := asking.stances thread fork strand there
  obtain ⟨context, here⟩ := asking.homes thread fork strand there
  cases todo : strand.todo with
  | nil => exact Or.inl rfl
  | cons action rest =>
    rw [todo] at stance
    rw [slot_of_member here]
    have unlocked := connected.unlocked fork context here
    rcases stance.goes_or_blocked unlocked strand.main strand.value with ⟨outcome, step⟩ | waits
    · exact absurd (drained (.act thread) (.act thread)) (take_act there here todo step)
    · exact Or.inr waits

/-- When nothing goes on, of an errand only the response can be left. -/
theorem Asking.legs_of_drained (asking : Asking story) (connected : story.tree.Connected)
    (drained : story.Drained) (other : fork ≠ rootFork) {context : Context}
    (here : story.tree.members fork = some context) :
    story.tree.legs fork = slotLegs (story.tree.slot fork) := by
  have threads : story.tree.threads.flatMap (fun one => one.2.todo.filterMap (leg? fork)) = [] := by
    rw [List.flatMap_eq_nil_iff]
    intro one there
    obtain ⟨thread, at_⟩ := List.mem_iff_getElem?.mp there
    rcases asking.blocked connected drained at_ with done | waits
    · rw [done]
      rfl
    · exact waits.leg? fork
  have up : story.tree.up fork = [] := by
    cases waiting : story.tree.up fork with
    | nil => rfl
    | cons message rest =>
      have taken := drained (.attend fork) (.attend fork)
      simp [Story.take?, Tree.take?, waiting, other] at taken
  have down : story.tree.down fork = [] := by
    cases waiting : story.tree.down fork with
    | nil => rfl
    | cons message rest =>
      have taken := drained (.hear fork) (.hear fork)
      simp [Story.take?, Tree.take?, waiting, here] at taken
  have held : story.tree.held fork = [] := by
    obtain ⟨root, top, holds⟩ := asking.root
    have known := connected.registered root top fork context other here
    obtain ⟨process, present⟩ := Option.isSome_iff_exists.mp known
    rw [held_of_root top]
    exact holds.clear fork process present
  rw [Tree.legs, Tree.lines, threads, up, held, down]
  rfl

/-- Who has served a request has returned when nothing goes on. -/
theorem Finishes.returned {whole : Program} (finishes : Finishes story thread whole)
    (asking : Asking story) (connected : story.tree.Connected) (drained : story.Drained) :
    story.tree.Returned thread := by
  obtain ⟨⟨fork, strand⟩, there, -, straight⟩ := finishes
  refine ⟨_, there, (asking.blocked connected drained there).resolve_right fun waits => ?_⟩
  dsimp only at straight
  generalize strand.todo = todo at waits straight
  cases waits <;> cases straight _ List.mem_cons_self

/-- Who gets an output has returned when nothing goes on. -/
theorem Getting.returned {id : CallId} {input performed output : Bytes}
    (getting : Getting story fork thread id input performed output) (asking : Asking story)
    (other : fork ≠ rootFork) (connected : story.tree.Connected) (drained : story.Drained) :
    story.tree.Returned thread := by
  obtain ⟨strand, there, gets⟩ := getting
  refine ⟨_, there, (asking.blocked connected drained there).resolve_right fun waits => ?_⟩
  obtain ⟨context, here⟩ := asking.homes thread fork strand there
  have legs := asking.legs_of_drained connected drained other here
  generalize did thread story.acts = done at gets
  generalize strand.todo = todo at gets waits
  generalize strand.value = value at gets
  cases gets with
  | awaits owed =>
    cases waits with
    | takes performs id lacks =>
      rw [slotLegs, lacks] at legs
      have nothing : story.tree.legs fork = [] := legs.trans (ite_self _)
      obtain ⟨leg, out, -⟩ := owed.out
      rw [out.legs] at nothing
      cases nothing
  | keeps | knows | returns => cases waits

end

end Tree

end Playback
