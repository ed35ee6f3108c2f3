import Playback.Proofs.Lists
import Playback.Proofs.Outputs.Turns

set_option autoImplicit false

namespace Playback

namespace Tree

variable {story next later : Story}

/-! What is known -/

theorem Stance.remembers {owner : UInt32} {program done rest : Program} {action : Action}
    (stance : Stance owner program done (action :: rest)) {context : Context}
    (own : context.fork = owner) {main : Bool} {value : Reply} {outcome : Outcome}
    (step : context.step main value {} action = some outcome) {id : CallId} {output : Bytes}
    (known : context.calls.output? id = some output) :
    outcome.context.calls.output? id = some output := by
  cases stance with
  | plain proper =>
    cases proper action List.mem_cons_self with
    | performUnlessKnown =>
      cases Option.some.inj step
      unfold Context.performUnlessKnown
      split <;> exact known
    | publishCall | keepCall =>
      cases Option.some.inj step
      exact ExternalCalls.output?_insert_of_some _ known
    | send | answer | leaveRead | register =>
      cases Option.some.inj step
      exact known
    | enterRead =>
      obtain ⟨lock, -, same⟩ := Option.map_eq_some_iff.mp step
      cases same
      exact known
    | handle arrives =>
      cases Option.some.inj step
      rw [handle_of_callDown own arrives.down]
      exact known
    | dispatch arrives =>
      cases Option.some.inj step
      obtain ⟨tag, told, conveys⟩ := arrives.down.conveys
      rw [dispatch_of_conveys _ _ conveys]
      exact known
  | looks =>
    cases Option.some.inj step
    unfold Context.lookupCall
    split <;> exact known
  | claims | takes | enters =>
    obtain ⟨one, -, same⟩ := Option.map_eq_some_iff.mp step
    cases same
    exact known
  | attends | routes =>
    cases Option.some.inj step
    exact known
  | serves root other up =>
    cases Option.some.inj step
    cases up with
    | request asked input =>
      rw [dispatchFork_callRequest]
      exact known
    | report told output =>
      rw [dispatchFork_report]
      exact ExternalCalls.output?_insert_of_some _ known

theorem Asking.remembers (asking : Asking story) (follows : story.Follows next) {fork : UInt32}
    {id : CallId} {output : Bytes} (known : story.tree.output? fork id = some output) :
    next.tree.output? fork id = some output := by
  have same (members : next.tree.members fork = story.tree.members fork) :
      next.tree.output? fork id = some output := by
    rw [output?, members]
    exact known
  cases asking.comes follows with
  | @acts act strand rest outcome todo step goes =>
    obtain ⟨own, -⟩ := asking.own act.fork act.context goes.here
    obtain ⟨program, began, stance⟩ := asking.stances act.thread act.fork strand goes.there
    rw [todo] at stance
    by_cases home : fork = act.fork
    · subst home
      rw [output?_of_member goes.here] at known
      have there : next.tree.members act.fork = some outcome.context := by
        rw [goes.members, if_pos rfl]
      rw [output?_of_member there]
      exact stance.remembers own step known
    · exact same ((goes.members fork).trans (if_neg home))
  | starts begins | hears begins | attends begins => exact same (congrFun begins.members fork)
  | takes _ _ _ _ members => exact same (congrFun members fork)
  | @joins new context none tree =>
    refine same ?_
    rw [tree, members_setMember, if_neg]
    rintro rfl
    rw [output?, none] at known
    cases known

/-! Runs -/

theorem Story.Uses.run (uses : story.Uses)
    (run : Relation.ReflTransGen Story.Follows story later) : later.Uses := by
  induction run with
  | refl => exact uses
  | tail _ follows ih => exact .turn ih follows

theorem Story.Uses.remembers (uses : story.Uses)
    (run : Relation.ReflTransGen Story.Follows story later) {fork : UInt32} {id : CallId}
    {output : Bytes} (known : story.tree.output? fork id = some output) :
    later.tree.output? fork id = some output := by
  induction run with
  | refl => exact known
  | tail run follows ih => exact (uses.run run).asking.remembers follows ih

theorem Comes.acts_eq (comes : Comes story next) :
    next.acts = story.acts ∨ ∃ act, next.acts = story.acts ++ [act] := by
  cases comes with
  | acts _ _ goes => exact Or.inr ⟨_, goes.acts⟩
  | starts begins | hears begins | attends begins => exact Or.inl begins.acts
  | takes _ _ _ acts | joins _ _ _ acts => exact Or.inl acts

/-- What a thread has begun with stays. -/
theorem Comes.begun_of (comes : Comes story next) {thread : Nat} {program : Program}
    (began : story.begun[thread]? = some program) : next.begun[thread]? = some program := by
  cases comes with
  | acts _ _ goes =>
    rw [goes.begun]
    exact began
  | starts begins | hears begins | attends begins => exact begins.began_of began
  | takes _ _ begun | joins _ _ begun =>
    rw [begun]
    exact began

theorem Story.Uses.begun_of (uses : story.Uses)
    (run : Relation.ReflTransGen Story.Follows story later) {thread : Nat} {program : Program}
    (began : story.begun[thread]? = some program) : later.begun[thread]? = some program := by
  induction run with
  | refl => exact began
  | tail run follows ih => exact ((uses.run run).asking.comes follows).begun_of ih

/-- What a thread does next, or that it does nothing. -/
theorem Comes.thread (comes : Comes story next) {thread : Nat} {one : UInt32 × Strand}
    (there : story.tree.threads[thread]? = some one) :
    (next.tree.threads[thread]? = some one ∧ did thread next.acts = did thread story.acts) ∨
      ∃ act strand rest outcome, act.thread = thread ∧ one = (act.fork, strand) ∧
        strand.todo = act.action :: rest ∧
        act.context.step strand.main strand.value {} act.action = some outcome ∧
        Goes story next act strand
          { strand with todo := outcome.next ++ rest, value := outcome.value.getD strand.value }
          outcome := by
  have inside := (List.getElem?_eq_some_iff.mp there).1
  cases comes with
  | @acts act strand rest outcome todo step goes =>
    by_cases same : act.thread = thread
    · subst same
      have found := goes.there
      rw [there] at found
      exact Or.inr ⟨act, strand, rest, outcome, rfl, Option.some.inj found, todo, step, goes⟩
    · refine Or.inl ⟨?_, ?_⟩
      · rw [goes.threads, List.getElem?_set_ne same]
        exact there
      · rw [goes.acts, did_other same]
  | starts begins | hears begins | attends begins =>
    refine Or.inl ⟨?_, by rw [begins.acts]⟩
    rw [begins.threads, List.getElem?_append_left inside]
    exact there
  | takes _ threads _ acts => exact Or.inl ⟨by rw [threads]; exact there, by rw [acts]⟩
  | joins _ tree _ acts => exact Or.inl ⟨by rw [tree]; exact there, by rw [acts]⟩

/-- A run through an action. -/
theorem Story.Uses.splits (uses : story.Uses)
    (run : Relation.ReflTransGen Story.Follows story later) {before behind : List Act} {act : Act}
    (split : later.acts = before ++ act :: behind) (new : story.acts.length ≤ before.length) :
    ∃ middle next, Relation.ReflTransGen Story.Follows story middle ∧ middle.Follows next ∧
      Relation.ReflTransGen Story.Follows next later ∧ middle.acts = before ∧
      next.acts = before ++ [act] := by
  induction run generalizing behind with
  | refl =>
    rw [split, List.length_append, List.length_cons] at new
    omega
  | @tail last later run follows ih =>
    rcases ((uses.run run).asking.comes follows).acts_eq with same | ⟨one, more⟩
    · rw [same] at split
      obtain ⟨middle, next, first, step, rest, both⟩ := ih split
      exact ⟨middle, next, first, step, rest.tail follows, both⟩
    · rw [more] at split
      rcases snoc_eq_middle split with ⟨same, rfl, -⟩ | ⟨others, there, -⟩
      · exact ⟨last, later, run, follows, .refl, same, same ▸ more⟩
      · obtain ⟨middle, next, first, step, rest, both⟩ := ih there
        exact ⟨middle, next, first, step, rest.tail follows, both⟩

/-- The action that was taken. -/
theorem Asking.does (asking : Asking story) (follows : story.Follows next) {act : Act}
    (does : next.acts = story.acts ++ [act]) :
    ∃ strand rest outcome, strand.todo = act.action :: rest ∧
      act.context.step strand.main strand.value {} act.action = some outcome ∧
      Goes story next act strand
        { strand with todo := outcome.next ++ rest, value := outcome.value.getD strand.value }
        outcome := by
  have nothing (same : next.acts = story.acts) : False := by
    rw [same] at does
    exact List.ne_cons_self (List.self_eq_append_right.mp does).symm
  cases asking.comes follows with
  | @acts one strand rest outcome todo step goes =>
    have same := goes.acts
    rw [does] at same
    obtain ⟨-, equal⟩ := List.append_inj' same rfl
    cases equal
    exact ⟨strand, rest, outcome, todo, step, goes⟩
  | starts begins | hears begins | attends begins => exact (nothing begins.acts).elim
  | takes _ _ _ acts | joins _ _ _ acts => exact (nothing acts).elim

end Tree

end Playback
