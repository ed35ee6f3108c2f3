import Playback.Proofs.Keys.Waiting
import Playback.Proofs.Tree.Work

set_option autoImplicit false

namespace Playback

namespace Tree

variable {story next : Story}

/-- What an action may still bring with it. -/
def toil : Action → Nat
  | .handle _ => 4
  | .route _ => 8
  | .dispatchFork _ => 9
  | .handleFork _ => 12
  | .setKey _ _ | .claimKey _ => 15
  | .getKey _ => 17
  | _ => 1

def toils (todo : Program) : Nat := todo.foldr (fun action rest => toil action + rest) 0

def effort (tree : Tree) : Nat :=
  load tree.threads (fun _ => toils) + ∑ fork, upToil * (tree.up fork).length +
    ∑ fork, downToil * (tree.down fork).length + tree.heldToil

section
variable {act : Act} {strand later : Strand} {outcome : Outcome}

/-- What an action brings with it is less than what it was worth. -/
structure Costs (owner : UInt32) (context : Context) (action : Action) (outcome : Outcome) :
    Prop where
  atRoot : owner = rootFork →
    toils outcome.next + downToil * outcome.effects.length +
        downToil * outcome.context.forks.pending.length <
      toil action + downToil * context.forks.pending.length ∧
    outcome.effects.filterMap upward? = []
  atFork : owner ≠ rootFork →
    toils outcome.next + upToil * (outcome.effects.filterMap upward?).length < toil action

theorem Costs.pays {owner : UInt32} {context : Context} {action : Action} {outcome : Outcome}
    (costs : Costs owner context action outcome) : Pays toil owner context action outcome where
  atRoot := by
    intro root
    obtain ⟨less, nothing⟩ := costs.atRoot root
    rw [nothing]
    exact less
  atFork := costs.atFork

theorem Costs.still {owner : UInt32} {context : Context} {action : Action} {outcome : Outcome}
    (forks : outcome.context.forks = context.forks) (nothing : outcome.effects = [])
    (less : toils outcome.next < toil action) : Costs owner context action outcome where
  atRoot := by
    intro _
    rw [forks, nothing]
    exact ⟨Nat.add_lt_add_right less _, rfl⟩
  atFork := by
    intro _
    rw [nothing]
    exact less

theorem Costs.sends {owner : UInt32} {context : Context} {action : Action} {outcome : Outcome}
    (other : owner ≠ rootFork) (nothing : outcome.next = []) {message : Message}
    (effects : outcome.effects = [.send upstream message]) (enough : upToil < toil action) :
    Costs owner context action outcome where
  atRoot := fun top => absurd top other
  atFork := by
    intro _
    have once := Nat.mul_le_mul_left upToil (length_upward message)
    rw [nothing, effects]
    exact (Nat.add_le_add_left once _).trans_lt enough

theorem Costs.root {owner : UInt32} {context : Context} {action : Action} {outcome : Outcome}
    (root : owner = rootFork)
    (less : toils outcome.next + downToil * outcome.effects.length +
        downToil * outcome.context.forks.pending.length <
      toil action + downToil * context.forks.pending.length)
    (nothing : outcome.effects.filterMap upward? = []) : Costs owner context action outcome where
  atRoot := fun _ => ⟨less, nothing⟩
  atFork := absurd root

/-- A response is worth what it costs to send or to hold. -/
theorem Costs.routes {owner : UInt32} {context : Context} {target : UInt32} {answer : Message}
    (root : owner = rootFork) (other : target ≠ rootFork) (down : KeyDown target answer)
    (shelf : Shelf context.forks) :
    Costs owner context (.route answer) (context.route answer) := by
  cases present : context.forks.process? answer.fork with
  | none =>
    rw [route_held present]
    refine .root root ?_ rfl
    change 0 + 0 + downToil * (context.forks.pending ++ [answer]).length < 8 + _
    rw [List.length_append, List.length_singleton, downToil]
    omega
  | some process =>
    rw [route_sent down present (shelf.handles answer.fork process present)]
    refine .root root ?_ (upward?_sends other _)
    change 0 + 6 + downToil * context.forks.pending.length <
      8 + downToil * context.forks.pending.length
    omega

/-- What was held for a fork is sent when it is registered. -/
theorem Costs.registers {owner : UInt32} {context : Context} {target pid : UInt32}
    (root : owner = rootFork) (other : target ≠ rootFork) :
    Costs owner context (.register target pid target.toNat)
      (context.register target pid target.toNat) := by
  have effects := register_effects context target pid
  refine .root root ?_ ?_
  · have left : (context.register target pid target.toNat).context.forks.pending =
        context.forks.pending.filter (fun message => ¬message.fork = target) := by
      rw [Context.register, ForkTable.register_eq]
    have split := List.length_eq_length_filter_add
      (l := context.forks.pending) fun message => decide (message.fork = target)
    simp only [← decide_not] at split
    rw [effects, left, List.length_map, split]
    change 0 + downToil * _ + downToil * _ < 1 + downToil * _
    rw [downToil, ForkTable.pendingFor]
    omega
  · rw [effects]
    exact upward?_sends other _

/-- An action at one of the known places. -/
theorem Keeping.costs (keeping : Keeping story) {thread : Nat} {owner : UInt32} {context : Context}
    (here : story.tree.members owner = some context) {program rest : Program} {action : Action}
    {reply : Reply} (place : KeyPlace story.acts thread owner program (action :: rest) reply)
    {main : Bool} {value : Reply} (step : context.step main value {} action = some outcome) :
    Costs owner context action outcome := by
  obtain ⟨own, channel⟩ := keeping.kept.own owner context here
  cases place with
  | @sets key text framed =>
    cases Option.some.inj step
    by_cases root : owner = rootFork
    · rw [setKey_of_root own root]
      exact .still rfl rfl (Nat.le_of_ble_eq_true rfl)
    · rw [setKey_of_fork own root]
      exact .sends root rfl (sendEffects_upstream (channel root) _) (Nat.le_of_ble_eq_true rfl)
  | @gets key framed =>
    cases Option.some.inj step
    by_cases root : owner = rootFork
    · rw [getKey_of_root own root]
      exact .still rfl rfl (Nat.le_of_ble_eq_true rfl)
    · rw [getKey_of_fork own root]
      exact .still rfl rfl (Nat.le_of_ble_eq_true rfl)
  | claims other framed =>
    obtain ⟨slot, -, same⟩ := Option.map_eq_some_iff.mp step
    cases same
    exact .sends other rfl (sendEffects_upstream (channel other) _) (Nat.le_of_ble_eq_true rfl)
  | takes other =>
    obtain ⟨⟨text, slot⟩, -, same⟩ := Option.map_eq_some_iff.mp step
    cases same
    exact .still rfl rfl (Nat.le_of_ble_eq_true rfl)
  | @hears message other down _ quiet =>
    cases Option.some.inj step
    rw [handle_of_keyDown own down]
    exact .still rfl rfl (Nat.le_of_ble_eq_true rfl)
  | takesIn other down quiet =>
    cases down with
    | response framed =>
      cases Option.some.inj step
      exact .still rfl rfl (Nat.le_of_ble_eq_true rfl)
  | attends root other up quiet =>
    cases Option.some.inj step
    exact .still rfl rfl (Nat.le_of_ble_eq_true rfl)
  | serves root other up quiet =>
    cases up with
    | set framed =>
      cases Option.some.inj step
      rw [dispatchFork_set framed]
      exact .still rfl rfl (Nat.le_of_ble_eq_true rfl)
    | request framed =>
      cases Option.some.inj step
      rw [dispatchFork_request]
      exact .still rfl rfl (Nat.le_of_ble_eq_true rfl)
  | answers root other down quiet =>
    cases Option.some.inj step
    exact .routes root other down (keeping.kept.of_root (root ▸ here)).1
  | enrolls root other quiet =>
    cases Option.some.inj step
    exact .registers root other
  | enters apart place =>
    obtain ⟨lock, -, same⟩ := Option.map_eq_some_iff.mp step
    cases same
    exact .still rfl rfl (Nat.le_of_ble_eq_true rfl)
  | ends apart quiet =>
    have idles := (List.forall_mem_cons.mp quiet).1
    cases action <;> cases idles <;>
    · cases Option.some.inj step
      exact .still rfl rfl (Nat.le_of_ble_eq_true rfl)

end

/-- Every turn that is onward takes something from what is left to do. -/
theorem Keeping.effort_lt (keeping : Keeping story) {turn : Turn} (onward : Onward turn)
    (taken : story.take? turn = some next) : next.tree.effort < story.tree.effort := by
  refine onward.work_lt (fun _ => Nat.le_of_ble_eq_true rfl) (fun _ => Nat.le_of_ble_eq_true rfl)
    ?_ taken
  intro act strand later outcome rest todo step goes
  obtain ⟨program, -, place⟩ := keeping.places act.thread act.fork strand goes.there
  rw [todo] at place
  exact (keeping.costs goes.here place step).pays

/-- So many turns with which nothing new is asked for. -/
inductive Runs : Nat → Story → Story → Prop where
  | none (story : Story) : Runs 0 story story
  | turn {count : Nat} {story next last : Story} {turn : Turn} (onward : Onward turn)
      (allowed : KeyTurn story turn) (taken : story.take? turn = some next)
      (runs : Runs count next last) : Runs (count + 1) story last

theorem Keeping.runs {count : Nat} {last : Story} (keeping : Keeping story)
    (runs : Runs count story last) :
    Keeping last ∧ count + last.tree.effort ≤ story.tree.effort := by
  induction runs with
  | none story => exact ⟨keeping, (Nat.zero_add _).le⟩
  | turn onward allowed taken _ ih =>
    have less := keeping.effort_lt onward taken
    obtain ⟨kept, enough⟩ := ih (keeping.turn allowed taken)
    exact ⟨kept, by omega⟩

/-- As long as something can be done it may be done, and that comes to an end. -/
theorem Keeping.rests (keeping : Keeping story) :
    ∃ count last, Runs count story last ∧ last.Still := by
  induction worth : story.tree.effort using Nat.strong_induction_on generalizing story with
  | h worth' ih =>
    by_cases still : story.Still
    · exact ⟨0, story, .none story, still⟩
    · simp only [Story.Still, not_forall] at still
      obtain ⟨turn, onward, allowed, moves⟩ := still
      obtain ⟨next, taken⟩ := Option.ne_none_iff_exists'.mp moves
      have less := keeping.effort_lt onward taken
      obtain ⟨count, last, runs, rests⟩ :=
        ih next.tree.effort (worth ▸ less) (keeping.turn allowed taken) rfl
      exact ⟨count + 1, last, .turn onward allowed taken runs, rests⟩

end Tree

end Playback
