import Playback.Proofs.Tree.Moves
import Mathlib.Algebra.BigOperators.Group.Finset.Piecewise
import Mathlib.Algebra.BigOperators.Ring.Finset
import Mathlib.Algebra.Order.BigOperators.Group.Finset
import Mathlib.Data.FinEnum

set_option autoImplicit false

/- The work that is left to do in a tree, for a price of each action. A turn with which nothing new
is begun lowers it if every action costs more than what it brings with it. -/
namespace Playback

namespace Tree

/-! Sums over the lines -/

theorem load_set {threads : List (UInt32 × Strand)} {index : Nat} {fork : UInt32}
    {strand : Strand} (there : threads[index]? = some (fork, strand)) (later : Strand)
    (weight : UInt32 → Program → Nat) :
    load (threads.set index (fork, later)) weight + weight fork strand.todo =
      load threads weight + weight fork later.todo := by
  obtain ⟨inside, same⟩ := List.getElem?_eq_some_iff.mp there
  have whole : threads = threads.take index ++ (fork, strand) :: threads.drop (index + 1) := by
    rw [← same, List.getElem_cons_drop inside, List.take_append_drop]
  have before : load threads weight =
      load (threads.take index ++ threads.drop (index + 1)) weight + weight fork strand.todo := by
    conv_lhs => rw [whole]
    exact load_split ..
  rw [List.set_eq_take_append_cons_drop, if_pos inside, load_split, before]
  omega

/-- A line that gets longer. -/
theorem sum_line (weight : Nat) (line : UInt32 → List Message) (fork : UInt32)
    (messages : List Message) :
    ∑ other, weight * (line other ++ if other = fork then messages else []).length =
      ∑ other, weight * (line other).length + weight * messages.length := by
  have each (other : UInt32) :
      weight * (line other ++ if other = fork then messages else []).length =
        weight * (line other).length + if other = fork then weight * messages.length else 0 := by
    rw [List.length_append, Nat.mul_add]
    split <;> simp
  rw [Finset.sum_congr rfl fun other _ => each other, Finset.sum_add_distrib,
    Finset.sum_ite_eq' Finset.univ fork, if_pos (Finset.mem_univ fork)]

/-- The first message of a line is taken off. -/
theorem sum_rest (weight : Nat) {line after : UInt32 → List Message} {fork : UInt32}
    {message : Message} {rest : List Message} (first : line fork = message :: rest)
    (takes : ∀ other, after other = if other = fork then rest else line other) :
    ∑ other, weight * (after other).length + weight = ∑ other, weight * (line other).length := by
  have each (other : UInt32) : weight * (line other).length =
      weight * (after other).length + if other = fork then weight else 0 := by
    rw [takes]
    split
    case isTrue same =>
      rw [same, first, List.length_cons, Nat.mul_succ]
    case isFalse _ => exact (Nat.add_zero _).symm
  rw [Finset.sum_congr rfl fun other _ => each other, Finset.sum_add_distrib,
    Finset.sum_ite_eq' Finset.univ fork, if_pos (Finset.mem_univ fork)]

/-- An effect reaches at most one fork. -/
theorem sum_downward_one (effect : Effect) :
    ∑ fork, (downward? fork effect).toList.length ≤ 1 := by
  cases effect with
  | send endpoint message =>
    have each (fork : UInt32) : (downward? fork (.send endpoint message)).toList.length ≤
        if fork.toNat = endpoint then 1 else 0 := by
      unfold downward?
      dsimp only
      split
      case isTrue reaches => rw [if_pos reaches.2.2, Option.toList_some, List.length_singleton]
      case isFalse _ => exact Nat.zero_le _
    refine (Finset.sum_le_sum fun fork _ => each fork).trans ?_
    rw [← Finset.card_filter, Finset.card_le_one]
    intro fork there other same
    rw [Finset.mem_filter] at there same
    exact UInt32.toNat_inj.mp (there.2.trans same.2.symm)
  | sendEncoded | write | terminate =>
    exact (Finset.sum_eq_zero fun fork _ => rfl).trans_le (Nat.zero_le 1)

theorem sum_downward (effects : List Effect) :
    ∑ fork, (effects.filterMap (downward? fork)).length ≤ effects.length := by
  induction effects with
  | nil => simp
  | cons effect effects ih =>
    have once := sum_downward_one effect
    have each (fork : UInt32) : ((effect :: effects).filterMap (downward? fork)).length =
        (downward? fork effect).toList.length + (effects.filterMap (downward? fork)).length := by
      rw [filterMap_cons_toList, List.length_append]
    rw [Finset.sum_congr rfl fun fork _ => each fork, Finset.sum_add_distrib, List.length_cons]
    omega

/-! Work -/

/-- What messages that are on their way bring with them. -/
def upToil : Nat := 14
def downToil : Nat := 6

/-- What the root holds for all forks. -/
def heldToil (tree : Tree) : Nat :=
  ((tree.members rootFork).map fun root => downToil * root.forks.pending.length).getD 0

section
variable (toil : Action → Nat)

/-- What the actions of a program may bring with them. -/
def price (todo : Program) : Nat := todo.foldr (fun action rest => toil action + rest) 0

def work (tree : Tree) : Nat :=
  load tree.threads (fun _ => price toil) + ∑ fork, upToil * (tree.up fork).length +
    ∑ fork, downToil * (tree.down fork).length + tree.heldToil

/-- What an action brings with it is less than its price. -/
structure Pays (owner : UInt32) (context : Context) (action : Action) (outcome : Outcome) :
    Prop where
  atRoot : owner = rootFork →
    price toil outcome.next + upToil * (outcome.effects.filterMap upward?).length +
        downToil * outcome.effects.length + downToil * outcome.context.forks.pending.length <
      toil action + downToil * context.forks.pending.length
  atFork : owner ≠ rootFork →
    price toil outcome.next + upToil * (outcome.effects.filterMap upward?).length < toil action

end

section
variable {toil : Action → Nat}

theorem price_append (first rest : Program) :
    price toil (first ++ rest) = price toil first + price toil rest := by
  induction first with
  | nil => exact (Nat.zero_add _).symm
  | cons action first ih =>
    change toil action + price toil (first ++ rest) = toil action + price toil first + _
    rw [ih, Nat.add_assoc]

theorem heldToil_of_root {tree : Tree} {root : Context}
    (here : tree.members rootFork = some root) :
    tree.heldToil = downToil * root.forks.pending.length := by
  rw [heldToil, here]
  rfl

section
variable {story next : Story} {act : Act} {strand later : Strand} {outcome : Outcome}

theorem Goes.work_lt (goes : Goes story next act strand later outcome) {rest : Program}
    (todo : strand.todo = act.action :: rest) (goesOn : later.todo = outcome.next ++ rest)
    (pays : Pays toil act.fork act.context act.action outcome) :
    next.tree.work toil < story.tree.work toil := by
  have threads := load_set goes.there later fun _ => price toil
  rw [← goes.threads, todo, goesOn, price_append] at threads
  change _ + (toil act.action + price toil rest) = _ at threads
  have ups : ∑ fork, upToil * (next.tree.up fork).length =
      ∑ fork, upToil * (story.tree.up fork).length +
        upToil * (outcome.effects.filterMap upward?).length := by
    rw [← sum_line]
    exact Finset.sum_congr rfl fun fork _ => by rw [goes.up]
  unfold work
  rw [ups]
  by_cases root : act.fork = rootFork
  · have less := pays.atRoot root
    have downs : ∑ fork, downToil * (next.tree.down fork).length ≤
        ∑ fork, downToil * (story.tree.down fork).length + downToil * outcome.effects.length := by
      have each (fork : UInt32) : downToil * (next.tree.down fork).length =
          downToil * (story.tree.down fork).length +
            downToil * (outcome.effects.filterMap (downward? fork)).length := by
        rw [goes.down, if_pos root, List.length_append, Nat.mul_add]
      have few := Nat.mul_le_mul_left downToil (sum_downward outcome.effects)
      rw [Finset.mul_sum] at few
      rw [Finset.sum_congr rfl fun fork _ => each fork, Finset.sum_add_distrib]
      exact Nat.add_le_add_left few _
    have before := heldToil_of_root (goes.here_root root)
    have after : next.tree.heldToil = downToil * outcome.context.forks.pending.length := by
      refine heldToil_of_root ?_
      rw [goes.members, if_pos root.symm]
    rw [before, after]
    omega
  · have less := pays.atFork root
    have downs : ∑ fork, downToil * (next.tree.down fork).length =
        ∑ fork, downToil * (story.tree.down fork).length := by
      refine Finset.sum_congr rfl fun fork _ => ?_
      rw [goes.down, if_neg root, List.append_nil]
    have held : next.tree.heldToil = story.tree.heldToil := by
      unfold heldToil
      rw [goes.members, if_neg (Ne.symm root)]
    rw [downs, held]
    omega

end

section
variable {owner : UInt32} {context : Context} {action : Action} {outcome : Outcome}

theorem Pays.still (forks : outcome.context.forks = context.forks) (nothing : outcome.effects = [])
    (less : price toil outcome.next < toil action) : Pays toil owner context action outcome where
  atRoot := by
    intro _
    rw [forks, nothing]
    exact Nat.add_lt_add_right less _
  atFork := by
    intro _
    rw [nothing]
    exact less

theorem length_upward (message : Message) :
    ([Effect.send upstream message].filterMap upward?).length ≤ 1 := by
  rw [upward?_upstream]
  exact List.length_filter_le _ [message]

/-- A message that is sent up is worth what it costs to handle. -/
theorem Pays.sends (forks : outcome.context.forks = context.forks) {message : Message}
    (effects : outcome.effects = [.send upstream message])
    (less : price toil outcome.next + upToil + downToil < toil action) :
    Pays toil owner context action outcome where
  atRoot := by
    intro _
    have once := Nat.mul_le_mul_left upToil (length_upward message)
    rw [forks, effects, List.length_singleton]
    omega
  atFork := by
    intro _
    have once := Nat.mul_le_mul_left upToil (length_upward message)
    rw [effects]
    omega

/-- A message for a fork is worth what it costs to send or to hold. -/
theorem Pays.routes {fits : UInt32 → Message → Prop} {message : Message} (root : owner = rootFork)
    (other : message.fork ≠ rootFork) (stays : ForkTable.endsProcess message = false)
    (holds : Holds fits context.forks) (enough : downToil < toil (.route message)) :
    Pays toil owner context (.route message) (context.route message) where
  atRoot := by
    intro _
    cases present : context.forks.process? message.fork with
    | none =>
      rw [route_held present]
      change 0 + 0 + 0 + downToil * (context.forks.pending ++ [message]).length < _
      rw [List.length_append, List.length_singleton, Nat.mul_succ]
      omega
    | some process =>
      rw [route_delivers stays present (holds.handles message.fork process present),
        upward?_sends other]
      change 0 + 0 + downToil * 1 + downToil * context.forks.pending.length < _
      omega
  atFork := absurd root

/-- What was held for a fork is sent when it is registered. -/
theorem Pays.registers {target pid : UInt32} (root : owner = rootFork) (other : target ≠ rootFork)
    (some : 0 < toil (.register target pid target.toNat)) :
    Pays toil owner context (.register target pid target.toNat)
      (context.register target pid target.toNat) where
  atRoot := by
    intro _
    have effects := register_effects context target pid
    have left : (context.register target pid target.toNat).context.forks.pending =
        context.forks.pending.filter (fun message => ¬message.fork = target) := by
      rw [Context.register, ForkTable.register_eq]
    have split := List.length_eq_length_filter_add
      (l := context.forks.pending) fun message => decide (message.fork = target)
    simp only [← decide_not] at split
    rw [effects, upward?_sends other, left, List.length_map, split]
    change 0 + 0 + downToil * _ + downToil * _ < _ + downToil * _
    rw [downToil, ForkTable.pendingFor]
    omega
  atFork := absurd root

end

/-! Threads that begin, and the messages that they take up -/

theorem work_start (tree : Tree) (fork : UInt32) (strand : Strand) :
    (tree.start fork strand).work toil = tree.work toil + price toil strand.todo := by
  have threads := load_append tree.threads fork strand fun _ => price toil
  change load (tree.threads ++ [(fork, strand)]) (fun _ => price toil) +
    ∑ other, upToil * (tree.up other).length + ∑ other, downToil * (tree.down other).length +
      tree.heldToil = _
  rw [threads]
  unfold work
  omega

/-- A message that is taken up from above. -/
theorem work_hear {tree : Tree} {fork : UInt32} {message : Message} {rest : List Message}
    (first : tree.down fork = message :: rest)
    (cheap : price toil (Program.handle message) < downToil) :
    ((tree.setDown fork rest).start fork { todo := Program.handle message }).work toil <
      tree.work toil := by
  have downs := sum_rest downToil first (down_setDown fork rest)
  rw [work_start]
  change load tree.threads _ + ∑ other, upToil * (tree.up other).length + _ + tree.heldToil +
    price toil (Program.handle message) < _
  unfold work
  omega

/-- A message that is taken up from a fork. -/
theorem work_attend {tree : Tree} {fork : UInt32} {message : Message} {rest : List Message}
    (first : tree.up fork = message :: rest)
    (cheap : price toil (Program.handleFork message) < upToil) :
    ((tree.setUp fork rest).start rootFork { todo := Program.handleFork message }).work toil <
      tree.work toil := by
  have ups := sum_rest upToil first (up_setUp fork rest)
  rw [work_start]
  change load tree.threads _ + _ + ∑ other, downToil * (tree.down other).length + tree.heldToil +
    price toil (Program.handleFork message) < _
  unfold work
  omega

/-- Every turn that is onward lowers the work, if every action that is taken pays. -/
theorem Onward.work_lt {story next : Story} {turn : Turn} (onward : Onward turn)
    (cheapDown : ∀ message, price toil (Program.handle message) < downToil)
    (cheapUp : ∀ message, price toil (Program.handleFork message) < upToil)
    (pays : ∀ (act : Act) (strand later : Strand) (outcome : Outcome) (rest : Program),
      strand.todo = act.action :: rest →
      act.context.step strand.main strand.value {} act.action = some outcome →
      Goes story next act strand later outcome →
      Pays toil act.fork act.context act.action outcome)
    (taken : story.take? turn = some next) : next.tree.work toil < story.tree.work toil := by
  cases onward with
  | act thread =>
    obtain ⟨act, strand, rest, outcome, -, todo, step, goes⟩ := goes_of_act taken
    exact goes.work_lt todo rfl (pays act strand _ outcome rest todo step goes)
  | hear fork =>
    obtain ⟨changed, heard, rfl⟩ := Option.map_eq_some_iff.mp taken
    simp only [Tree.take?] at heard
    split at heard
    case h_1 first =>
      cases heard
      exact work_hear first (cheapDown _)
    case h_2 => cases heard
  | attend fork =>
    obtain ⟨changed, attended, rfl⟩ := Option.map_eq_some_iff.mp taken
    simp only [Tree.take?] at attended
    split at attended
    case h_1 message rest first =>
      split at attended
      case isTrue _ => cases attended
      case isFalse other =>
        cases attended
        exact work_attend first (cheapUp message)
    case h_2 => cases attended

end

end Tree

end Playback
