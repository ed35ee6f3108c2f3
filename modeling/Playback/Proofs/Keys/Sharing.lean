import Playback.Proofs.Keys.Errand

set_option autoImplicit false

namespace Playback

namespace Tree

/-- What may happen while processes share keys: threads of any process set keys and ask for values,
forks are registered, and messages go their ways. The root begins with a message of a fork when it
is done with the one before. -/
inductive KeyTurn (story : Story) : Turn → Prop where
  | set (fork : UInt32) (main : Bool) {key value : String}
      (framed : (Message.sharedKeySet fork key value).Framed) :
      KeyTurn story (.begin fork main [.setKey key value])
  | get (fork : UInt32) (main : Bool) {key : String}
      (framed : (Message.sharedKeyRequest fork key).Framed) :
      KeyTurn story (.begin fork main [.getKey key])
  | register {fork : UInt32} (pid : UInt32) (other : fork ≠ rootFork) :
      KeyTurn story (.begin rootFork false (Machine.registering fork pid fork.toNat))
  | act (thread : Nat) : KeyTurn story (.act thread)
  | hear (fork : UInt32) : KeyTurn story (.hear fork)
  | attend {fork : UInt32}
      (done : ∀ thread message, story.begun[thread]? = some (Program.handleFork message) →
        message.fork = fork → story.tree.Returned thread) : KeyTurn story (.attend fork)

/-- A root and forks before any key was set. -/
structure Keyless (tree : Tree) : Prop where
  root : ∃ root, tree.members rootFork = some root ∧ root.fork = rootFork ∧
    root.keys.entries = [] ∧ root.forks.pending = [] ∧
    ∀ fork process, root.forks.process? fork = some process → process.handle = fork.toNat
  forks : ∀ fork own, fork ≠ rootFork → tree.members fork = some own →
    own.fork = fork ∧ own.channel = some upstream ∧ own.keys.slot = {}
  still : tree.threads = []
  ups : ∀ fork, tree.up fork = []
  downs : ∀ fork, tree.down fork = []

/-- The stories of a root and forks that share keys. -/
inductive Story.Shares : Story → Prop where
  | begins {tree : Tree} (keyless : tree.Keyless) : Shares { tree }
  | turn {story next : Story} {turn : Turn} (shares : Shares story)
      (allowed : KeyTurn story turn) (taken : story.take? turn = some next) : Shares next

/-! What an action does beyond its process -/

variable {tree : Tree}

/-! What is on its way for a fork -/

/-- The message of a fork that is handled with an action of the root. -/
def carries? (fork : UInt32) : Action → Option Message
  | .handleFork message | .dispatchFork message =>
    if message.fork = fork then some message else none
  | _ => none

/-- The message for a fork that is passed on or taken in with an action. -/
def returns? (fork : UInt32) : Action → Option Message
  | .route message | .handle message | .dispatch message =>
    if message.fork = fork then some message else none
  | _ => none

def inHand (tree : Tree) (fork : UInt32) : List Message :=
  tree.threads.flatMap fun one => one.2.todo.filterMap (carries? fork)

def back (tree : Tree) (fork : UInt32) : List Message :=
  (tree.threads.flatMap fun one => one.2.todo.filterMap (returns? fork)) ++
    (tree.held fork ++ tree.down fork)

def keySlot (tree : Tree) (fork : UInt32) : Slot String :=
  ((tree.members fork).map fun context => context.keys.slot).getD {}

/-- A thread of a fork has asked for a key and awaits the value. -/
def Story.Awaits (story : Story) (fork : UInt32) (thread : Nat) (key : String) : Prop :=
  story.begun[thread]? = some [.getKey key] ∧
    ∃ strand, story.tree.threads[thread]? = some (fork, strand) ∧ strand.todo = [.takeKey]

def Story.ways (story : Story) (fork : UInt32) : Ways where
  inHand := story.tree.inHand fork
  up := story.tree.up fork
  back := story.tree.back fork
  slot := story.tree.keySlot fork
  awaits := story.Awaits fork

theorem keySlot_of_member {fork : UInt32} {context : Context}
    (here : tree.members fork = some context) : tree.keySlot fork = context.keys.slot := by
  rw [keySlot, here]
  rfl

section
variable {story next : Story} {act : Act} {strand later : Strand} {outcome : Outcome}

theorem Goes.inHand (goes : Goes story next act strand later outcome) (fork : UInt32) :
    ∃ front behind,
      story.tree.inHand fork = front ++ (strand.todo.filterMap (carries? fork) ++ behind) ∧
      next.tree.inHand fork = front ++ (later.todo.filterMap (carries? fork) ++ behind) := by
  rw [Tree.inHand, Tree.inHand, goes.threads]
  exact flatMap_set goes.there (act.fork, later) fun one => one.2.todo.filterMap (carries? fork)

theorem Goes.back (goes : Goes story next act strand later outcome) (fork : UInt32) :
    ∃ others,
      (story.tree.back fork).Perm
        (others ++ (strand.todo.filterMap (returns? fork) ++
          (story.tree.held fork ++ story.tree.down fork))) ∧
      (next.tree.back fork).Perm
        (others ++ (later.todo.filterMap (returns? fork) ++
          (next.tree.held fork ++ next.tree.down fork))) := by
  obtain ⟨front, behind, before, after⟩ := flatMap_set goes.there (act.fork, later)
    fun one => one.2.todo.filterMap (returns? fork)
  refine ⟨front ++ behind, ?_, ?_⟩
  · rw [Tree.back, before, List.perm_iff_count]
    intro message
    simp only [List.count_append]
    omega
  · rw [Tree.back, goes.threads, after, List.perm_iff_count]
    intro message
    simp only [List.count_append]
    omega

theorem Goes.keySlot (goes : Goes story next act strand later outcome) (fork : UInt32) :
    next.tree.keySlot fork =
      if fork = act.fork then outcome.context.keys.slot else story.tree.keySlot fork := by
  rw [Tree.keySlot, goes.members]
  split <;> rfl

theorem Goes.inHand_same (goes : Goes story next act strand later outcome) {fork : UInt32}
    (carried : later.todo.filterMap (carries? fork) = strand.todo.filterMap (carries? fork)) :
    next.tree.inHand fork = story.tree.inHand fork := by
  obtain ⟨front, behind, before, after⟩ := goes.inHand fork
  rw [before, after, carried]

theorem Goes.back_same (goes : Goes story next act strand later outcome) {fork : UInt32}
    (returned : (later.todo.filterMap (returns? fork) ++
      (next.tree.held fork ++ next.tree.down fork)).Perm
        (strand.todo.filterMap (returns? fork) ++
          (story.tree.held fork ++ story.tree.down fork))) :
    (next.tree.back fork).Perm (story.tree.back fork) := by
  obtain ⟨others, before, after⟩ := goes.back fork
  exact after.trans ((returned.append_left others).trans before.symm)

/-- The thread that acts begins to await a value or no longer does, and others go on. -/
theorem Goes.awaits (goes : Goes story next act strand later outcome) (fork : UInt32)
    (thread : Nat) (key : String) :
    next.Awaits fork thread key ↔
      if thread = act.thread then
        fork = act.fork ∧ story.begun[thread]? = some [.getKey key] ∧ later.todo = [.takeKey]
      else story.Awaits fork thread key := by
  unfold Story.Awaits
  rw [goes.begun, goes.threads]
  split
  case isTrue same =>
    subst same
    rw [List.getElem?_set_self (List.getElem?_eq_some_iff.mp goes.there).1]
    constructor
    · rintro ⟨began, one, same, todo⟩
      cases same
      exact ⟨rfl, began, todo⟩
    · rintro ⟨rfl, began, todo⟩
      exact ⟨began, later, rfl, todo⟩
  case isFalse apart => rw [List.getElem?_set_ne (Ne.symm apart)]

theorem Goes.awaits_self (goes : Goes story next act strand later outcome) (fork : UInt32)
    (key : String) :
    story.Awaits fork act.thread key ↔
      fork = act.fork ∧ story.begun[act.thread]? = some [.getKey key] ∧
        strand.todo = [.takeKey] := by
  unfold Story.Awaits
  rw [goes.there]
  constructor
  · rintro ⟨began, one, same, todo⟩
    cases same
    exact ⟨rfl, began, todo⟩
  · rintro ⟨rfl, began, todo⟩
    exact ⟨began, strand, rfl, todo⟩

theorem Goes.awaits_same (goes : Goes story next act strand later outcome) {fork : UInt32}
    (same : fork = act.fork → (later.todo = [.takeKey] ↔ strand.todo = [.takeKey]))
    (thread : Nat) (key : String) :
    next.Awaits fork thread key ↔ story.Awaits fork thread key := by
  rw [goes.awaits]
  split
  case isTrue own =>
    subst own
    rw [goes.awaits_self]
    constructor
    · rintro ⟨home, began, todo⟩
      exact ⟨home, began, (same home).mp todo⟩
    · rintro ⟨home, began, todo⟩
      exact ⟨home, began, (same home).mpr todo⟩
  case isFalse _ => rfl

/-- Nothing of what is on its way for a fork is touched. -/
theorem Goes.alike (goes : Goes story next act strand later outcome) {fork : UInt32}
    (carried : later.todo.filterMap (carries? fork) = strand.todo.filterMap (carries? fork))
    (sends : fork = act.fork → outcome.effects.filterMap upward? = [])
    (returned : (next.tree.back fork).Perm (story.tree.back fork))
    (slot : fork = act.fork → outcome.context.keys.slot = act.context.keys.slot)
    (awaits : fork = act.fork → (later.todo = [.takeKey] ↔ strand.todo = [.takeKey])) :
    (story.ways fork).Alike (next.ways fork) where
  inHand := goes.inHand_same carried
  up := by
    change next.tree.up fork = story.tree.up fork
    rw [goes.up]
    split
    case isTrue same => rw [sends same, List.append_nil]
    case isFalse _ => rw [List.append_nil]
  back := returned
  slot := by
    change next.tree.keySlot fork = story.tree.keySlot fork
    rw [goes.keySlot]
    split
    case isTrue same => rw [slot same, same, keySlot_of_member goes.here]
    case isFalse _ => rfl
  awaits := goes.awaits_same awaits

end

end Tree

end Playback
