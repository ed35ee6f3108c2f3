import Playback.Proofs.Tree.Moves

set_option autoImplicit false

namespace Playback

namespace Tree

/-! Messages -/

/-- What a process sends up: requests for outputs, and outputs. -/
inductive CallUp (fork : UInt32) : Message → Prop where
  | request (id : CallId) (input : Bytes) : CallUp fork (.externalCallRequest fork id.number input)
  | report (id : CallId) (output : Bytes) :
      CallUp fork (.externalCallResponse fork id.number output)

/-- What a process is told about outputs. -/
def CallDown (fork : UInt32) (message : Message) : Prop := ∃ id, Answers fork id message

theorem CallUp.fork {fork : UInt32} {message : Message} (up : CallUp fork message) :
    message.fork = fork := by
  cases up <;> rfl

theorem CallDown.fork {fork : UInt32} {message : Message} (down : CallDown fork message) :
    message.fork = fork := by
  obtain ⟨id, answers⟩ := down
  cases answers <;> rfl

section
variable {fork : UInt32} {message : Message}

theorem CallDown.not_ends (down : CallDown fork message) :
    ForkTable.endsProcess message = false := by
  obtain ⟨id, answers⟩ := down
  cases answers <;> rfl

/-- What a message tells a slot. -/
inductive Conveys (fork : UInt32) : Message → Option CallId → Bytes → Prop where
  | available (id : CallId) (output : Bytes) :
      Conveys fork (.externalCallResponse fork id.number output) (some id) output
  | unavailable : Conveys fork (.externalCallUnavailable fork) none []

theorem CallDown.conveys (down : CallDown fork message) :
    ∃ tag output, Conveys fork message tag output := by
  obtain ⟨id, answers⟩ := down
  cases answers with
  | available output => exact ⟨_, _, .available id output⟩
  | unavailable => exact ⟨_, _, .unavailable⟩

theorem Conveys.of_response {id : CallId} {output other : Bytes} {tag : Option CallId}
    (conveys : Conveys fork (.externalCallResponse fork id.number output) tag other) :
    tag = some id ∧ other = output := by
  generalize same : Message.externalCallResponse fork id.number output = message at conveys
  cases conveys with
  | available =>
    injection same with _ _ _ payload
    obtain ⟨number, rfl⟩ := Payload.binary.inj payload
    exact ⟨congrArg some (CallId.number_inj number).symm, rfl⟩
  | unavailable =>
    injection same with _ _ _ payload
    exact absurd (Payload.binary.inj payload).1 id.nonzero

end

/-! Legs -/

inductive Leg where
  | request (message : Message)
  | answer (message : Message)
  | response (tag : Option CallId) (output : Bytes)
  deriving DecidableEq

def Leg.request? : Leg → Option Message
  | request message => some message
  | _ => none

def Leg.isResponse : Leg → Bool
  | response _ _ => true
  | _ => false

/-- The leg of a fork that an action of some thread deals with. -/
def leg? (fork : UInt32) : Action → Option Leg
  | .handleFork message | .dispatchFork message =>
    if message.fork = fork ∧ isRequest message = true then some (.request message) else none
  | .route message | .handle message | .dispatch message =>
    if message.fork = fork then some (.answer message) else none
  | _ => none

def upLeg? (message : Message) : Option Leg :=
  if isRequest message then some (.request message) else none

/-- A response stands for its errand while the slot is claimed. -/
def slotLegs (slot : Slot (Option CallId × Bytes)) : List Leg :=
  if slot.waiting then (slot.response.map fun one => .response one.1 one.2).toList else []

/-- Legs that no thread deals with. -/
def lines (tree : Tree) (fork : UInt32) : List Leg :=
  (tree.up fork).filterMap upLeg? ++
    ((tree.held fork ++ tree.down fork).map .answer ++ slotLegs (tree.slot fork))

def legs (tree : Tree) (fork : UInt32) : List Leg :=
  tree.threads.flatMap (fun one => one.2.todo.filterMap (leg? fork)) ++ tree.lines fork

/-- A thread of a process awaits the output of a call. -/
def AwaitsOutput (tree : Tree) (fork : UInt32) (thread : Nat) (id : CallId) : Prop :=
  ∃ strand rest, tree.threads[thread]? = some (fork, strand) ∧ strand.todo = .takeCall id :: rest

theorem slotLegs_of_free {slot : Slot (Option CallId × Bytes)} (free : slot.waiting = false) :
    slotLegs slot = [] := by
  rw [slotLegs, free]
  rfl

theorem isResponse_of_slotLegs {slot : Slot (Option CallId × Bytes)} {leg : Leg}
    (there : leg ∈ slotLegs slot) : leg.isResponse = true ∧ slot.waiting = true := by
  obtain ⟨waiting, there⟩ := List.mem_ite_nil_right.mp there
  obtain ⟨one, -, rfl⟩ := Option.map_eq_some_iff.mp (Option.mem_toList.mp there)
  exact ⟨rfl, waiting⟩

/-- The leg of a message that is handled under the lock. -/
theorem leg?_underLock {fork : UInt32} {action inner : Action}
    (same : leg? fork inner = leg? fork action) :
    [.enterRead, inner, .leaveRead].filterMap (leg? fork) = (leg? fork action).toList := by
  rw [filterMap_underLock rfl rfl, same]

/-! What actions do to legs -/

section
variable {story next : Story} {act : Act} {strand later : Strand} {outcome : Outcome}

theorem Goes.slot (goes : Goes story next act strand later outcome) (fork : UInt32) :
    next.tree.slot fork =
      if fork = act.fork then outcome.context.calls.slot else story.tree.slot fork := by
  rw [Tree.slot, goes.members]
  split <;> rfl

theorem Goes.callSlot_before (goes : Goes story next act strand later outcome) :
    story.tree.slot act.fork = act.context.calls.slot := slot_of_member goes.here

/-- The legs of other threads and those behind the action stay. -/
theorem Goes.legs (goes : Goes story next act strand later outcome) {rest : Program}
    (todo : strand.todo = act.action :: rest) (goesOn : later.todo = outcome.next ++ rest)
    (fork : UInt32) :
    ∃ others,
      (story.tree.legs fork).Perm
        ((leg? fork act.action).toList ++ (others ++ story.tree.lines fork)) ∧
      (next.tree.legs fork).Perm
        (outcome.next.filterMap (leg? fork) ++ (others ++ next.tree.lines fork)) := by
  obtain ⟨front, behind, before, after⟩ := flatMap_set goes.there (act.fork, later)
    fun one => one.2.todo.filterMap (leg? fork)
  rw [todo, filterMap_cons_toList] at before
  rw [goesOn, List.filterMap_append] at after
  refine ⟨front ++ (rest.filterMap (leg? fork) ++ behind), ?_, ?_⟩
  · rw [Tree.legs, before, ← List.append_assoc (leg? fork act.action).toList]
    refine List.Perm.append_right _ ?_
    rw [List.append_assoc (leg? fork act.action).toList]
    exact List.perm_append_comm_assoc _ _ _
  · rw [Tree.legs, goes.threads, after, ← List.append_assoc (outcome.next.filterMap _)]
    refine List.Perm.append_right _ ?_
    rw [List.append_assoc (outcome.next.filterMap _)]
    exact List.perm_append_comm_assoc _ _ _

/-- What an action leaves alone outside the threads. -/
theorem Goes.lines_same (goes : Goes story next act strand later outcome) {fork : UInt32}
    (ups : fork = act.fork → (outcome.effects.filterMap upward?).filterMap upLeg? = [])
    (slot : fork = act.fork →
      slotLegs outcome.context.calls.slot = slotLegs act.context.calls.slot)
    (forks : act.fork = rootFork → outcome.context.forks = act.context.forks)
    (downs : act.fork = rootFork → outcome.effects.filterMap (downward? fork) = []) :
    next.tree.lines fork = story.tree.lines fork := by
  have up : (next.tree.up fork).filterMap upLeg? = (story.tree.up fork).filterMap upLeg? := by
    rw [goes.up, List.filterMap_append]
    split
    case isTrue own => rw [ups own, List.append_nil]
    case isFalse _ => exact List.append_nil _
  have down : next.tree.down fork = story.tree.down fork := by
    rw [goes.down]
    split
    case isTrue root => rw [downs root, List.append_nil]
    case isFalse _ => exact List.append_nil _
  have same : slotLegs (next.tree.slot fork) = slotLegs (story.tree.slot fork) := by
    rw [goes.slot]
    split
    case isTrue own => rw [slot own, own, goes.callSlot_before]
    case isFalse _ => rfl
  rw [Tree.lines, Tree.lines, up, goes.held_same forks, down, same]

/-- The thread that acts begins to await an output or no longer does, and others go on. -/
theorem Goes.awaitsOutput (goes : Goes story next act strand later outcome) (fork : UInt32)
    (thread : Nat) (id : CallId) :
    next.tree.AwaitsOutput fork thread id ↔
      if thread = act.thread then
        fork = act.fork ∧ ∃ rest, later.todo = .takeCall id :: rest
      else story.tree.AwaitsOutput fork thread id := by
  unfold AwaitsOutput
  rw [goes.threads]
  split
  case isTrue same =>
    subst same
    rw [List.getElem?_set_self (List.getElem?_eq_some_iff.mp goes.there).1]
    constructor
    · rintro ⟨one, rest, same, todo⟩
      cases same
      exact ⟨rfl, rest, todo⟩
    · rintro ⟨rfl, rest, todo⟩
      exact ⟨later, rest, rfl, todo⟩
  case isFalse apart => rw [List.getElem?_set_ne (Ne.symm apart)]

/-- A thread of another process, or one that awaits nothing before nor behind its action. -/
theorem Goes.awaitsOutput_same (goes : Goes story next act strand later outcome) {fork : UInt32}
    (quiet : fork = act.fork → ∀ id rest,
      strand.todo ≠ .takeCall id :: rest ∧ later.todo ≠ .takeCall id :: rest)
    (thread : Nat) (id : CallId) :
    next.tree.AwaitsOutput fork thread id ↔ story.tree.AwaitsOutput fork thread id := by
  rw [goes.awaitsOutput]
  split
  case isTrue same =>
    subst same
    refine iff_of_false (fun ⟨own, rest, todo⟩ => (quiet own id rest).2 todo) ?_
    rintro ⟨one, rest, there, todo⟩
    rw [goes.there] at there
    cases there
    exact (quiet rfl id rest).1 todo
  case isFalse _ => rfl

end

end Tree

end Playback
