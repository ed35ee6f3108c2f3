import Playback.Machine.Operate
import Playback.Proofs.Lock.History
import Playback.Proofs.Slot.Claims

set_option autoImplicit false

namespace Playback

/-- What is done beyond a child leaves its slots alone. -/
def World.Quiet (world : World) : Prop :=
  ∀ operation context outcome, world operation context = some outcome → outcome.Silent context

theorem World.still_quiet : still.Quiet := by
  intro operation context outcome taken
  cases taken

/-- Where a thread stands with the slots: away from them, about to claim one, or waiting for the
response in one that it has claimed. A root asks for no values. -/
inductive Poised (root : Bool) : Program → Prop where
  | plain {todo : Program} (slotless : ∀ action ∈ todo, Slotless action) : Poised root todo
  | claims {inquiry : Inquiry} {first second : Action} {rest : Program}
      (asks : first.claims inquiry = true) (waits : second.takes inquiry = true)
      (other : inquiry = .key → root = false) (slotless : ∀ action ∈ rest, Slotless action) :
      Poised root (first :: second :: rest)
  | takes {inquiry : Inquiry} {first : Action} {rest : Program}
      (waits : first.takes inquiry = true) (other : inquiry = .key → root = false)
      (slotless : ∀ action ∈ rest, Slotless action) : Poised root (first :: rest)

/-- The next action of the thread takes a response. -/
def Strand.awaits (inquiry : Inquiry) (strand : Strand) : Bool :=
  strand.todo.head?.any (Action.takes inquiry)

theorem awaits_of_slotless {strand : Strand} (slotless : ∀ action ∈ strand.todo, Slotless action)
    (inquiry : Inquiry) : strand.awaits inquiry = false := by
  unfold Strand.awaits
  cases todo : strand.todo with
  | nil => rfl
  | cons action rest =>
    exact ((slotless action (todo ▸ List.mem_cons_self)).claims inquiry).2

/-- What an action means for one slot, and for the thread that takes it. -/
inductive Turns (inquiry : Inquiry) (before after : Context) : Bool → Bool → Prop where
  | idle {awaits : Bool} (same : after.claimed inquiry = before.claimed inquiry) :
      Turns inquiry before after awaits awaits
  | claims (free : before.claimed inquiry = false) (claimed : after.claimed inquiry = true) :
      Turns inquiry before after false true
  | takes (claimed : before.claimed inquiry = true) (freed : after.claimed inquiry = false) :
      Turns inquiry before after true false

/-- What one action of a thread leads to. -/
structure Strand.Goes (context : Context) (strand : Strand) (outcome : Outcome) (next : Strand) :
    Prop where
  fork : outcome.context.fork = context.fork
  host : outcome.context.host.Slotless
  kept : outcome.context.Kept
  poised : Poised context.isRoot next.todo
  turns : ∀ inquiry,
    Turns inquiry context outcome.context (strand.awaits inquiry) (next.awaits inquiry)

/-- A thread of a root does not wait for a value. -/
theorem Poised.awaits_key {strand : Strand} (poised : Poised true strand.todo) :
    strand.awaits .key = false := by
  unfold Strand.awaits
  generalize strand.todo = todo at poised
  cases poised with
  | plain slotless =>
    cases todo with
    | nil => rfl
    | cons action rest => exact ((slotless action List.mem_cons_self).claims .key).2
  | claims asks => exact Action.takes_of_claims asks .key
  | @takes inquiry first rest waits other =>
    cases inquiry with
    | call => exact Action.takes_of_ne waits nofun
    | key => cases other rfl

/-- Behind a step beyond the child there is nothing about slots. -/
theorem Poised.behind {root : Bool} {operation : Operation} {rest : Program}
    (poised : Poised root (.outside operation :: rest)) : ∀ action ∈ rest, Slotless action := by
  cases poised with
  | plain slotless => exact (List.forall_mem_cons.mp slotless).2
  | @claims inquiry _ _ _ asks => cases inquiry <;> cases asks
  | @takes inquiry _ _ waits => cases inquiry <;> cases waits

section
variable {world : World} {disk : Disk} {context : Context} {strand : Strand} {action : Action}
  {rest : Program} {outcome : Outcome}

theorem Strand.take?_slots (quiet : world.Quiet) (scripts : context.host.Slotless)
    (slotless : Slotless action)
    (taken : strand.take? world disk context action = some outcome) :
    outcome.SlotStep context := by
  unfold Strand.take? at taken
  split at taken
  · exact .silent (quiet _ _ _ taken)
  · exact Context.step_slots slotless scripts taken

theorem Strand.goes_of_slotless (quiet : world.Quiet) (scripts : context.host.Slotless)
    (kept : context.Kept) (todo : strand.todo = action :: rest)
    (slotless : ∀ action ∈ strand.todo, Slotless action)
    (taken : strand.take? world disk context action = some outcome) :
    strand.Goes context outcome (strand.after outcome rest) := by
  rw [todo, List.forall_mem_cons] at slotless
  obtain ⟨first, others⟩ := slotless
  have away : ∀ inquiry, strand.awaits inquiry = false := by
    intro inquiry
    rw [Strand.awaits, todo]
    exact (first.claims inquiry).2
  have goesOn (next : ∀ action ∈ outcome.next, Slotless action) :
      ∀ action ∈ (strand.after outcome rest).todo, Slotless action :=
    List.forall_mem_append.mpr ⟨next, others⟩
  cases Strand.take?_slots quiet scripts first taken with
  | leaves leaves =>
    have plain := goesOn leaves.next
    refine ⟨leaves.fork, leaves.host scripts, leaves.kept kept, .plain plain, fun inquiry => ?_⟩
    rw [away, awaits_of_slotless plain]
    exact .idle (leaves.claimed inquiry)
  | @asks inquiry first second asks waits other same next =>
    have todo : (strand.after outcome rest).todo = first :: second :: rest := by
      rw [Strand.after, next]
      rfl
    have still (inquiry : Inquiry) : (strand.after outcome rest).awaits inquiry = false := by
      rw [Strand.awaits, todo]
      exact Action.takes_of_claims asks inquiry
    refine ⟨by rw [same], by rw [same]; exact scripts, by rw [same]; exact kept, ?_, ?_⟩
    · rw [todo]
      exact .claims asks waits other others
    · intro inquiry
      rw [away, still]
      exact .idle (by rw [same])

/-- An action on the slots is no matter of the world. -/
theorem Strand.take?_eq_step {inquiry : Inquiry}
    (own : action.claims inquiry = true ∨ action.takes inquiry = true) :
    strand.take? world disk context action =
      context.step strand.main strand.value disk action := by
  cases action with
  | outside operation => cases inquiry <;> rcases own with asks | waits <;> contradiction
  | _ => rfl

theorem Strand.awaits_of_todo (todo : strand.todo = action :: rest) (inquiry : Inquiry) :
    strand.awaits inquiry = action.takes inquiry := by
  rw [Strand.awaits, todo]
  rfl

/-- One action of a thread. -/
theorem Strand.goes (quiet : world.Quiet) (scripts : context.host.Slotless) (kept : context.Kept)
    (todo : strand.todo = action :: rest) (poised : Poised context.isRoot (action :: rest))
    (taken : strand.take? world disk context action = some outcome) :
    strand.Goes context outcome (strand.after outcome rest) := by
  cases poised with
  | plain slotless => exact goes_of_slotless quiet scripts kept todo (todo ▸ slotless) taken
  | @claims inquiry _ second others asks waits other slotless =>
    rw [Strand.take?_eq_step (Or.inl asks)] at taken
    obtain ⟨free, next, switches⟩ := Context.step_claims asks taken
    have after : (strand.after outcome (second :: others)).todo = second :: others := by
      rw [Strand.after, next]
      rfl
    refine ⟨switches.fork, by rw [switches.host]; exact scripts, switches.kept kept, ?_, ?_⟩
    · rw [after]
      exact .takes waits other slotless
    · intro asked
      rw [Strand.awaits_of_todo todo, Strand.awaits_of_todo after, Action.takes_of_claims asks]
      by_cases same : asked = inquiry
      · subst same
        rw [waits]
        exact .claims free switches.now
      · rw [Action.takes_of_ne waits same]
        exact .idle (switches.others asked same)
  | @takes inquiry _ _ waits other slotless =>
    rw [Strand.take?_eq_step (Or.inr waits)] at taken
    obtain ⟨answered, switches⟩ := Context.step_takes waits taken
    have plain : ∀ action ∈ (strand.after outcome rest).todo, Slotless action :=
      List.forall_mem_append.mpr ⟨switches.next, slotless⟩
    refine ⟨switches.fork, by rw [switches.host]; exact scripts, switches.kept kept,
      .plain plain, ?_⟩
    intro asked
    rw [Strand.awaits_of_todo todo, awaits_of_slotless plain]
    by_cases same : asked = inquiry
    · subst same
      rw [waits]
      exact .takes (kept asked answered) switches.now
    · rw [Action.takes_of_ne waits same]
      exact .idle (switches.others asked same)

end

namespace History

/-- What may be asked of a child. The slots are reached by way of the actions that ask. -/
def Asks (_threads : Threads) (program : Program) : Prop := ∀ action ∈ program, Slotless action

/-- What may become of the threads of a child, whatever begins and whatever the world does. -/
abbrev Proceeds : History → History → Prop := Relation.ReflTransGen (Moves World.Quiet Asks)

/-- The threads stand well with the slots. -/
structure Ready (root : Bool) (threads : Threads) : Prop where
  here : threads.state.isRoot = root
  host : threads.state.host.Slotless
  kept : threads.state.Kept
  poised : ∀ one ∈ threads.waiting, Poised root one.call.todo

/-- How many threads wait for a response. -/
def takers (inquiry : Inquiry) (waiting : List (Waiting Strand)) : Nat :=
  waiting.countP fun one => one.call.awaits inquiry

/-- If the slot is claimed then by one of the threads, and nobody waits for a response otherwise. -/
def Manned (inquiry : Inquiry) (threads : Threads) : Prop :=
  takers inquiry threads.waiting = (threads.state.claimed inquiry).toNat

/-- The slot is claimed, and there is nobody to free it. -/
def Deserted (inquiry : Inquiry) (threads : Threads) : Prop :=
  threads.state.claimed inquiry = true ∧ takers inquiry threads.waiting = 0

variable {root : Bool} {history next : History}

/-- A claimed slot belongs to one of the threads. -/
theorem Manned.claimed_iff {inquiry : Inquiry} {threads : Threads}
    (manned : Manned inquiry threads) :
    threads.state.claimed inquiry = true ↔
      ∃ one ∈ threads.waiting, one.call.awaits inquiry = true := by
  have some : 0 < takers inquiry threads.waiting ↔
      ∃ one ∈ threads.waiting, one.call.awaits inquiry = true := List.countP_pos_iff
  rw [← some, show takers inquiry threads.waiting = _ from manned]
  cases threads.state.claimed inquiry <;> simp

theorem takers_middle (inquiry : Inquiry) (before after : List (Waiting Strand))
    (one : Waiting Strand) :
    takers inquiry (before ++ one :: after) =
      takers inquiry (before ++ after) + (one.call.awaits inquiry).toNat := by
  unfold takers
  rw [List.countP_append, List.countP_append, List.countP_cons]
  cases one.call.awaits inquiry <;> simp [Nat.add_assoc]

theorem takers_of_slotless {waiting : List (Waiting Strand)} {one : Waiting Strand}
    (slotless : ∀ action ∈ one.call.todo, Slotless action) (inquiry : Inquiry) :
    takers inquiry (waiting ++ [one]) = takers inquiry waiting := by
  rw [takers_middle, awaits_of_slotless slotless, List.append_nil]
  rfl

/-- What one move means for the threads and the slots. -/
theorem Ready.moves (ready : Ready root history.threads)
    (moves : Moves World.Quiet Asks history next) :
    Ready root next.threads ∧ ∀ inquiry, ∃ others awaits waits,
      Turns inquiry history.threads.state next.threads.state awaits waits ∧
      takers inquiry history.threads.waiting = others + awaits.toNat ∧
      takers inquiry next.threads.waiting = others + waits.toNat := by
  obtain ⟨same, host, kept, poised⟩ := ready
  cases moves with
  | @begins _ main program allowed =>
    refine ⟨⟨same, host, kept, ?_⟩, fun inquiry => ?_⟩
    · intro one there
      rcases List.mem_append.mp there with old | new
      · exact poised one old
      · rw [List.mem_singleton.mp new]
        exact .plain allowed
    · refine ⟨takers inquiry history.threads.waiting, false, false, .idle rfl, rfl, ?_⟩
      exact takers_of_slotless (by exact allowed) inquiry
  | @acts world law disk context before after one action rest outcome deeds begun todo taken =>
    have own := poised one (List.mem_append_right _ List.mem_cons_self)
    dsimp only at same host kept
    rw [todo, ← same] at own
    have goes := Strand.goes law host kept todo own taken
    refine ⟨⟨?_, goes.host, goes.kept, ?_⟩, fun inquiry => ?_⟩
    · rw [← same, Context.isRoot, goes.fork]
      rfl
    · intro other there
      rw [List.mem_append, List.mem_cons] at there
      rcases there with front | rfl | back
      · exact poised other (List.mem_append_left _ front)
      · rw [← same]
        exact goes.poised
      · exact poised other (List.mem_append_right _ (List.mem_cons_of_mem _ back))
    · exact ⟨_, _, _, goes.turns inquiry, takers_middle inquiry before after one,
        takers_middle inquiry before after _⟩
  | @ends context before after one deeds begun done =>
    have fewer := sublist_of_others before after one
    refine ⟨⟨same, host, kept, fun other there => poised other (fewer.subset there)⟩,
      fun inquiry => ⟨_, false, false, .idle rfl, ?_, rfl⟩⟩
    dsimp only
    rw [takers_middle, Strand.awaits, done]
    rfl

theorem Manned.moves {inquiry : Inquiry} (ready : Ready root history.threads)
    (manned : Manned inquiry history.threads) (moves : Moves World.Quiet Asks history next) :
    Manned inquiry next.threads := by
  obtain ⟨others, awaits, waits, turns, before, after⟩ := (ready.moves moves).2 inquiry
  unfold Manned at manned ⊢
  rw [after]
  rw [before] at manned
  cases turns with
  | idle same => rw [same, manned]
  | claims free claimed =>
    rw [free] at manned
    have nobody : others = 0 := manned
    rw [claimed, nobody]
    rfl
  | takes claimed freed =>
    rw [claimed] at manned
    rw [freed]
    exact Nat.succ_injective manned

theorem Deserted.moves {inquiry : Inquiry} (ready : Ready root history.threads)
    (deserted : Deserted inquiry history.threads) (moves : Moves World.Quiet Asks history next) :
    Deserted inquiry next.threads := by
  obtain ⟨others, awaits, waits, turns, before, after⟩ := (ready.moves moves).2 inquiry
  obtain ⟨claimed, nobody⟩ := deserted
  rw [before] at nobody
  cases turns with
  | idle same => exact ⟨same.trans claimed, after.trans nobody⟩
  | claims free =>
    rw [free] at claimed
    cases claimed
  | takes => cases nobody

/-- Nobody gets a slot that is claimed. -/
theorem claims_of_moves {inquiry : Inquiry} (claimed : history.threads.state.claimed inquiry = true)
    (moves : Moves World.Quiet Asks history next)
    (before : ∀ deed ∈ history.deeds, deed.action.claims inquiry = false) :
    ∀ deed ∈ next.deeds, deed.action.claims inquiry = false := by
  cases moves with
  | begins | ends => exact before
  | @acts world law disk context front back one action rest outcome deeds begun todo taken =>
    rw [List.forall_mem_append, List.forall_mem_singleton]
    refine ⟨before, Bool.eq_false_of_not_eq_true fun asks => ?_⟩
    rw [Strand.take?_eq_step (Or.inl asks)] at taken
    have free := (Context.step_claims asks taken).1
    rw [free] at claimed
    cases claimed

/-! Whole runs -/

/-- A root before its first thread, which has asked for nothing yet. -/
structure Unasked (history : History) : Prop where
  root : history.threads.state.isRoot = true
  nobody : history.threads.waiting = []
  calls : history.threads.state.calls.slot = {}
  keys : history.threads.state.keys.slot = {}
  host : history.threads.state.host.Slotless

theorem Unasked.ready (unasked : Unasked history) : Ready true history.threads where
  here := unasked.root
  host := unasked.host
  kept := by
    rintro (_ | _) there
    · rw [Context.answered, unasked.calls] at there
      cases there
    · rw [Context.answered, unasked.keys] at there
      cases there
  poised := by
    rw [unasked.nobody]
    exact List.forall_mem_nil _

theorem Unasked.manned (unasked : Unasked history) (inquiry : Inquiry) :
    Manned inquiry history.threads := by
  rw [Manned, unasked.nobody]
  cases inquiry with
  | call => rw [Context.claimed, unasked.calls]; rfl
  | key => rw [Context.claimed, unasked.keys]; rfl

theorem Ready.proceeds (ready : Ready root history.threads) (run : Proceeds history next) :
    Ready root next.threads := by
  induction run with
  | refl => exact ready
  | tail _ moves ih => exact (ih.moves moves).1

theorem Manned.proceeds {inquiry : Inquiry} (ready : Ready root history.threads)
    (manned : Manned inquiry history.threads) (run : Proceeds history next) :
    Manned inquiry next.threads := by
  induction run with
  | refl => exact manned
  | tail front moves ih => exact ih.moves (ready.proceeds front) moves

theorem Deserted.proceeds {inquiry : Inquiry} (ready : Ready root history.threads)
    (deserted : Deserted inquiry history.threads) (fresh : history.deeds = [])
    (run : Proceeds history next) :
    Deserted inquiry next.threads ∧ ∀ deed ∈ next.deeds, deed.action.claims inquiry = false := by
  induction run with
  | refl =>
    rw [fresh]
    exact ⟨deserted, List.forall_mem_nil _⟩
  | tail front moves ih =>
    exact ⟨ih.1.moves (ready.proceeds front) moves, claims_of_moves ih.1.1 moves ih.2⟩

/-- In a root nobody waits for a value. -/
theorem Ready.no_key (ready : Ready true history.threads) :
    takers .key history.threads.waiting = 0 := by
  rw [takers, List.countP_eq_zero]
  intro one there
  rw [(ready.poised one there).awaits_key]
  exact Bool.false_ne_true

/-- The slots of a duplicate are those of its parent. -/
theorem claimed_forked (context : Context) (fork : UInt32) (endpoint : Nat) (inquiry : Inquiry) :
    (Machine.forked context fork endpoint).claimed inquiry = context.claimed inquiry := by
  cases inquiry <;> rfl

/-- A duplicate as it begins: one thread, which goes on where the process was duplicated. -/
def ofFork (context : Context) (rest : Program) : History where
  threads :=
    { state := context
      waiting := [{ ticket := 0, call := { main := true, todo := rest ++ [.serve] } }] }
  begun := 1

/-- A thread that duplicates its process leaves the slots to others. -/
theorem Ready.ofFork (ready : Ready root history.threads) {one : Waiting Strand}
    (there : one ∈ history.threads.waiting) {fork : UInt32} {awaited : Bool} {rest : Program}
    (stands : one.call.todo = .outside (.duplicate fork awaited) :: rest) (endpoint : Nat) :
    let child := Machine.forked history.threads.state fork endpoint
    Ready child.isRoot (ofFork child rest).threads ∧
      ∀ inquiry, takers inquiry (ofFork child rest).threads.waiting = 0 := by
  intro child
  have own := ready.poised one there
  rw [stands] at own
  have slotless : ∀ action ∈ rest ++ [.serve], Slotless action := by
    rw [List.forall_mem_append, List.forall_mem_singleton]
    exact ⟨own.behind, .other rfl⟩
  refine ⟨⟨rfl, ready.host, ?_, ?_⟩, fun inquiry => ?_⟩
  · rintro (_ | _) answered
    · exact ready.kept .call answered
    · exact ready.kept .key answered
  · exact List.forall_mem_singleton.mpr (.plain slotless)
  · have away : ({ main := true, todo := rest ++ [.serve] } : Strand).awaits inquiry = false :=
      awaits_of_slotless slotless inquiry
    rw [takers, List.countP_eq_zero]
    exact List.forall_mem_singleton.mpr (by rw [away]; exact Bool.false_ne_true)

/-- A duplicate has a free lock, and its slot for values is free. Its slot for outputs is claimed if
another thread of the root waits for an output at that moment. A free slot stays with the threads
of the duplicate: whenever none of them waits for a response, a claim is granted and the request
goes out. A claimed one is lost to the duplicate, which never gets to ask. -/
theorem duplicate_inherits_claims {fresh : History} (unasked : Unasked fresh)
    (run : Proceeds fresh history) {one : Waiting Strand}
    (there : one ∈ history.threads.waiting) {fork : UInt32} {awaited : Bool} {rest : Program}
    (stands : one.call.todo = .outside (.duplicate fork awaited) :: rest) (endpoint : Nat) :
    let child := Machine.forked history.threads.state fork endpoint
    child.lock.readers = 0 ∧ child.lock.isWriteLocked = false ∧ child.claimed .key = false ∧
    (child.claimed .call = true ↔
      ∃ other ∈ history.threads.waiting, other.call.awaits .call = true) ∧
    ∀ inquiry later, Proceeds (ofFork child rest) later →
      if child.claimed inquiry then
        later.threads.state.claimed inquiry = true ∧
          ∀ deed ∈ later.deeds, deed.action.claims inquiry = false
      else
        takers inquiry later.threads.waiting = 0 → ∀ main request, ∃ outcome,
          later.threads.state.claim main request inquiry = some outcome ∧
            outcome.effects = later.threads.state.sendEffects request := by
  intro child
  have ready := unasked.ready.proceeds run
  have manned (inquiry : Inquiry) := (unasked.manned inquiry).proceeds unasked.ready run
  obtain ⟨begun, alone⟩ := ready.ofFork there stands endpoint
  have same (inquiry : Inquiry) : child.claimed inquiry = history.threads.state.claimed inquiry :=
    claimed_forked _ _ _ inquiry
  have opened : ({ word := 0 } : LockWord).readers = 0 ∧
      ({ word := 0 } : LockWord).isWriteLocked = false := by decide
  refine ⟨opened.1, opened.2, ?_, ?_, ?_⟩
  · have nobody := ready.no_key
    rw [show takers .key history.threads.waiting = _ from manned .key] at nobody
    rw [same]
    exact Bool.toNat_eq_zero.mp nobody
  · rw [same]
    exact (manned .call).claimed_iff
  · intro inquiry later goes
    split
    case isTrue claimed =>
      have deserted : Deserted inquiry (ofFork child rest).threads := ⟨claimed, alone inquiry⟩
      obtain ⟨still, never⟩ := deserted.proceeds begun rfl goes
      exact ⟨still.1, never⟩
    case isFalse free =>
      have free := Bool.eq_false_of_not_eq_true free
      have own : Manned inquiry (ofFork child rest).threads := by
        rw [Manned, alone]
        exact congrArg Bool.toNat free.symm
      intro nobody main request
      have later := own.proceeds begun goes
      rw [Manned, nobody] at later
      exact Context.claim_of_free (Bool.toNat_eq_zero.mp later.symm) main request

/-! A fork made while a thread waits for an output -/

/-- A root that replays. -/
def replayingRoot : Context where
  config := {}
  channel := some 0
  pipe := some 0

/-- The root while it is being duplicated, with its slot for outputs. -/
def duplicating (slot : Slot (Option CallId × Bytes)) : Context :=
  { replayingRoot with lock := { word := LockWord.writerBit }, calls := { slot } }

/-- A main thread that duplicates the process and then asks for an output. -/
def duplicator (ticket : Nat) (todo : Program) : Waiting Strand where
  ticket := ticket
  call := { main := true, todo }

theorem seven_ne_zero : (7 : UInt64) ≠ 0 := by decide

def someCall : CallId where
  number := 7
  nonzero := seven_ne_zero

def asking : Program := [.lookupCall someCall []]

/-- A worker that has asked for an output and waits for it. -/
def waitingWorker : Waiting Strand where
  ticket := 0
  call := { todo := [.takeCall someCall] }

theorem replayingRoot_unasked : Unasked { threads := { state := replayingRoot } } where
  root := rfl
  nobody := rfl
  calls := rfl
  keys := rfl
  host := List.forall_mem_nil _

/-- What is played is what may become of threads. -/
theorem proceeds_of_play {fresh : History} {turns : List Turn} {threads : Threads}
    (slotless : ∀ turn ∈ turns, turn.program.all (!·.reaches) = true)
    (played : (fresh.play turns).map History.threads = some threads) :
    ∃ history : History, Proceeds fresh history ∧ history.threads = threads := by
  obtain ⟨history, reached, same⟩ := Option.map_eq_some_iff.mp played
  refine ⟨history, moves_of_play World.still_quiet ?_ reached, same⟩
  intro main program there _
  exact slotless_of_reaches (slotless _ there)

/-- A root is duplicated while a worker waits for an output. The duplicate cannot ask for any. -/
theorem duplicate_made_while_asking :
    ∃ (fresh history : History) (one : Waiting Strand) (rest : Program),
      Unasked fresh ∧ Proceeds fresh history ∧ history.threads.state.isReplaying = true ∧
      one ∈ history.threads.waiting ∧
      one.call.todo = .outside (.duplicate 5 false) :: rest ∧
      let child := Machine.forked history.threads.state 5 1
      child.claimed .call = true ∧
        ∀ later, Proceeds (ofFork child rest) later →
          later.threads.state.claimed .call = true ∧
            ∀ deed ∈ later.deeds, deed.action.claims .call = false := by
  have played : (({ threads := { state := replayingRoot } } : History).play
      [.begins false asking, .acts 0, .acts 0,
        .begins true (.performFork 5 false :: asking), .acts 1, .acts 1, .acts 1]).map
      History.threads = some
        { state := duplicating { waiting := true }
          waiting := [waitingWorker, duplicator 1 (.outside (.duplicate 5 false) :: asking)] } :=
      rfl
  obtain ⟨history, run, stands⟩ := proceeds_of_play (by decide) played
  have there :
      duplicator 1 (.outside (.duplicate 5 false) :: asking) ∈ history.threads.waiting := by
    rw [stands]
    exact List.mem_cons_of_mem _ List.mem_cons_self
  have ready := replayingRoot_unasked.ready.proceeds run
  obtain ⟨begun, alone⟩ := ready.ofFork there rfl 1
  have claimed : (Machine.forked history.threads.state 5 1).claimed .call = true := by
    rw [stands]
    rfl
  refine ⟨_, history, _, asking, replayingRoot_unasked, run, by rw [stands]; rfl, there, rfl,
    claimed, fun later goes => ?_⟩
  obtain ⟨still, never⟩ := Deserted.proceeds begun ⟨claimed, alone .call⟩ rfl goes
  exact ⟨still.1, never⟩

/-- A root whose threads ask for nothing is duplicated, and the duplicate asks at once. -/
theorem duplicate_made_at_rest_asks :
    ∃ history : History, Proceeds { threads := { state := replayingRoot } } history ∧
      duplicator 0 (.outside (.duplicate 5 false) :: asking) ∈ history.threads.waiting ∧
      let child := Machine.forked history.threads.state 5 1
      child.claimed .call = false ∧
        ∃ outcome, child.claim true (.externalCallRequest 5 7 []) .call = some outcome ∧
          outcome.effects = [.send 1 (.externalCallRequest 5 7 [])] := by
  have played : (({ threads := { state := replayingRoot } } : History).play
      [.begins true (.performFork 5 false :: asking), .acts 0, .acts 0, .acts 0]).map
      History.threads = some
        { state := duplicating {}
          waiting := [duplicator 0 (.outside (.duplicate 5 false) :: asking)] } := rfl
  obtain ⟨history, run, stands⟩ := proceeds_of_play (by decide) played
  have there :
      duplicator 0 (.outside (.duplicate 5 false) :: asking) ∈ history.threads.waiting := by
    rw [stands]
    exact List.mem_cons_self
  obtain ⟨-, -, -, claimed, asks⟩ :=
    duplicate_inherits_claims replayingRoot_unasked run there rfl 1
  have free : (Machine.forked history.threads.state 5 1).claimed .call = false := by
    rw [Bool.eq_false_iff, ne_eq, claimed, stands]
    rintro ⟨other, member, awaits⟩
    rw [List.mem_singleton.mp member] at awaits
    cases awaits
  have first := asks .call _ .refl
  rw [free] at first
  exact ⟨history, run, there, free, first rfl true _⟩

end History

end Playback
