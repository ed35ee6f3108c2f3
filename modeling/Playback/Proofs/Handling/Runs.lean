import Playback.Context.Program
import Playback.Context.Step
import Playback.Proofs.Channel.Queueing
import Playback.Proofs.ForkTable.Lookup

set_option autoImplicit false

/- One thread of a child takes the actions of a program, and so handles one message after another.
What the other threads do to the child before each action is left to a relation; it is equality for
a thread that is alone. -/
namespace Playback

/-- A thread comes to the end of a program, with all that it does beyond the child. -/
inductive Runs (others : Context → Context → Prop) (main : Bool) (disk : Disk) :
    Context → Reply → Program → List Effect → Context → Prop where
  | done {context last : Context} (value : Reply) (meanwhile : others context last) :
      Runs others main disk context value [] [] last
  | acts {context between last : Context} {value : Reply} {action : Action} {rest : Program}
      {outcome : Outcome} {effects : List Effect} (meanwhile : others context between)
      (taken : between.step main value disk action = some outcome)
      (goes : Runs others main disk outcome.context (outcome.value.getD value)
        (outcome.next ++ rest) effects last) :
      Runs others main disk context value (action :: rest) (outcome.effects ++ effects) last

/-- A message that is handled: by which thread, with which files at hand, and what is done beyond
the child. -/
structure Heard where
  message : Message
  main : Bool := false
  disk : Disk := {}
  effects : List Effect := []

namespace Heard

/-- What came, apart from what was done about it. -/
def given (one : Heard) : Message × Bool × Disk := (one.message, one.main, one.disk)

/-- The message is for the process of this fork. -/
def isFor (fork : UInt32) (one : Heard) : Bool := one.message.fork = fork

/-- The messages that were sent through an endpoint. -/
def sent (endpoint : Nat) (one : Heard) : List Message :=
  one.effects.filterMap (Effect.sentOn endpoint)

/-- What went elsewhere. -/
def besides (endpoint : Nat) (one : Heard) : List Effect :=
  one.effects.filter fun effect => (effect.sentOn endpoint).isNone

end Heard

/-- Messages are handled one after another, each to its end. -/
inductive Hears (others : Context → Context → Prop) (program : Message → Program) :
    Context → List Heard → Context → Prop where
  | nothing (context : Context) : Hears others program context [] context
  | next {context between last : Context} {one : Heard} {rest : List Heard}
      (handled : Runs others one.main one.disk context .done (program one.message) one.effects
        between)
      (later : Hears others program between rest last) :
      Hears others program context (one :: rest) last

theorem LockWord.leave_of_enter? {lock inside : LockWord} (entered : lock.enter? = some inside) :
    inside.leave = lock := by
  unfold enter? at entered
  split at entered <;> cases entered
  exact congrArg LockWord.mk (UInt32.add_sub_cancel lock.word 1)

section
variable {others : Context → Context → Prop} {main : Bool} {disk : Disk}
  {context last other : Context} {value : Reply} {program rest : Program}
  {effects again : List Effect} {action : Action} {outcome : Outcome}

theorem Runs.of_nil (run : Runs others main disk context value [] effects last) :
    effects = [] ∧ others context last := by
  cases run with
  | done _ meanwhile => exact ⟨rfl, meanwhile⟩

/-- The first action of a thread, and what is left. -/
theorem Runs.of_cons (run : Runs others main disk context value (action :: rest) effects last) :
    ∃ between outcome more, others context between ∧
      between.step main value disk action = some outcome ∧ effects = outcome.effects ++ more ∧
      Runs others main disk outcome.context (outcome.value.getD value) (outcome.next ++ rest) more
        last := by
  cases run with
  | acts meanwhile taken goes => exact ⟨_, _, _, meanwhile, taken, rfl, goes⟩

/-- A thread that is alone takes its first action at once. -/
theorem Runs.of_step (run : Runs Eq main disk context value (action :: rest) effects last)
    (taken : context.step main value disk action = some outcome) :
    ∃ more, effects = outcome.effects ++ more ∧
      Runs Eq main disk outcome.context (outcome.value.getD value) (outcome.next ++ rest) more
        last := by
  obtain ⟨_, found, more, rfl, same, split, goes⟩ := run.of_cons
  rw [taken] at same
  cases same
  exact ⟨more, split, goes⟩

/-- A thread that is alone has no choice. -/
theorem Runs.unique (run : Runs Eq main disk context value program effects last)
    (repeated : Runs Eq main disk context value program again other) :
    again = effects ∧ other = last := by
  induction run generalizing again with
  | done value meanwhile =>
    obtain ⟨nothing, same⟩ := repeated.of_nil
    exact ⟨nothing, same.symm.trans meanwhile⟩
  | acts meanwhile taken _ ih =>
    cases meanwhile
    obtain ⟨more, rfl, goes⟩ := repeated.of_step taken
    obtain ⟨rfl, reached⟩ := ih goes
    exact ⟨rfl, reached⟩

end

/-- The run of a thread that is alone, if it is over after so many actions. -/
def Program.run? (main : Bool) (disk : Disk) :
    Nat → Context → Reply → Program → Option (List Effect × Context)
  | _, context, _, [] => some ([], context)
  | 0, _, _, _ :: _ => none
  | count + 1, context, value, action :: rest => do
    let outcome ← context.step main value disk action
    let (effects, last) ←
      run? main disk count outcome.context (outcome.value.getD value) (outcome.next ++ rest)
    return (outcome.effects ++ effects, last)

theorem Runs.of_run? {main : Bool} {disk : Disk} {context last : Context} {value : Reply}
    {program : Program} {effects : List Effect} (count : Nat)
    (found : program.run? main disk count context value = some (effects, last)) :
    Runs Eq main disk context value program effects last := by
  induction count generalizing context value program effects with
  | zero =>
    cases program <;> cases found
    exact .done value rfl
  | succ count ih =>
    cases program with
    | nil =>
      cases found
      exact .done value rfl
    | cons action rest =>
      simp only [Program.run?, Option.bind_eq_bind, Option.bind_eq_some_iff, Option.pure_def,
        Option.some.injEq, Prod.mk.injEq] at found
      obtain ⟨outcome, taken, ⟨more, reached⟩, goes, rfl, rfl⟩ := found
      exact .acts rfl taken (ih goes)

theorem Hears.unique {program : Message → Program} {context last other : Context}
    {heard again : List Heard} (hears : Hears Eq program context heard last)
    (repeated : Hears Eq program context again other)
    (same : again.map Heard.given = heard.map Heard.given) : again = heard ∧ other = last := by
  induction hears generalizing again with
  | nothing =>
    cases List.map_eq_nil_iff.mp same
    cases repeated
    exact ⟨rfl, rfl⟩
  | @next context between last one rest handled later ih =>
    obtain ⟨first, others, rfl, given, alike⟩ := List.map_eq_cons_iff.mp same
    obtain ⟨message, main, disk, effects⟩ := one
    cases repeated with
    | next repeated others =>
      obtain ⟨first, place, files, done⟩ := first
      cases given
      obtain ⟨rfl, rfl⟩ := handled.unique repeated
      obtain ⟨rfl, reached⟩ := ih others alike
      exact ⟨rfl, reached⟩

/-! Routing one message after another -/

/-- What is sent for a message once it is known what becomes of it. -/
def Routed.sends (message : Message) : Routed Nat → List Effect
  | .sent endpoint _ => [.send endpoint message]
  | .held => []

theorem Context.route_eq (context : Context) (message : Message) :
    context.route message =
      { context := { context with forks := (context.forks.route message).2 }
        effects := (context.forks.route message).1.sends message
        records := ForkTable.routeRecords message (context.forks.route message).1 } := rfl

namespace ForkTable

/-- Messages are routed one after another: what is sent for each of them, and the table behind all
of them. -/
def feed (table : ForkTable Nat) : List Message → List (List Effect) × ForkTable Nat
  | [] => ([], table)
  | message :: rest =>
    let behind := (table.route message).2.feed rest
    ((table.route message).1.sends message :: behind.1, behind.2)

theorem feed_append (table : ForkTable Nat) (messages more : List Message) :
    table.feed (messages ++ more) =
      ((table.feed messages).1 ++ ((table.feed messages).2.feed more).1,
        ((table.feed messages).2.feed more).2) := by
  induction messages generalizing table with
  | nil => rfl
  | cons message rest ih => simp only [List.cons_append, feed, ih]

/-- No fork is reached through the endpoint. -/
def Avoids (table : ForkTable Nat) (endpoint : Nat) : Prop :=
  ∀ fork process, table.process? fork = some process → process.handle ≠ endpoint

variable {table : ForkTable Nat} {endpoint : Nat}

theorem Avoids.sends (avoids : table.Avoids endpoint) (message : Message) :
    ∀ effect ∈ (table.route message).1.sends message, effect.sentOn endpoint = none := by
  cases found : table.process? message.fork with
  | none =>
    rw [route_of_none found]
    exact List.forall_mem_nil _
  | some process =>
    rw [route_of_some found]
    intro effect there
    rw [List.mem_singleton.mp there]
    exact if_neg (avoids message.fork process found)

/-- Routing adds no way to a fork. -/
theorem Avoids.route (avoids : table.Avoids endpoint) (message : Message) :
    (table.route message).2.Avoids endpoint := by
  cases found : table.process? message.fork with
  | none =>
    rw [route_of_none found]
    exact avoids
  | some process =>
    rw [route_of_some found]
    dsimp only
    split
    · intro fork other there
      rw [process?_remove] at there
      split at there
      · cases there
      · exact avoids fork other there
    · exact avoids

/-- Whatever is routed, nothing goes out through the endpoint. -/
theorem Avoids.feed (avoids : table.Avoids endpoint) (messages : List Message) :
    (table.feed messages).2.Avoids endpoint ∧ ∀ effects ∈ (table.feed messages).1,
      ∀ effect ∈ effects, effect.sentOn endpoint = none := by
  induction messages generalizing table with
  | nil => exact ⟨avoids, List.forall_mem_nil _⟩
  | cons message rest ih =>
    obtain ⟨behind, others⟩ := ih (avoids.route message)
    refine ⟨behind, ?_⟩
    rw [ForkTable.feed, List.forall_mem_cons]
    exact ⟨avoids.sends message, others⟩

end ForkTable

/-- A root with a middleman and one fork. -/
def rootOfFive : Context where
  config := {}
  channel := some 0
  forks := { processes := [(5, { pid := 1, handle := 1 })] }

end Playback
