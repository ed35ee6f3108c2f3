import Playback.Proofs.Lock.Standing
import Mathlib.Logic.Relation

set_option autoImplicit false

namespace Playback

/-- A thread in one child: what it has come to, and what it has still to do. -/
structure Strand where
  main : Bool := false
  value : Reply := .done
  todo : Program

/-- What the steps beyond a child do to it. -/
abbrev World := Operation → Context → Option Outcome

/-- The lock, the host and the bytes of the recording are out of reach for the world, and what it
puts in front of a program leads back to it. -/
def World.Lawful (world : World) : Prop :=
  ∀ operation context outcome, world operation context = some outcome →
    outcome.Level context ((Action.outside operation).use context.host.style)

/-- A world in which no step beyond a child can be taken. -/
def World.still : World := fun _ _ => none

theorem World.still_lawful : still.Lawful := by
  intro operation context outcome taken
  cases taken

namespace Strand

def take? (world : World) (disk : Disk) (strand : Strand) (context : Context) :
    Action → Option Outcome
  | .outside operation => world operation context
  | action => context.step strand.main strand.value disk action

/-- One action of a thread. -/
def move (world : World) (disk : Disk) (strand : Strand) (context : Context) :
    Option (Move Context Strand Reply) :=
  match strand.todo with
  | [] => some { state := context, next := .inr strand.value }
  | action :: rest =>
    (strand.take? world disk context action).map fun outcome =>
      { state := outcome.context
        next := .inl { strand with todo := outcome.next ++ rest
                                   value := outcome.value.getD strand.value }
        records := outcome.records }

theorem take?_ordered {world : World} (lawful : world.Lawful) {disk : Disk} {strand : Strand}
    {context : Context} (scripted : context.host.Scripted) {action : Action} {outcome : Outcome}
    (taken : strand.take? world disk context action = some outcome)
    (known : action.use context.host.style ≠ .plans) :
    outcome.Ordered context (action.use context.host.style) := by
  unfold take? at taken
  split at taken
  · exact (lawful _ context outcome taken).ordered
  · exact Context.step_ordered scripted taken known

/-- Where a thread stands. -/
def stance? (style : HostStyle) (strand : Strand) : Option Stance :=
  standing style .outside strand.todo

/-- What one action does to the state, and to the place where the thread stands. -/
structure Moved (context changed : Context) (before after : Stance) : Prop where
  lock : LockStep context.lock before changed.lock after
  fork : changed.fork = context.fork
  style : changed.host.style = context.host.style
  scripts : changed.host.scripts <:+ context.host.scripts
  recording : context.recording.contents <+: changed.recording.contents

theorem move_eq_some {world : World} (lawful : world.Lawful) {disk : Disk} {strand : Strand}
    {context : Context} (scripted : context.host.Scripted) {stance : Stance}
    (stands : strand.stance? context.host.style = some stance)
    {moved : Move Context Strand Reply} (taken : strand.move world disk context = some moved) :
    (∃ value, stance = .outside ∧ strand.todo = [] ∧ moved.state = context ∧
      moved.next = .inr value) ∨
    (∃ next after, moved.next = .inl next ∧ next.stance? context.host.style = some after ∧
      Moved context moved.state stance after) := by
  unfold stance? at stands
  unfold move at taken
  cases todo : strand.todo with
  | nil =>
    rw [todo] at taken stands
    cases taken
    cases stands
    exact Or.inl ⟨strand.value, rfl, rfl, rfl, rfl⟩
  | cons action rest =>
    rw [todo] at taken stands
    obtain ⟨outcome, step, same⟩ := Option.map_eq_some_iff.mp taken
    obtain ⟨last, behind, before⟩ := Option.bind_eq_some_iff.mp stands
    have known : action.use context.host.style ≠ .plans := by
      intro plans
      rw [plans] at before
      cases last <;> cases before
    have ordered := take?_ordered lawful scripted step known
    obtain ⟨after, lock, front⟩ := ordered.moves last stance before
    cases same
    refine Or.inr ⟨_, after, rfl, ?_,
      ⟨lock, ordered.fork, ordered.style, ordered.scripts, ordered.recording⟩⟩
    rw [stance?, standing_append, behind]
    exact front

end Strand

/-! Crews -/

/-- Threads of one child and its state. -/
abbrev Threads := Crew Context Strand

namespace Threads

def stance? (style : HostStyle) (one : Waiting Strand) : Option Stance := one.call.stance? style

/-- A thread begins, or one of them takes an action. -/
inductive Moves : Threads → Threads → Prop where
  | begins {threads : Threads} (one : Waiting Strand)
      (orderly : Orderly threads.state.host.style one.call.todo)
      (few : threads.waiting.length + 1 < LockWord.limit) :
      Moves threads { threads with waiting := threads.waiting ++ [one] }
  | acts {threads next : Threads} {world : World} (lawful : world.Lawful) {disk : Disk}
      (step : Crew.Step (Strand.move world disk) threads next) : Moves threads next

/-- What may become of threads. -/
abbrev Run : Threads → Threads → Prop := Relation.ReflTransGen Moves

/-- A child whose lock nobody has taken, and whose scripts are orderly, before its first thread. -/
def Fresh (threads : Threads) : Prop :=
  threads.state.lock = {} ∧ threads.state.host.Scripted ∧ threads.waiting = []

def Reachable (threads : Threads) : Prop := ∃ fresh : Threads, fresh.Fresh ∧ Run fresh threads

/-- The word of the lock agrees with where the threads stand. -/
structure Counted (threads : Threads) : Prop where
  scripted : threads.state.host.Scripted
  few : threads.waiting.length < LockWord.limit
  tallied : ∃ stances : List Stance,
    threads.waiting.map (stance? threads.state.host.style) = stances.map some ∧
      Tally threads.state.lock stances

theorem Counted.of_fresh {threads : Threads} (fresh : threads.Fresh) : Counted threads := by
  obtain ⟨lock, scripted, nobody⟩ := fresh
  refine ⟨scripted, ?_, [], ?_, ?_⟩
  · rw [nobody]
    decide
  · rw [nobody]
    rfl
  · rw [lock]
    exact Tally.nil

theorem Counted.begins {threads : Threads} (counted : Counted threads) {one : Waiting Strand}
    (orderly : Orderly threads.state.host.style one.call.todo)
    (few : threads.waiting.length + 1 < LockWord.limit) :
    Counted { threads with waiting := threads.waiting ++ [one] } := by
  obtain ⟨stances, stand, tally⟩ := counted.tallied
  refine ⟨counted.scripted, ?_, stances ++ [.outside], ?_, ?_⟩
  · rw [List.length_append]
    exact few
  · rw [List.map_append, List.map_append, stand]
    exact congrArg (stances.map some ++ ·) (congrArg (fun stance => [stance]) orderly)
  · rw [Tally.outside_iff, List.append_nil]
    exact tally

/-- A thread among the others, with where all of them stand. -/
theorem Counted.split {context : Context} {before after : List (Waiting Strand)}
    {one : Waiting Strand}
    (counted : Counted { state := context, waiting := before ++ one :: after }) :
    ∃ front stance back, before.map (stance? context.host.style) = front.map some ∧
      stance? context.host.style one = some stance ∧
      after.map (stance? context.host.style) = back.map some ∧
      (front ++ stance :: back).length < LockWord.limit ∧
      Tally context.lock (front ++ stance :: back) := by
  obtain ⟨stances, stand, tally⟩ := counted.tallied
  rw [List.map_append, List.map_cons] at stand
  obtain ⟨front, others, rfl, first, last⟩ := List.map_eq_append_iff.mp stand.symm
  obtain ⟨stance, back, rfl, own, rest⟩ := List.map_eq_cons_iff.mp last
  have few := counted.few
  have lengths := congrArg List.length first
  have others := congrArg List.length rest
  simp only [List.length_append, List.length_cons, List.length_map] at few lengths others
  refine ⟨front, stance, back, first.symm, own.symm, rest.symm, ?_, tally⟩
  rw [List.length_append, List.length_cons]
  omega

theorem Counted.stands {threads : Threads} (counted : Counted threads) {one : Waiting Strand}
    (there : one ∈ threads.waiting) :
    ∃ stance, stance? threads.state.host.style one = some stance := by
  obtain ⟨stances, stand, -⟩ := counted.tallied
  have member := List.mem_map_of_mem (f := stance? threads.state.host.style) there
  rw [stand] at member
  obtain ⟨stance, -, same⟩ := List.mem_map.mp member
  exact ⟨stance, same.symm⟩

/-- The scripts that are left are among those that there were. -/
theorem scripted_of_moved {context changed : Context} {before after : Stance}
    (scripted : context.host.Scripted) (moved : Strand.Moved context changed before after) :
    changed.host.Scripted := by
  intro script member
  rw [moved.style]
  exact scripted script (moved.scripts.subset member)

theorem Counted.acts {threads next : Threads} (counted : Counted threads) {world : World}
    (lawful : world.Lawful) {disk : Disk}
    (step : Crew.Step (Strand.move world disk) threads next) : Counted next := by
  cases step with
  | @goesOn state before after one moved call taken inside =>
    obtain ⟨front, stance, back, first, own, last, small, tally⟩ := counted.split
    rcases Strand.move_eq_some lawful counted.scripted own taken with
      ⟨value, -, -, -, ended⟩ | ⟨strand, later, goes, stands, changed⟩
    · rw [inside] at ended
      cases ended
    · rw [inside] at goes
      cases goes
      refine ⟨scripted_of_moved counted.scripted changed, ?_, front ++ later :: back, ?_, ?_⟩
      · have few := counted.few
        simpa using few
      · rw [changed.style, List.map_append, List.map_cons, first, last, List.map_append,
          List.map_cons]
        exact congrArg (fun own => front.map some ++ own :: back.map some) stands
      · exact tally.step small changed.lock
  | @answers state before after one moved answer taken done =>
    obtain ⟨front, stance, back, first, own, last, small, tally⟩ := counted.split
    rcases Strand.move_eq_some lawful counted.scripted own taken with
      ⟨value, rfl, -, same, -⟩ | ⟨strand, later, goes, -, -⟩
    · rw [same]
      refine ⟨counted.scripted, ?_, front ++ back, ?_, ?_⟩
      · have few := counted.few
        simp only [List.length_append, List.length_cons] at few ⊢
        omega
      · rw [List.map_append, first, last, List.map_append]
      · exact (Tally.outside_iff front back).mp tally
    · rw [done] at goes
      cases goes

theorem Counted.run {threads next : Threads} (counted : Counted threads)
    (run : Run threads next) : Counted next := by
  induction run with
  | refl => exact counted
  | tail _ moves ih =>
    cases moves with
    | begins one orderly few => exact ih.begins orderly few
    | acts lawful step => exact ih.acts lawful step

theorem Reachable.counted {threads : Threads} (reachable : Reachable threads) :
    Counted threads := by
  obtain ⟨fresh, start, run⟩ := reachable
  exact (Counted.of_fresh start).run run

/-- Among the threads besides the one that moves, one stays where it is. -/
theorem mem_others {before after : List (Waiting Strand)} {one other : Waiting Strand}
    (there : other ∈ before ++ one :: after) (apart : other ≠ one) : other ∈ before ++ after := by
  rw [List.mem_append, List.mem_cons] at there
  rw [List.mem_append]
  rcases there with front | same | back
  · exact Or.inl front
  · exact absurd same apart
  · exact Or.inr back

/-- A child is left as it was, or a thread of it has taken an action. -/
theorem Moves.moved {threads next : Threads} (counted : Counted threads)
    (moves : Moves threads next) :
    next.state = threads.state ∨
      ∃ before after, Strand.Moved threads.state next.state before after := by
  cases moves with
  | begins one orderly few => exact Or.inl rfl
  | acts lawful step =>
    cases step <;>
    · rename_i taken inside
      obtain ⟨front, stance, back, -, own, -⟩ := counted.split
      rcases Strand.move_eq_some lawful counted.scripted own taken with
        ⟨value, -, -, same, -⟩ | ⟨strand, place, -, -, changed⟩
      · exact Or.inl same
      · exact Or.inr ⟨_, _, changed⟩

variable {threads next : Threads}

/-- Bytes that have been recorded stay. -/
theorem Moves.recording (counted : Counted threads) (moves : Moves threads next) :
    threads.state.recording.contents <+: next.state.recording.contents := by
  rcases moves.moved counted with same | ⟨before, after, changed⟩
  · rw [same]
  · exact changed.recording

/-- A child stays the fork that it is. -/
theorem Moves.fork (counted : Counted threads) (moves : Moves threads next) :
    next.state.fork = threads.state.fork := by
  rcases moves.moved counted with same | ⟨before, after, changed⟩
  · rw [same]
  · exact changed.fork

theorem Moves.style (counted : Counted threads) (moves : Moves threads next) :
    next.state.host.style = threads.state.host.style := by
  rcases moves.moved counted with same | ⟨before, after, changed⟩
  · rw [same]
  · exact changed.style

end Threads

end Playback
