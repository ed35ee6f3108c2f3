import Playback.Proofs.Lock.Strands
import Mathlib.Data.List.Nodup

set_option autoImplicit false

namespace Playback

/-- An action that a thread has taken. -/
structure Deed where
  /-- The child before the action. -/
  context : Context
  /-- The thread before the action. -/
  thread : Waiting Strand
  action : Action
  outcome : Outcome

structure History where
  threads : Threads
  /-- What was done, oldest first. -/
  deeds : List Deed := []
  /-- How many threads have begun. -/
  begun : Nat := 0

/-- A thread that has taken an action and goes on with the rest of its program. -/
def Strand.after (strand : Strand) (outcome : Outcome) (rest : Program) : Strand :=
  { strand with todo := outcome.next ++ rest, value := outcome.value.getD strand.value }

/-- What one thread has done of all that was done. -/
def Deed.own (deeds : List Deed) (number : Nat) : List Deed :=
  deeds.filter fun deed => deed.thread.ticket = number

theorem Deed.own_snoc_own {deeds : List Deed} {deed : Deed} {number : Nat}
    (mine : deed.thread.ticket = number) :
    Deed.own (deeds ++ [deed]) number = Deed.own deeds number ++ [deed] := by
  rw [Deed.own, List.filter_append, List.filter_cons_of_pos (by simpa using mine)]
  rfl

theorem Deed.own_snoc_other {deeds : List Deed} {deed : Deed} {number : Nat}
    (other : deed.thread.ticket ≠ number) :
    Deed.own (deeds ++ [deed]) number = Deed.own deeds number := by
  rw [Deed.own, List.filter_append, List.filter_cons_of_neg (by simpa using other),
    List.filter_nil, List.append_nil, Deed.own]

/-- The threads without one of them. -/
theorem sublist_of_others (before after : List (Waiting Strand)) (one : Waiting Strand) :
    List.Sublist (before ++ after) (before ++ one :: after) :=
  (List.Sublist.refl before).append (List.sublist_cons_self one after)

namespace History

/-- A thread begins, takes an action, or ends. What may begin, and what the world beyond the child
may do, is for the use of the history to say. -/
inductive Moves (lawful : World → Prop) (may : Threads → Program → Prop) :
    History → History → Prop where
  | begins {history : History} (main : Bool) {program : Program}
      (allowed : may history.threads program) :
      Moves lawful may history
        { history with
          threads.waiting := history.threads.waiting ++
            [{ ticket := history.begun, call := { main, todo := program } }]
          begun := history.begun + 1 }
  | acts {world : World} (law : lawful world) {disk : Disk} {context : Context}
      {before after : List (Waiting Strand)} {one : Waiting Strand} {action : Action}
      {rest : Program} {outcome : Outcome} {deeds : List Deed} {begun : Nat}
      (todo : one.call.todo = action :: rest)
      (taken : one.call.take? world disk context action = some outcome) :
      Moves lawful may
        { threads := { state := context, waiting := before ++ one :: after }, deeds, begun }
        { threads :=
            { state := outcome.context
              waiting := before ++ { one with call := one.call.after outcome rest } :: after }
          deeds := deeds ++ [{ context, thread := one, action, outcome }]
          begun }
  | ends {context : Context} {before after : List (Waiting Strand)} {one : Waiting Strand}
      {deeds : List Deed} {begun : Nat} (done : one.call.todo = []) :
      Moves lawful may
        { threads := { state := context, waiting := before ++ one :: after }, deeds, begun }
        { threads := { state := context, waiting := before ++ after }, deeds, begun }

variable {lawful : World → Prop} {may : Threads → Program → Prop} {history next : History}

/-- Numbers of threads are given once. -/
structure Numbered (history : History) : Prop where
  apart : (history.threads.waiting.map Waiting.ticket).Nodup
  given : ∀ one ∈ history.threads.waiting, one.ticket < history.begun

theorem Numbered.moves (numbered : Numbered history) (moves : Moves lawful may history next) :
    Numbered next := by
  obtain ⟨apart, given⟩ := numbered
  cases moves with
  | begins main allowed =>
    constructor
    · rw [List.map_append, List.map_singleton, List.nodup_append]
      refine ⟨apart, List.nodup_singleton _, ?_⟩
      intro old there new same
      obtain ⟨one, member, rfl⟩ := List.mem_map.mp there
      rw [List.mem_singleton.mp same]
      exact Nat.ne_of_lt (given one member)
    · intro one there
      rcases List.mem_append.mp there with old | new
      · exact Nat.lt_succ_of_lt (given one old)
      · rw [List.mem_singleton.mp new]
        exact Nat.lt_succ_self _
  | @acts world law disk context before after one action rest outcome deeds begun todo taken =>
    constructor
    · rw [List.map_append, List.map_cons] at apart ⊢
      exact apart
    · intro other there
      rcases List.mem_append.mp there with front | back
      · exact given other (List.mem_append_left _ front)
      · rcases List.mem_cons.mp back with same | later
        · rw [same]
          exact given one (List.mem_append_right _ List.mem_cons_self)
        · exact given other (List.mem_append_right _ (List.mem_cons_of_mem _ later))
  | @ends context before after one deeds begun done =>
    have fewer := sublist_of_others before after one
    exact ⟨apart.sublist (fewer.map _), fun other there => given other (fewer.subset there)⟩

/-- In place of the thread that moves there is no other with its number. -/
theorem Numbered.ticket_ne {context : Context} {before after : List (Waiting Strand)}
    {one other : Waiting Strand} {deeds : List Deed} {begun : Nat}
    (numbered : Numbered { threads := { state := context, waiting := before ++ one :: after },
                           deeds, begun })
    (there : other ∈ before ++ after) : other.ticket ≠ one.ticket := by
  have apart := numbered.apart
  dsimp only at apart
  rw [List.map_append, List.map_cons, List.nodup_middle, List.nodup_cons,
    ← List.map_append] at apart
  intro same
  exact apart.1 (same ▸ List.mem_map_of_mem there)

/-! Histories that can be played -/

/-- A thread begins, or the thread at a position takes an action while the world stands still. -/
inductive Turn where
  | begins (main : Bool) (program : Program)
  | acts (position : Nat)

/-- The program that begins. -/
def Turn.program : Turn → Program
  | .begins _ program => program
  | .acts _ => []

def take? (history : History) : Turn → Option History
  | .begins main program =>
    some { history with
      threads.waiting := history.threads.waiting ++
        [{ ticket := history.begun, call := { main, todo := program } }]
      begun := history.begun + 1 }
  | .acts position => do
    let one ← history.threads.waiting[position]?
    let action ← one.call.todo.head?
    let context := history.threads.state
    let outcome ← one.call.take? World.still {} context action
    let after := one.call.after outcome one.call.todo.tail
    return {
      threads :=
        { state := outcome.context
          waiting := history.threads.waiting.set position { one with call := after } }
      deeds := history.deeds ++ [{ context, thread := one, action, outcome }]
      begun := history.begun }

def play (history : History) (turns : List Turn) : Option History := turns.foldlM take? history

theorem Moves.of_take? (still : lawful World.still) {turn : Turn}
    (allowed : ∀ main program, turn = .begins main program → may history.threads program)
    (taken : history.take? turn = some next) : Moves lawful may history next := by
  cases turn with
  | begins main program =>
    cases taken
    exact .begins main (allowed main program rfl)
  | acts position =>
    simp only [take?, Option.bind_eq_bind, Option.bind_eq_some_iff, Option.pure_def,
      Option.some.injEq] at taken
    obtain ⟨one, there, action, first, outcome, step, rfl⟩ := taken
    obtain ⟨rest, todo⟩ := List.head?_eq_some_iff.mp first
    obtain ⟨inside, rfl⟩ := List.getElem?_eq_some_iff.mp there
    obtain ⟨⟨state, waiting⟩, deeds, begun⟩ := history
    have acts := @Moves.acts lawful may _ still {} state (waiting.take position)
      (waiting.drop (position + 1)) waiting[position] action rest outcome deeds begun todo step
    rw [List.getElem_cons_drop, List.take_append_drop] at acts
    rw [todo, List.tail_cons, List.set_eq_take_append_cons_drop, if_pos inside]
    exact acts

theorem moves_of_play (still : lawful World.still) {turns : List Turn}
    (allowed : ∀ main program, .begins main program ∈ turns → ∀ threads, may threads program)
    (played : history.play turns = some next) :
    Relation.ReflTransGen (Moves lawful may) history next := by
  induction turns generalizing history with
  | nil =>
    cases played
    exact .refl
  | cons turn turns ih =>
    obtain ⟨middle, taken, rest⟩ := Option.bind_eq_some_iff.mp played
    refine .head (.of_take? still ?_ taken) (ih ?_ rest)
    · rintro main program rfl
      exact allowed main program List.mem_cons_self _
    · exact fun main program there => allowed main program (List.mem_cons_of_mem _ there)

/-- What begins with a turn is let in. -/
def Turn.isLet (lets : Threads → Program → Bool) (threads : Threads) : Turn → Bool
  | .begins _ program => lets threads program
  | .acts _ => true

/-- Turns that are played for as long as what begins is let in. -/
def playIf (lets : Threads → Program → Bool) (history : History) (turns : List Turn) :
    Option History :=
  turns.foldlM
    (fun history turn => if turn.isLet lets history.threads then history.take? turn else none)
    history

theorem moves_of_playIf (still : lawful World.still) {lets : Threads → Program → Bool}
    (sound : ∀ threads program, lets threads program = true → may threads program)
    {turns : List Turn} (played : history.playIf lets turns = some next) :
    Relation.ReflTransGen (Moves lawful may) history next := by
  induction turns generalizing history with
  | nil =>
    cases played
    exact .refl
  | cons turn turns ih =>
    obtain ⟨middle, taken, rest⟩ := Option.bind_eq_some_iff.mp played
    obtain ⟨admitted, taken⟩ := Option.ite_none_right_eq_some.mp taken
    refine .head (.of_take? still ?_ taken) (ih rest)
    rintro main program rfl
    exact sound _ _ admitted

end History

end Playback
