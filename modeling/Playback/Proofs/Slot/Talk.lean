import Playback.Slot
import Mathlib.Data.List.Induction
import Mathlib.Data.List.Nodup

set_option autoImplicit false

namespace Playback.Slot

variable {Response : Type}

/-- What is seen of the calls on a slot. Each call is made by a thread with a number of its own. -/
inductive Event (Response : Type) where
  | sent (thread : Nat) (request : String)
  | delivered (thread : Nat) (response : Response) (accepted : Bool)
  | returned (thread : Nat) (response : Response)
  deriving DecidableEq, Repr

/-- What is seen of a call that moves. -/
def Call.event? (thread : Nat) (call : Call Response) (next : Call Response ⊕ Answer Response) :
    Option (Event Response) :=
  match call, next with
  | .request name, .inl _ => some (.sent thread name)
  | .receive, .inr (.response response) => some (.returned thread response)
  | .deliver response, .inr (.delivered accepted) => some (.delivered thread response accepted)
  | _, _ => none

structure Talk (Response : Type) where
  crew : Crew (Line Response) (Call Response) := { state := {} }
  /-- How many threads have begun. -/
  begun : Nat := 0
  /-- What was seen, oldest first. -/
  events : List (Event Response) := []

/-- A thread begins a call, or the thread at a position moves, if it can. -/
inductive Turn (Response : Type) where
  | request (name : String)
  | deliver (response : Response)
  | move (position : Nat)
  deriving DecidableEq, Repr

namespace Talk

def start (talk : Talk Response) (call : Call Response) : Talk Response :=
  { talk with
    crew.waiting := talk.crew.waiting ++ [{ ticket := talk.begun, call }]
    begun := talk.begun + 1 }

/-- What is left of a thread that has moved. -/
def left (one : Waiting (Call Response)) : Call Response ⊕ Answer Response →
    List (Waiting (Call Response))
  | .inl call => [{ one with call }]
  | .inr _ => []

def move (talk : Talk Response) (position : Nat) : Talk Response :=
  match talk.crew.waiting[position]? with
  | none => talk
  | some one =>
    match one.call.move talk.crew.state with
    | none => talk
    | some moved =>
      { talk with
        crew :=
          { state := moved.state
            waiting := talk.crew.waiting.take position ++ left one moved.next ++
              talk.crew.waiting.drop (position + 1) }
        events := talk.events ++ (one.call.event? one.ticket moved.next).toList }

def turn (talk : Talk Response) : Turn Response → Talk Response
  | .request name => talk.start (.request name)
  | .deliver response => talk.start (.deliver response)
  | .move position => talk.move position

def play (turns : List (Turn Response)) : Talk Response := turns.foldl turn {}

theorem play_snoc (turns : List (Turn Response)) (last : Turn Response) :
    play (turns ++ [last]) = (play turns).turn last := by
  simp only [play, List.foldl_append, List.foldl_cons, List.foldl_nil]

/-- What the moves of threads do. A request is sent when the slot is free, a response is taken when
it is there, and a delivery never waits. -/
inductive Moves (talk : Talk Response) : Talk Response → Prop where
  | sends {before behind : List (Waiting (Call Response))} {thread : Nat} {name : String}
      {records : List Record}
      (waiting : talk.crew.waiting =
        before ++ { ticket := thread, call := .request name, records } :: behind)
      (free : talk.crew.state.slot.waiting = false) :
      Moves talk
        { crew :=
            { state := { slot := { waiting := true }, sent := talk.crew.state.sent ++ [name] }
              waiting := before ++ { ticket := thread, call := .receive, records } :: behind }
          begun := talk.begun
          events := talk.events ++ [.sent thread name] }
  | receives {before behind : List (Waiting (Call Response))} {thread : Nat}
      {records : List Record} {response : Response}
      (waiting : talk.crew.waiting =
        before ++ { ticket := thread, call := .receive, records } :: behind)
      (there : talk.crew.state.slot.response = some response) :
      Moves talk
        { crew :=
            { state := { talk.crew.state with slot := { waiting := false } }
              waiting := before ++ behind }
          begun := talk.begun
          events := talk.events ++ [.returned thread response] }
  | delivers {before behind : List (Waiting (Call Response))} {thread : Nat}
      {records : List Record} {response : Response}
      (waiting : talk.crew.waiting =
        before ++ { ticket := thread, call := .deliver response, records } :: behind) :
      Moves talk
        { crew :=
            { state := { talk.crew.state with slot := (talk.crew.state.slot.deliver response).2 }
              waiting := before ++ behind }
          begun := talk.begun
          events := talk.events ++
            [.delivered thread response (talk.crew.state.slot.deliver response).1] }

theorem move_of_split {talk : Talk Response} {before behind : List (Waiting (Call Response))}
    {one : Waiting (Call Response)} (waiting : talk.crew.waiting = before ++ one :: behind) :
    talk.move before.length =
      match one.call.move talk.crew.state with
      | none => talk
      | some moved =>
        { talk with
          crew := { state := moved.state, waiting := before ++ left one moved.next ++ behind }
          events := talk.events ++ (one.call.event? one.ticket moved.next).toList } := by
  have here : talk.crew.waiting[before.length]? = some one := by simp [waiting]
  have back : talk.crew.waiting.drop (before.length + 1) = behind := by simp [waiting]
  have front : talk.crew.waiting.take before.length = before := by simp [waiting]
  unfold move
  rw [here]
  dsimp only
  rw [back, front]

theorem moves_of_taken {talk : Talk Response} {before behind : List (Waiting (Call Response))}
    {one : Waiting (Call Response)} {moved : Move (Line Response) (Call Response) (Answer Response)}
    (waiting : talk.crew.waiting = before ++ one :: behind)
    (taken : one.call.move talk.crew.state = some moved) :
    Moves talk
      { talk with
        crew := { state := moved.state, waiting := before ++ left one moved.next ++ behind }
        events := talk.events ++ (one.call.event? one.ticket moved.next).toList } := by
  obtain ⟨thread, call, records⟩ := one
  cases call with
  | request name =>
    simp only [Call.move, claim?, Option.map_eq_some_iff, Option.ite_none_left_eq_some,
      Option.some.injEq] at taken
    obtain ⟨slot, ⟨claimed, rfl⟩, rfl⟩ := taken
    have free : talk.crew.state.slot.waiting = false := by simpa using claimed
    simpa [left, Call.event?] using Moves.sends waiting free
  | receive =>
    simp only [Call.move, take?, Option.map_map, Option.map_eq_some_iff] at taken
    obtain ⟨response, there, rfl⟩ := taken
    simpa [left, Call.event?] using Moves.receives waiting there
  | deliver response =>
    simp only [Call.move, Option.some.injEq] at taken
    subst taken
    simpa [left, Call.event?] using Moves.delivers waiting

/-- A thread moves as its call does, or not at all. -/
theorem move_cases (talk : Talk Response) (position : Nat) :
    talk.move position = talk ∨ Moves talk (talk.move position) := by
  cases there : talk.crew.waiting[position]? with
  | none =>
    apply Or.inl
    rw [move, there]
  | some one =>
    obtain ⟨inside, same⟩ := List.getElem?_eq_some_iff.mp there
    have waiting : talk.crew.waiting = talk.crew.waiting.take position ++
        one :: talk.crew.waiting.drop (position + 1) := by
      rw [← same, ← List.drop_eq_getElem_cons inside, List.take_append_drop]
    have moves := move_of_split waiting
    rw [List.length_take_of_le (Nat.le_of_lt inside)] at moves
    rw [moves]
    cases taken : one.call.move talk.crew.state with
    | none => exact Or.inl rfl
    | some moved => exact Or.inr (moves_of_taken waiting taken)

/-- Every move that is possible is made in some turn. -/
theorem Moves.exists_turn {talk next : Talk Response} (moves : Moves talk next) :
    ∃ position, talk.move position = next := by
  cases moves with
  | sends waiting free =>
    refine ⟨_, (move_of_split waiting).trans ?_⟩
    simp [Call.move, claim?, free, left, Call.event?]
  | receives waiting there =>
    refine ⟨_, (move_of_split waiting).trans ?_⟩
    simp [Call.move, take?, there, left, Call.event?]
  | delivers waiting =>
    refine ⟨_, (move_of_split waiting).trans ?_⟩
    simp [Call.move, left, Call.event?]

theorem Moves.begun {talk next : Talk Response} (moves : Moves talk next) :
    next.begun = talk.begun := by
  cases moves <;> rfl

theorem Moves.length_events {talk next : Talk Response} (moves : Moves talk next) :
    next.events.length = talk.events.length + 1 := by
  cases moves <;> simp

/-- Threads that no turn moves cannot move. -/
theorem not_moves_of_still {talk next : Talk Response}
    (still : ∀ position, talk.move position = talk) : ¬ Moves talk next := by
  intro moves
  obtain ⟨position, same⟩ := moves.exists_turn
  have longer := moves.length_events
  rw [← same, still position] at longer
  omega

/-- A thread that still has to send its request moves once more. -/
def asks (one : Waiting (Call Response)) : Bool :=
  match one.call with
  | .request _ => true
  | .receive | .deliver _ => false

/-- What has been seen and what is still to be seen of the threads that have begun. -/
def effort (talk : Talk Response) : Nat :=
  talk.events.length + talk.crew.waiting.length + talk.crew.waiting.countP asks

theorem Moves.effort {talk next : Talk Response} (moves : Moves talk next) :
    next.effort = talk.effort := by
  cases moves with
  | sends waiting free =>
    simp [Talk.effort, waiting, List.countP_cons, asks]
    omega
  | receives waiting there =>
    simp [Talk.effort, waiting, asks]
    omega
  | delivers waiting =>
    simp [Talk.effort, waiting, asks]
    omega

theorem effort_start (talk : Talk Response) (call : Call Response) :
    (talk.start call).effort ≤ talk.effort + 2 := by
  have few : [({ ticket := talk.begun, call } : Waiting (Call Response))].countP asks ≤ 1 :=
    List.countP_le_length
  simp only [effort, start, List.length_append, List.countP_append, List.length_singleton] at few ⊢
  omega

/-- Threads move twice at most. -/
theorem effort_le (turns : List (Turn Response)) :
    (play turns).effort ≤ 2 * (play turns).begun := by
  induction turns using List.reverseRecOn with
  | nil => exact Nat.le_refl 0
  | append_singleton turns last ih =>
    rw [play_snoc]
    have starts (call : Call Response) :
        ((play turns).start call).effort ≤ 2 * ((play turns).start call).begun := by
      have more := effort_start (play turns) call
      simp only [start] at more ⊢
      omega
    cases last with
    | request name => exact starts (.request name)
    | deliver response => exact starts (.deliver response)
    | move position =>
      rw [turn]
      rcases move_cases (play turns) position with same | moves
      · rw [same]
        exact ih
      · rw [moves.effort, moves.begun]
        exact ih

end Talk

end Playback.Slot
