import Playback.Crew
import Mathlib.Logic.Relation

set_option autoImplicit false

/- Threads that make calls on one state, in any order, with the steps that their calls have taken.
Which calls may begin and which steps there are is for the use of a course to say: those of the
calls themselves, or also such as their surroundings force on them. -/
namespace Playback

variable {State Call Answer : Type}

/-- A step that a call has taken. -/
structure Crew.Taken (State Call Answer : Type) where
  /-- The state before the step. -/
  state : State
  one : Waiting Call
  moved : Move State Call Answer

structure Course (State Call Answer : Type) where
  crew : Crew State Call
  /-- The steps so far, oldest first. -/
  steps : List (Crew.Taken State Call Answer) := []

/-- What waits in place of a call that has taken a step. -/
def Waiting.behind (one : Waiting Call) : Call ⊕ Answer → List (Waiting Call)
  | .inl call => [{ one with call }]
  | .inr _ => []

namespace Course

variable {may : Crew State Call → Call → Prop} {goes : Call → State → Move State Call Answer → Prop}
  {course next : Course State Call Answer}

/-- A call begins, or takes a step. -/
inductive Moves (may : Crew State Call → Call → Prop)
    (goes : Call → State → Move State Call Answer → Prop) (course : Course State Call Answer) :
    Course State Call Answer → Prop where
  | begins {ticket : Nat} {call : Call} (allowed : may course.crew call) :
      Moves may goes course
        { course with crew.waiting := course.crew.waiting ++ [{ ticket, call }] }
  | goesOn {before after : List (Waiting Call)} {one : Waiting Call}
      {moved : Move State Call Answer} (waiting : course.crew.waiting = before ++ one :: after)
      (taken : goes one.call course.crew.state moved) :
      Moves may goes course
        { crew := { state := moved.state, waiting := before ++ one.behind moved.next ++ after }
          steps := course.steps ++ [{ state := course.crew.state, one, moved }] }

/-- What may become of the threads. -/
abbrev Run (may : Crew State Call → Call → Prop)
    (goes : Call → State → Move State Call Answer → Prop) :
    Course State Call Answer → Course State Call Answer → Prop :=
  Relation.ReflTransGen (Moves may goes)

/-! Courses that can be played -/

/-- A call begins, or the call at a position takes a step. -/
inductive Turn (Call : Type) where
  | begins (ticket : Nat) (call : Call)
  | goesOn (position : Nat)

section
variable (may : Crew State Call → Call → Prop) [∀ crew call, Decidable (may crew call)]
  (move : Call → State → Option (Move State Call Answer))

def take? (course : Course State Call Answer) : Turn Call → Option (Course State Call Answer)
  | .begins ticket call =>
    if may course.crew call then
      some { course with crew.waiting := course.crew.waiting ++ [{ ticket, call }] }
    else none
  | .goesOn position => do
    let one ← course.crew.waiting[position]?
    let moved ← move one.call course.crew.state
    return {
      crew :=
        { state := moved.state
          waiting := course.crew.waiting.take position ++ one.behind moved.next ++
            course.crew.waiting.drop (position + 1) }
      steps := course.steps ++ [{ state := course.crew.state, one, moved }] }

def play? (course : Course State Call Answer) (turns : List (Turn Call)) :
    Option (Course State Call Answer) :=
  turns.foldlM (take? may move) course

variable {may} {move}

theorem run_of_play
    (fits : ∀ call state moved, move call state = some moved → goes call state moved)
    {turns : List (Turn Call)} (played : course.play? may move turns = some next) :
    Run may goes course next := by
  induction turns generalizing course with
  | nil =>
    cases played
    exact .refl
  | cons turn turns ih =>
    obtain ⟨middle, taken, rest⟩ := Option.bind_eq_some_iff.mp played
    refine .head ?_ (ih rest)
    cases turn with
    | begins ticket call =>
      obtain ⟨allowed, same⟩ := Option.ite_none_right_eq_some.mp taken
      cases same
      exact .begins allowed
    | goesOn position =>
      simp only [take?, Option.bind_eq_bind, Option.bind_eq_some_iff, Option.pure_def,
        Option.some.injEq] at taken
      obtain ⟨one, there, moved, step, rfl⟩ := taken
      obtain ⟨inside, rfl⟩ := List.getElem?_eq_some_iff.mp there
      refine .goesOn ?_ (fits _ _ _ step)
      rw [List.getElem_cons_drop, List.take_append_drop]

end

end Course

end Playback
