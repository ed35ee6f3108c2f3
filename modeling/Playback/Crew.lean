import Playback.Record

set_option autoImplicit false

/- Calls that several threads make on one shared state. A call is a value that moves in steps;
a step that cannot be taken leaves everything as it is and is tried again once the state has
changed. Calls that wait are tried in the order in which they began to wait. -/
namespace Playback

/-- One step of a call: the state behind it, and what is left of the call or its answer. -/
structure Move (State Call Answer : Type) where
  state : State
  next : Call ⊕ Answer
  records : List Record := []

/-- A call that waits, under the number by which its caller knows it. -/
structure Waiting (Call : Type) where
  ticket : Nat
  call : Call
  records : List Record := []

structure Answered (Answer : Type) where
  ticket : Nat
  answer : Answer
  records : List Record

structure Crew (State Call : Type) where
  state : State
  waiting : List (Waiting Call) := []

namespace Crew

variable {State Call Answer : Type}

/-- Some waiting call takes one step. -/
inductive Step (move : Call → State → Option (Move State Call Answer)) :
    Crew State Call → Crew State Call → Prop where
  | goesOn {state : State} {before after : List (Waiting Call)} {one : Waiting Call}
      {moved : Move State Call Answer} {call : Call}
      (taken : move one.call state = some moved) (next : moved.next = .inl call) :
      Step move { state, waiting := before ++ one :: after }
        { state := moved.state, waiting := before ++ { one with call } :: after }
  | answers {state : State} {before after : List (Waiting Call)} {one : Waiting Call}
      {moved : Move State Call Answer} {answer : Answer}
      (taken : move one.call state = some moved) (next : moved.next = .inr answer) :
      Step move { state, waiting := before ++ one :: after }
        { state := moved.state, waiting := before ++ after }

/-- Steps of one call, until it is answered or cannot move. -/
def advance (move : Call → State → Option (Move State Call Answer)) :
    Nat → State → Waiting Call → State × (Waiting Call ⊕ Answered Answer)
  | 0, state, one => (state, .inl one)
  | fuel + 1, state, one =>
    match move one.call state with
    | none => (state, .inl one)
    | some taken =>
      let records := one.records ++ taken.records
      match taken.next with
      | .inl call => advance move fuel taken.state { one with call, records }
      | .inr answer => (taken.state, .inr { ticket := one.ticket, answer, records })

/-- A bound on the steps that a call takes without a rest, which no call comes near to. -/
def stride : Nat := 1000000

/-- The first waiting call that can move, and the others in their order. -/
def ready? (move : Call → State → Option (Move State Call Answer)) (state : State)
    (before : List (Waiting Call)) :
    List (Waiting Call) → Option (Waiting Call × List (Waiting Call))
  | [] => none
  | one :: after =>
    if (move one.call state).isSome then some (one, before.reverse ++ after)
    else ready? move state (one :: before) after

/-- Lets the first call go on that can, until none can. A call that waits again does so behind
the others. -/
def settle (move : Call → State → Option (Move State Call Answer)) :
    Nat → Crew State Call → List (Answered Answer) → Crew State Call × List (Answered Answer)
  | 0, crew, answered => (crew, answered)
  | fuel + 1, crew, answered =>
    match ready? move crew.state [] crew.waiting with
    | none => (crew, answered)
    | some (one, others) =>
      match advance move stride crew.state one with
      | (state, .inr done) => settle move fuel { state, waiting := others } (answered ++ [done])
      | (state, .inl one) => settle move fuel { state, waiting := others ++ [one] } answered

/-- Rests that suffice for calls of a few steps each. -/
def rests (crew : Crew State Call) : Nat :=
  let count := crew.waiting.length + 1
  4 * count * count

/-- Makes a call and lets every call go on that can. The new call moves first. -/
def submit (move : Call → State → Option (Move State Call Answer)) (ticket : Nat) (call : Call)
    (crew : Crew State Call) : Crew State Call × List (Answered Answer) :=
  match advance move stride crew.state { ticket, call } with
  | (state, .inr done) =>
    let crew := { crew with state }
    settle move crew.rests crew [done]
  | (state, .inl one) =>
    let crew := { state, waiting := crew.waiting ++ [one] }
    settle move crew.rests crew []

end Crew

end Playback
