import Playback.Crew

set_option autoImplicit false

namespace Playback

/-- Tasks for the main thread, run in the order in which they were queued. A task may queue
others, which then stand behind all that wait already. -/
structure TaskQueue (Task : Type) where
  tasks : List Task := []
  deriving DecidableEq, Repr

namespace TaskQueue

variable {Task : Type}

def push (queue : TaskQueue Task) (task : Task) : TaskQueue Task where
  tasks := queue.tasks ++ [task]

/-- The task that is first in line, and the queue without it. -/
def next? (queue : TaskQueue Task) : Option (Task × TaskQueue Task) :=
  match queue.tasks with
  | [] => none
  | task :: tasks => some (task, { tasks })

def length (queue : TaskQueue Task) : Nat := queue.tasks.length

def isEmpty (queue : TaskQueue Task) : Bool := queue.tasks.isEmpty

end TaskQueue

/-- A task that notes its label and then queues further tasks. -/
inductive Errand where
  | errand (label : String) (spawns : List Errand)
  deriving Inhabited

namespace Errand

def label : Errand → String
  | errand label _ => label

def spawns : Errand → List Errand
  | errand _ spawns => spawns

end Errand

namespace TaskQueue

/-- A queue of errands and the errands that have begun, first one first. -/
structure Desk where
  queue : TaskQueue Errand := {}
  begun : List Errand := []

/-- The labels that were noted. -/
def Desk.ran (desk : Desk) : List String := desk.begun.map Errand.label

inductive Call where
  | push (errand : Errand)
  | runOne
  | runPending
  /-- Runs errands until none is queued, so many up to now. -/
  | draining (ran : Nat)
  /-- Is in the middle of an errand, which has some others still to queue. Behind it comes the end of
  the call, or the next errand of one that will then have run so many. -/
  | inside (errand : Errand) (left : List Errand) (ran : Option Nat)
  | isEmpty

inductive Answer where
  | queued
  | ran
  | count (count : Nat)
  | truth (value : Bool)

/-- The first errand in line is taken and begins. -/
def Desk.begin? (desk : Desk) (ran : Option Nat) : Option (Move Desk Call Answer) :=
  desk.queue.next?.map fun (errand, queue) =>
    { state := { queue, begun := desk.begun ++ [errand] },
      next := .inl (.inside errand errand.spawns ran) }

/-- The next errand of a call that has run so many, or its end. -/
def Desk.drain (desk : Desk) (ran : Nat) : Move Desk Call Answer :=
  (desk.begin? (some (ran + 1))).getD { state := desk, next := .inr (.count ran) }

def Call.move (call : Call) (desk : Desk) : Option (Move Desk Call Answer) :=
  match call with
  | .push errand =>
    some { state := { desk with queue := desk.queue.push errand }, next := .inr .queued }
  | .runOne => desk.begin? none
  | .runPending => some (desk.drain 0)
  | .draining ran => some (desk.drain ran)
  | .inside errand (first :: left) ran =>
    some { state := { desk with queue := desk.queue.push first },
           next := .inl (.inside errand left ran) }
  | .inside _ [] none => some { state := desk, next := .inr .ran }
  | .inside _ [] (some ran) => some { state := desk, next := .inl (.draining ran) }
  | .isEmpty => some { state := desk, next := .inr (.truth desk.queue.isEmpty) }

end TaskQueue

end Playback
