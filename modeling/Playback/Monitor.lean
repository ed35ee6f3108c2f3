import Playback.Crew

set_option autoImplicit false

namespace Playback

/-- A value that threads wait on. A thread that waits sleeps until a notification reaches it;
notifying one thread reaches the one that has slept longest. Changing the value wakes nobody. -/
structure Monitor where
  value : Int64 := 0
  /-- Sleepers that no notification has reached, longest asleep first. -/
  asleep : List Nat := []
  woken : List Nat := []
  /-- The number of threads that have ever gone to sleep. -/
  slept : Nat := 0
  deriving DecidableEq, Repr

inductive Notify where
  | nobody
  | one
  | all
  deriving DecidableEq, Repr

/-- How long a thread is willing to wait. -/
inductive Deadline where
  | past
  | far
  deriving DecidableEq, Repr

/-- What a thread waits for: any notification, or a value at or above a bound. The second kind
of wait may end at a deadline, and each of its looks at the value first adds a step to it. -/
inductive Wish where
  | any
  | atLeast (bound : Int64)
  | stepping (bound step : Int64) (deadline : Deadline)
  deriving DecidableEq, Repr

namespace Monitor

def notify (monitor : Monitor) : Notify → Monitor
  | .nobody => monitor
  | .one =>
    { monitor with asleep := monitor.asleep.drop 1
                   woken := monitor.woken ++ monitor.asleep.take 1 }
  | .all => { monitor with asleep := [], woken := monitor.woken ++ monitor.asleep }

def sleep (monitor : Monitor) : Nat × Monitor :=
  (monitor.slept,
    { monitor with asleep := monitor.asleep ++ [monitor.slept], slept := monitor.slept + 1 })

inductive Call where
  | set (value : Int64) (notify : Notify)
  /-- Look at the value, and sleep if it is not as wished. -/
  | look (wish : Wish)
  | asleep (ticket : Nat) (wish : Wish)
  deriving DecidableEq, Repr

inductive Answer where
  | set
  | value (value : Int64)
  | reached (reached : Bool) (value : Int64)
  deriving DecidableEq, Repr

def add (monitor : Monitor) (step : Int64) : Monitor :=
  { monitor with value := monitor.value + step }

def Call.move (call : Call) (monitor : Monitor) : Option (Move Monitor Call Answer) :=
  let rest (monitor : Monitor) (wish : Wish) : Option (Move Monitor Call Answer) :=
    let (ticket, resting) := monitor.sleep
    some { state := resting, next := .inl (.asleep ticket wish) }
  match call with
  | .set value notify =>
    some { state := { monitor with value }.notify notify, next := .inr .set }
  | .look .any => rest monitor .any
  | .look (.atLeast bound) =>
    if monitor.value < bound then rest monitor (.atLeast bound)
    else some { state := monitor, next := .inr (.value monitor.value) }
  | .look (.stepping bound step deadline) =>
    let seen := monitor.add step
    if seen.value < bound then
      match deadline with
      | .far => rest seen (.stepping bound step deadline)
      | .past =>
        let last := seen.add step
        some { state := last, next := .inr (.reached (!decide (last.value < bound)) last.value) }
    else some { state := seen, next := .inr (.reached true seen.value) }
  | .asleep ticket wish =>
    if monitor.woken.contains ticket then
      let awake := { monitor with woken := monitor.woken.erase ticket }
      match wish with
      | .any => some { state := awake, next := .inr (.value awake.value) }
      | wish => some { state := awake, next := .inl (.look wish) }
    else none

end Monitor

end Playback
