import Playback.Machine.Operate

set_option autoImplicit false

namespace Playback

namespace Machine

/-- The thread is still there: its process has not ended. -/
def lives (machine : Machine) (thread : Thread) : Bool :=
  ((machine.processes[machine.processOf thread.member]?).map Process.exit) = some none &&
    machine.killed.isNone

/-- One action of a thread that is not among the threads at rest. -/
def move? (machine : Machine) (thread : Thread) : Option (Machine × Thread) :=
  match thread.todo with
  | [] => none
  | .outside operation :: rest => machine.operate { thread with todo := rest } operation
  | action :: rest => do
    let context ← machine.context? thread.member
    let outcome ← context.step thread.main thread.value machine.network.disk action
    some (machine.apply thread.member outcome,
      { thread with
        todo := outcome.next ++ rest
        value := outcome.value.getD thread.value
        records := thread.records ++ outcome.records })

/-- Puts a thread at rest, or tells what it has come to in the end. -/
def settleThread (machine : Machine) (thread : Thread) : Machine × List (Answered Reply) :=
  if !machine.lives thread then (machine, [])
  else if thread.todo.isEmpty then
    (machine, match thread.ticket with
      | some ticket => [{ ticket, answer := thread.value, records := thread.records }]
      | none => [])
  else ({ machine with threads := machine.threads ++ [thread] }, [])

/-- Some thread takes one action. -/
inductive Step : Machine → Machine → Prop where
  | move {machine taken : Machine} {before after : List Thread} {thread moved : Thread}
      (there : machine.threads = before ++ thread :: after)
      (takes : ({ machine with threads := before ++ after } : Machine).move? thread =
        some (taken, moved)) :
      Step machine (taken.settleThread moved).1

/-- Actions of one thread until it waits or is done. -/
def advance : Nat → Machine → Thread → Machine × Thread
  | 0, machine, thread => (machine, thread)
  | fuel + 1, machine, thread =>
    if machine.lives thread then
      match machine.move? thread with
      | none => (machine, thread)
      | some (machine, thread) => advance fuel machine thread
    else (machine, thread)

/-- The first thread at rest that can go on takes one action. -/
def resume? (machine : Machine) (before : List Thread) : List Thread → Option (Machine × Thread)
  | [] => none
  | thread :: after =>
    let others := { machine with threads := before.reverse ++ after }
    match others.move? thread with
    | some moved => some moved
    | none => machine.resume? (thread :: before) after

/-- A bound on actions that no run comes near to. -/
def patience : Nat := 1000000

/-- Lets every thread go on that can, until all are at rest. -/
def settle : Nat → Machine → List (Answered Reply) → Machine × List (Answered Reply)
  | 0, machine, answered => (machine, answered)
  | fuel + 1, machine, answered =>
    if machine.killed.isSome then (machine, answered)
    else
      match machine.resume? [] machine.threads with
      | none => (machine, answered)
      | some (machine, thread) =>
        let (machine, thread) := advance patience machine thread
        let (machine, done) := machine.settleThread thread
        settle fuel machine (answered ++ done)

/-- Starts a thread, which moves first, and waits until all threads are at rest. -/
def submit (machine : Machine) (thread : Thread) : Machine × List (Answered Reply) :=
  let (machine, thread) := advance patience machine thread
  let (machine, done) := machine.settleThread thread
  settle patience machine done

/-- A child that has just begun, in the first process. -/
structure Seat where
  config : Config
  host : Host := {}
  /-- The kind of its channel, if it has one from the start. -/
  channel : Option ChannelKind := some .recordReplay

def seat (machine : Machine) (one : Seat) : Machine :=
  let piped := Context.wantsPipe one.config
  let context : Context :=
    { config := one.config, host := one.host
      pipe := if piped then some machine.pipes.length else none }
  let number := machine.members.length
  let seated : Machine :=
    { machine with
      members := machine.members ++ [{ number, context }]
      pipes := if piped then machine.pipes ++ [[]] else machine.pipes }
  match one.channel with
  | some kind => seated.attach number kind
  | none => seated

/-- A machine with its children, before the first step. -/
def ofSeats (network : Network) (seats : List Seat) : Machine :=
  seats.foldl seat { network }

/-- What is to be seen of the children of the first process and of the peers, and the machine
after the look. -/
def look (machine : Machine) :
    List (Context × Option Channel) × List (String × Bytes) × Machine :=
  let here := (machine.members.zipIdx.filter fun (one, _) => one.process = 0).map
    fun (one, index) => (one.context, machine.channelOf? index)
  let (heard, network) := machine.network.listenIn
  let read := machine.members.map fun one =>
    { one with context := { one.context with host := { one.context.host with events := [] } } }
  (here, heard, { machine with network, members := read })

end Machine

end Playback
