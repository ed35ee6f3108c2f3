import Playback.Context.Program
import Playback.Demo.Script

set_option autoImplicit false

namespace Playback.Demo.ForkTree

def fork : UInt32 := 2

/-- The call with which the fork asks for the time. -/
def clockCall : CallId where
  number := 1
  nonzero := by decide

/-- The fork leaves a mark in the shared keys, asks for the time, and says when it ran. -/
def forkHost : Host where
  style := .scripted
  scripts := [[.setKey "visited" "yes" ::
    Program.externalCall clockCall (Utf8.encode "clock") (Utf8.encode "12:00")]]
  output run :=
    let time := match run.value with
      | .performed output _ => Utf8.decodeLossy output
      | _ => ""
    { data := Utf8.encode ("fork " ++ toString run.fork.toNat ++ " ran " ++
        Quoted.quote (Utf8.decodeLossy run.manifest) ++ " at " ++ time) }

/-- The children of the tree, in the order in which they are made. -/
def rootMember : Nat := 0
def forkMember : Nat := 1

def seats : List Machine.Seat :=
  [{ config := {} },
    { config := { forkId := fork }, host := forkHost, channel := none }]

/-- What the middleman has to say to the root at once. -/
def greetings : List Message :=
  [.introduction 0 [], .recordingData 0 0 (Utf8.encode "shared recording"),
    .manifestStart fork (Utf8.encode "explore")]

def held (machine : Machine) : Nat :=
  ((machine.context? rootMember).map fun root => (root.forks.pendingFor fork).length).getD 0

def visited (machine : Machine) : String :=
  ((machine.context? rootMember).map fun root => root.keys.get "visited").getD ""

def clockCached (machine : Machine) : Bool :=
  (machine.context? rootMember).any fun root => root.calls.contains clockCall

def registered (machine : Machine) : Nat :=
  ((machine.context? rootMember).map fun root => root.forks.count).getD 0

def forkTerminated (machine : Machine) : Bool :=
  (machine.context? forkMember).any fun fork => fork.host.events.contains .terminate

/-- A root relays between a middleman and one of its forks. The middleman sends a manifest for the
fork before the fork has registered; the root holds it, and the fork answers through the root once
it is connected. -/
def lines : List String :=
  let greeted := Script.deliverAll (Machine.ofSeats {} seats) rootMember "c0" greetings
  let joined := Script.run greeted rootMember [.outside (.link forkMember 0)]
  let ran := Script.runMain joined forkMember [.runOne]
  let done := Script.deliverAll ran rootMember "c0" [.terminate fork]
  ["Root: " ++ toString (held greeted) ++ " message(s) held for fork " ++ toString fork.toNat] ++
    ((Script.heard ran "c0").filterMap Script.finishedText?).map ("Middleman: " ++ ·) ++
    ["Root: shared key visited = " ++ Quoted.quote (visited ran),
      "Root: external call " ++ toString clockCall.number.toNat ++ " cached = " ++
        toString (clockCached ran)] ++
    (if forkTerminated done then ["Fork: terminated"] else []) ++
    ["Root: forks still registered = " ++ toString (registered done)]

end Playback.Demo.ForkTree
