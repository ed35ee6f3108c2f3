import Playback.Context.Program
import Playback.LogFilter
import Playback.Machine.Run

set_option autoImplicit false

namespace Playback.Demo.Tour

/-- What the parts of a child log on their own. -/
def partRecords : List Record :=
  let late : Chunk := { offset := 1, data := [0] }
  let early : Chunk := { offset := 0, data := [0] }
  let empty : Recording := {}
  let held := Message.ping 2 1
  let forks : ForkTable Nat := {}
  [SharedKeys.setRecord "k"] ++
    SharedKeys.deliverRecords ((({} : SharedKeys).set "k" "v").deliver "x").1 ++
    empty.chunkRecords late ++
    (empty.addChunk late).2.chunkRecords early ++
    ForkTable.routeRecords held (forks.route held).1

/-- An error, and messages that are shown, held and not expected. -/
def childProgram : Program :=
  [.reportCritical "e"] ++ Program.handle (.logText 0 "text\n") ++
    Program.handle (.ping 3 1) ++ Program.handle (.scanData 0 [])

/-- What a replaying root without a channel logs. -/
def childRecords : List Record :=
  let machine := Machine.ofSeats {} [{ config := {}, channel := none }]
  let (_, answered) := machine.submit { member := 0, todo := childProgram, ticket := some 0 }
  answered.flatMap Answered.records

/-- The lines of the tour under the filters that were asked for. -/
def lines (filters : List String) : List String :=
  (LogFilter.ofTexts filters).lines "main" (partRecords ++ childRecords)

end Playback.Demo.Tour
