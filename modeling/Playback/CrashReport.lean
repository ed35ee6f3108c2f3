import Playback.Message.Frame
import Playback.Region

set_option autoImplicit false

namespace Playback

/-- A signal and the address that raised it. -/
structure Fault where
  signal : Int32
  address : UInt64
  deriving DecidableEq, Repr

def Fault.text (fault : Fault) : String :=
  "Fault 0x" ++ Quoted.hexadecimal fault.address.toNat ++ " (signal " ++
    toString fault.signal.toInt ++ ")"

/-- The size of the region for the report. -/
def reportMemory : Nat := 16384

/-- The most bytes of the region that a report carries. -/
def reportLimit : Nat := 2048

/-- What a process says about itself when it crashes. Notes are kept as one text in a region that is
set up in advance, so that a report can be made without allocating. Taking the frame of the report
empties the region. -/
structure CrashReport where
  memory : Region := { size := reportMemory }
  notes : List String := []
  deriving DecidableEq, Repr

namespace CrashReport

def joined (notes : List String) : String := " > ".intercalate notes

/-- Writes a text over what the region holds. -/
def record (report : CrashReport) (text : String) : CrashReport :=
  { report with memory := report.memory.write (Utf8.encode text) }

def withNotes (report : CrashReport) (notes : List String) : CrashReport :=
  { report with notes }.record (joined notes)

def pushNote (report : CrashReport) (note : String) : CrashReport :=
  report.withNotes (report.notes ++ [note])

def popNote (report : CrashReport) : Option String × CrashReport :=
  (report.notes.getLast?, report.withNotes report.notes.dropLast)

/-- Replaces the last note, or adds the first. -/
def setNote (report : CrashReport) (note : String) : CrashReport :=
  report.withNotes (report.notes.dropLast ++ [note])

def recorded (report : CrashReport) : String := Utf8.decodeLossy report.memory.read

/-- The text of the report: whole characters of the recorded text, or else the fault. -/
def body (report : CrashReport) (fault : Fault) : Bytes :=
  let text := Utf8.wellFormedPart (report.memory.readUpTo reportLimit)
  if text.isEmpty then Utf8.encode fault.text else text

/-- The frame that reports a fault, built without the encoder of messages. -/
def takeFrame (report : CrashReport) (fault : Fault) (fork : UInt32) : Bytes × CrashReport :=
  let text := report.body fault ++ [0]
  let header : Header :=
    { size := UInt32.ofNat (headerSize + text.length), flags := 0,
      kind := Kind.fatalError.number, fork }
  (header.encode ++ text, { report with memory := report.memory.clear })

end CrashReport

end Playback
