import Playback.Message.Frame

set_option autoImplicit false

namespace Playback.LogStamp

def opening : String := "[Recording "

/-- A line of log text behind its running time. Time is not a part of what a child does, so it
always stands at zero. -/
def line (text : String) : String := opening ++ "0.000] " ++ text ++ "\n"

/-- The byte that closes a running time. -/
def closing : UInt8 := 0x5D

def zeroDigit (byte : UInt8) : UInt8 := if 0x30 ≤ byte && byte ≤ 0x39 then 0x30 else byte

/-- A frame with zeros for all digits of the running time that its log text begins with. -/
def zeroTime (frame : Bytes) : Bytes :=
  let front := headerSize + 8 + (Utf8.encode opening).length
  let time := (frame.drop front).takeWhile (· ≠ closing)
  if (Header.read frame).kind = Kind.logText.number &&
      (Utf8.encode opening).isPrefixOf (frame.drop (headerSize + 8)) then
    frame.take front ++ time.map zeroDigit ++ frame.drop (front + time.length)
  else frame

end Playback.LogStamp
