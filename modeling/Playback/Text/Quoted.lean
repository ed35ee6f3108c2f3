import Playback.Text.Unicode

set_option autoImplicit false

namespace Playback.Quoted

def hexadecimal (number : Nat) : String := String.ofList (Nat.toDigits 16 number)

def numbered (char : Char) : String := "\\u\x7b" ++ hexadecimal char.toNat ++ "\x7d"

def escape (char : Char) : String :=
  if char = '\x00' then "\\0"
  else if char = '\t' then "\\t"
  else if char = '\r' then "\\r"
  else if char = '\n' then "\\n"
  else if char = '\\' then "\\\\"
  else if char = '\"' then "\\\""
  else if Unicode.extenders.contains char || Unicode.unprintable.contains char then
    numbered char
  else char.toString

/-- A text as it is shown in a diagnostic, between double quotes. Quotes, backslashes and the common
controls are written as a backslash and a letter; what cannot be seen on its own is written as its
number in base sixteen. -/
def quote (text : String) : String :=
  "\"" ++ String.join (text.toList.map escape) ++ "\""

end Playback.Quoted
