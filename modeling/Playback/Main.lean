import Playback.Demo

set_option autoImplicit false

def main (names : List String) : IO UInt32 := do
  for name in names do
    match Playback.Demo.lines? name with
    | some lines => for line in lines do IO.println line
    | none => IO.eprintln ("no demonstration is called " ++ name)
  return 0
