import Playback.Demo.ForkTree
import Playback.Demo.Middleman

set_option autoImplicit false

namespace Playback.Demo

/-- The lines that a demonstration prints. It ends well. -/
def lines? (name : String) : Option (List String) :=
  match name with
  | "fork_tree" => some ForkTree.lines
  | "middleman" => some Middleman.lines
  | _ => none

end Playback.Demo
