set_option autoImplicit false

/- How deep the parts of a pattern lie within each other. -/
namespace Playback.Pattern

/-- The depth of parts side by side. Two or more of them make one whole around them; one part
is a whole of its own. -/
def depthOf : List Nat → Nat
  | [] => 0
  | [depth] => depth
  | depths => 1 + depths.foldl max 0

/-- Patterns that are deeper cannot be read. -/
def depthLimit : Nat := 250

end Playback.Pattern
