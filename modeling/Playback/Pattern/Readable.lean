import Playback.Pattern.Class
import Playback.Pattern.Group

set_option autoImplicit false

/- Patterns of texts: characters, classes between square brackets and groups between round ones,
alternatives between bars, and marks behind what may be repeated. This says only which patterns
can be read. Opening braces have no place in them. -/
namespace Playback.Pattern

/-- What stands behind a mark of repetition and the mark that it takes as little as it can. -/
def behindMark : List Char → List Char
  | '?' :: rest => rest
  | rest => rest

/-- Reads on within groups, the innermost first. No two groups have one name. -/
def reads : Nat → Group → List Group → List (List Char) → List Char → Bool
  | 0, _, _, _, _ => false
  | fuel + 1, group, outer, names, chars =>
    match group.mode.skip chars with
    | [] => outer.isEmpty && group.depth ≤ depthLimit
    | char :: rest =>
      if char = '[' then
        match class? group.mode rest with
        | some (depth, rest) => reads fuel (group.add depth) outer names rest
        | none => false
      else if char = '(' then
        match opening? group.mode rest with
        | some (.group name mode, rest) =>
          name.all (fun name => !names.contains name) &&
            reads fuel { mode } (group :: outer) (name.toList ++ names) rest
        | some (.flags mode, rest) => reads fuel (group.turn mode) outer names rest
        | none => false
      else if char = ')' then
        match outer with
        | next :: outer => reads fuel (next.add (1 + group.depth)) outer names rest
        | [] => false
      else if char = '|' then reads fuel group.branch outer names rest
      else if char = '*' || char = '+' || char = '?' then
        match group.repeated? with
        | some group => reads fuel group outer names (behindMark rest)
        | none => false
      else if char = '\x7b' then false
      else
        match atom? group.mode (char :: rest) with
        | some (atom, rest) =>
          group.mode.admits atom && reads fuel (group.add 0) outer names rest
        | none => false

def isReadable (text : String) : Bool := reads (text.length + 1) {} [] [] text.toList

end Playback.Pattern
