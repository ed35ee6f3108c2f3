import Playback.Pattern.Depth
import Playback.Pattern.Mode

set_option autoImplicit false

namespace Playback.Pattern

/-- A group, or the whole pattern, as far as it has been read. -/
structure Group where
  /-- How its next part is read. -/
  mode : Mode := {}
  /-- The depths of the alternatives that have ended. -/
  ended : List Nat := []
  /-- The depths of the parts of the last alternative, the last one first. -/
  parts : List Nat := []
  /-- The last part may be repeated. -/
  repeatable : Bool := false
  deriving DecidableEq, Repr

namespace Group

def add (group : Group) (depth : Nat) : Group :=
  { group with parts := depth :: group.parts, repeatable := true }

/-- Flags change how the rest of the group is read, and are a part of it. -/
def turn (group : Group) (mode : Mode) : Group :=
  { group with mode, parts := 0 :: group.parts, repeatable := false }

def branch (group : Group) : Group :=
  { group with ended := depthOf group.parts :: group.ended, parts := [], repeatable := false }

/-- A repetition is one whole around the part that it repeats. -/
def repeated? (group : Group) : Option Group :=
  match group.repeatable, group.parts with
  | true, depth :: parts => some { group with parts := (1 + depth) :: parts }
  | _, _ => none

def depth (group : Group) : Nat := depthOf (depthOf group.parts :: group.ended)

end Group

/-- What an opening bracket begins. -/
inductive Opening where
  | group (name : Option (List Char)) (mode : Mode)
  /-- A group of flags alone, which is no group: it says how to read on. -/
  | flags (mode : Mode)
  deriving DecidableEq, Repr

/-- The name of a group in front of an angle bracket, and what stands behind that. -/
def groupName? (chars : List Char) : Option (List Char × List Char) :=
  let name := chars.takeWhile fun char => char ≠ '>'
  let begins (char : Char) : Bool := char = '_' || Unicode.isAlphabetic char
  let goesOn (char : Char) : Bool :=
    "_.[]".toList.contains char || Unicode.isAlphanumeric char
  match name, chars.drop name.length with
  | first :: others, '>' :: rest =>
    if begins first && others.all goesOn then some (name, rest) else none
  | _, _ => none

/-- What stands behind an opening bracket and all that belongs to it. -/
def opening? (mode : Mode) (chars : List Char) : Option (Opening × List Char) :=
  let named (rest : List Char) : Option (Opening × List Char) :=
    (groupName? rest).map fun (name, rest) => (.group (some name) mode, rest)
  match mode.skip chars with
  | '?' :: 'P' :: '<' :: rest | '?' :: '<' :: rest => named rest
  | '?' :: ')' :: _ => none
  | '?' :: rest =>
    match flags? mode [] rest with
    | some (mode, ':' :: rest) => some (.group none mode, rest)
    | some (mode, _ :: rest) => some (.flags mode, rest)
    | _ => none
  | rest => some (.group none mode, rest)

end Playback.Pattern
