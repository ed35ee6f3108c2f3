import Playback.Pattern.Atom
import Playback.Pattern.Depth

set_option autoImplicit false

namespace Playback.Pattern

/-- A class whose closing bracket has not come. -/
structure Bracket where
  /-- The depth of what stands in front of the last operator. -/
  operand : Option Nat := none
  /-- The depths of the items behind it, the last one first. -/
  items : List Nat := []
  /-- Nothing but dashes has come. -/
  leading : Bool := true
  deriving DecidableEq, Repr

namespace Bracket

def add (bracket : Bracket) (depth : Nat) : Bracket :=
  { bracket with items := depth :: bracket.items, leading := false }

def addLeading (bracket : Bracket) (char : Char) : Bracket :=
  { bracket with items := 0 :: bracket.items, leading := char = '-' }

/-- The depth of all that has come. An operator is one whole with both of its sides. -/
def inner (bracket : Bracket) : Nat :=
  match bracket.operand with
  | none => depthOf bracket.items
  | some operand => 1 + max operand (depthOf bracket.items)

/-- With the bracket that ends it. -/
def depth (bracket : Bracket) : Nat := 1 + bracket.inner

/-- What has come is one side of an operator. -/
def operated (bracket : Bracket) : Bracket :=
  { operand := some bracket.inner, items := [], leading := false }

/-- Dashes that a class begins with stand for themselves, and so does a closing bracket that it
begins with. -/
def takesLeading (bracket : Bracket) (char : Char) : Bool :=
  bracket.leading && (char = '-' || char = ']' && bracket.items.isEmpty)

end Bracket

def classNames : List String :=
  ["alnum", "alpha", "ascii", "blank", "cntrl", "digit", "graph", "lower", "print", "punct",
    "space", "upper", "word", "xdigit"]

/-- A class by its name between colons, behind the bracket in front of them: whether a hat
negates it, and what stands behind it. -/
def namedClass? (chars : List Char) : Option (Bool × List Char) :=
  match chars with
  | ':' :: rest =>
    let (negated, rest) := match rest with
      | '^' :: rest => (true, rest)
      | _ => (false, rest)
    let name := rest.takeWhile fun char => char ≠ ':'
    match rest.drop name.length with
    | ':' :: ']' :: behind =>
      if classNames.contains (String.ofList name) then some (negated, behind) else none
    | _ => none
  | _ => none

/-- What stands behind an opening bracket and the hat that negates the class. Bytes have no
negation that matches whole characters. -/
def opened? (mode : Mode) (chars : List Char) : Option (List Char) :=
  match mode.skip chars with
  | '^' :: rest => if mode.unicode then some rest else none
  | rest => some rest

/-- What stands behind a member or a range. A range goes upwards. A dash in front of a bracket
or of another dash is no range. -/
def behindItem? (mode : Mode) (chars : List Char) : Option (List Char) := do
  let (first, rest) ← member? mode chars
  let single := if mode.admitsMember first then some (mode.skip rest) else none
  match mode.skip rest with
  | '-' :: behind =>
    if mode.peek? behind = some ']' || mode.peek? behind = some '-' then single
    else
      let (last, rest) ← member? mode (mode.skip behind)
      let start ← first.char?
      let stop ← last.char?
      if mode.admitsMember first && mode.admitsMember last && start ≤ stop then some rest
      else none
  | _ => single

/-- The depth of a class within others, and what stands behind the outermost of them. -/
def readClass? (mode : Mode) : Nat → Bracket → List Bracket → List Char →
    Option (Nat × List Char)
  | 0, _, _, _ => none
  | fuel + 1, bracket, outer, chars =>
    match mode.skip chars with
    | [] => none
    | char :: rest =>
      if bracket.takesLeading char then
        if mode.admitsMember (.literal char) then
          readClass? mode fuel (bracket.addLeading char) outer rest
        else none
      else if char = ']' then
        match outer with
        | [] => some (bracket.depth, rest)
        | next :: outer => readClass? mode fuel (next.add bracket.depth) outer rest
      else if char = '[' then
        match namedClass? rest with
        | some (negated, rest) =>
          if mode.admitsCases && (mode.unicode || !negated) then
            readClass? mode fuel (bracket.add 0) outer rest
          else none
        | none =>
          (opened? mode rest).bind fun rest => readClass? mode fuel {} (bracket :: outer) rest
      else if (char = '&' || char = '-' || char = '~') && rest.head? = some char then
        readClass? mode fuel bracket.operated outer (rest.drop 1)
      else
        (behindItem? mode (char :: rest)).bind fun rest =>
          readClass? mode fuel (bracket.add 0) outer rest

/-- The class behind an opening bracket. -/
def class? (mode : Mode) (chars : List Char) : Option (Nat × List Char) :=
  (opened? mode chars).bind fun rest => readClass? mode (chars.length + 1) {} [] rest

end Playback.Pattern
