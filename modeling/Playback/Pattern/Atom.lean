import Playback.Pattern.Mode

set_option autoImplicit false

namespace Playback.Pattern

/-- What a pattern is made of: characters, families of characters, and places between them. -/
inductive Atom where
  | literal (char : Char)
  /-- A character by two digits, which number a byte where characters are bytes. -/
  | byte (char : Char)
  /-- Whatever is no end of a line. -/
  | any
  /-- The digits, blanks or characters of words; or whatever is none of them. -/
  | family (negated : Bool)
  /-- An end of the text or of a line. -/
  | bound
  /-- An end of a word, or what is none. -/
  | wordBound
  deriving DecidableEq, Repr

/-- The character that an atom stands for on its own. -/
def Atom.char? : Atom → Option Char
  | .literal char | .byte char => some char
  | _ => none

namespace Mode

/-- Cases of characters beyond ASCII are not known. -/
def admitsCases (mode : Mode) : Bool := !(mode.folds && mode.unicode)

/-- Outside of classes a character beyond ASCII stands for all of its bytes, unless it is
numbered as one. -/
def admits (mode : Mode) : Atom → Bool
  | .literal _ => mode.admitsCases
  | .byte char => mode.admitsCases && (mode.unicode || char.toNat < 0x80)
  | .any => mode.unicode
  | .family negated => !mode.unicode && !negated
  | .bound => true
  | .wordBound => !mode.unicode

/-- Within a class a character beyond ASCII would stand for one of its bytes. -/
def admitsMember (mode : Mode) : Atom → Bool
  | .literal char | .byte char => if mode.unicode then !mode.folds else char.toNat < 0x80
  | .family negated => !mode.unicode && !negated
  | .any | .bound | .wordBound => false

end Mode

def hexDigit? (char : Char) : Option Nat :=
  if char.isDigit then some (char.toNat - '0'.toNat)
  else if 'a' ≤ char.toLower && char.toLower ≤ 'f' then
    some (char.toLower.toNat - 'a'.toNat + 10)
  else none

/-- A character by so many more digits of its number. -/
def numbered? (mode : Mode) : Nat → Nat → List Char → Option (Char × List Char)
  | 0, code, chars =>
    if code < 0xD800 || 0xDFFF < code && code < 0x110000 then
      some (Char.ofNat code, mode.skip chars)
    else none
  | count + 1, code, chars =>
    match mode.skip chars with
    | [] => none
    | char :: rest =>
      (hexDigit? char).bind fun digit => numbered? mode count (16 * code + digit) rest

/-- What a backslash makes of the characters behind it. Letters and digits have meanings of
their own there, and most have none; what else is ASCII stands for itself. -/
def escaped? (mode : Mode) : List Char → Option (Atom × List Char)
  | [] => none
  | char :: rest =>
    match char with
    | 'a' => some (.literal '\x07', rest)
    | 'f' => some (.literal '\x0c', rest)
    | 't' => some (.literal '\t', rest)
    | 'n' => some (.literal '\n', rest)
    | 'r' => some (.literal '\r', rest)
    | 'v' => some (.literal '\x0b', rest)
    | 'x' => (numbered? mode 2 0 rest).map fun (char, rest) => (.byte char, rest)
    | 'u' => (numbered? mode 4 0 rest).map fun (char, rest) => (.literal char, rest)
    | 'U' => (numbered? mode 8 0 rest).map fun (char, rest) => (.literal char, rest)
    | 'd' | 's' | 'w' => some (.family false, rest)
    | 'D' | 'S' | 'W' => some (.family true, rest)
    | 'A' | 'z' => some (.bound, rest)
    | 'b' | 'B' | '<' | '>' => some (.wordBound, rest)
    | _ =>
      if char.toNat < 0x80 && !char.isAlphanum then some (.literal char, rest) else none

/-- An atom outside of classes, where three characters have meanings of their own. -/
def atom? (mode : Mode) : List Char → Option (Atom × List Char)
  | [] => none
  | char :: rest =>
    match char with
    | '\\' => escaped? mode rest
    | '.' => some (.any, rest)
    | '^' | '$' => some (.bound, rest)
    | _ => some (.literal char, rest)

/-- An atom within a class. -/
def member? (mode : Mode) : List Char → Option (Atom × List Char)
  | [] => none
  | '\\' :: rest => escaped? mode rest
  | char :: rest => some (.literal char, rest)

end Playback.Pattern
