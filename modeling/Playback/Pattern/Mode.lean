import Playback.Text.Unicode

set_option autoImplicit false

namespace Playback.Pattern

/-- How the characters of a pattern are read. Flags between round brackets change it. -/
structure Mode where
  /-- Without regard to their case. -/
  folds : Bool := false
  /-- As characters of any script, where each may match many bytes; else as single bytes. -/
  unicode : Bool := true
  /-- With blanks and comments between them that mean nothing. -/
  spaced : Bool := false
  deriving DecidableEq, Repr

/-- What stands behind blanks and comments. A comment goes on to the end of its line. -/
def behindBlanks (inComment : Bool) : List Char → List Char
  | [] => []
  | char :: rest =>
    if inComment then behindBlanks (char ≠ '\n') rest
    else if Unicode.isBlank char then behindBlanks false rest
    else if char = '#' then behindBlanks true rest
    else char :: rest

namespace Mode

/-- What is read next. -/
def skip (mode : Mode) (chars : List Char) : List Char :=
  if mode.spaced then behindBlanks false chars else chars

/-- What is taken for the next character in front of which a dash means no range. Of a comment
only the beginning is passed over here, and nothing is where only blanks are left. -/
def peek? (mode : Mode) (chars : List Char) : Option Char :=
  let visible (chars : List Char) : List Char := chars.dropWhile Unicode.isBlank
  if !mode.spaced then chars.head?
  else match visible chars with
    | '#' :: comment => (visible comment).head?.or chars.head?
    | inner => inner.head?.or chars.head?

def set (mode : Mode) (flag : Char) (value : Bool) : Mode :=
  if flag = 'i' then { mode with folds := value }
  else if flag = 'u' then { mode with unicode := value }
  else if flag = 'x' then { mode with spaced := value }
  else mode

end Mode

/-- The flags up to a colon or a closing bracket, which is left. None occurs twice, and a dash
turns off those behind it, of which there is one at least. -/
def flags? (mode : Mode) (seen : List Char) : List Char → Option (Mode × List Char)
  | [] => none
  | char :: rest =>
    if char = ':' || char = ')' then
      if seen.head? = some '-' then none else some (mode, char :: rest)
    else if "imsURux-".toList.contains char && !seen.contains char then
      flags? (mode.set char (!seen.contains '-')) (char :: seen) rest
    else none

end Playback.Pattern
