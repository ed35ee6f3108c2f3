import Playback.Pattern.Readable
import Playback.Record
import Playback.Text.Number
import Playback.Text.Unicode
import Playback.Text.Utf8

set_option autoImplicit false

namespace Playback

/-- A field that records are asked for. -/
structure LogField where
  name : String
  /-- A number or a pattern of what it holds. -/
  pattern : Option String := none
  deriving DecidableEq, Repr

/-- A selection of records, and how much detail is shown of them. A directive is a level alone, or
how the names of parts begin, a span and a field between brackets, and a level behind an equals
sign, of which each may be missing. -/
structure LogDirective where
  /-- How the names of the parts begin. -/
  target : Option String := none
  /-- The span that surrounds the records. -/
  span : Option String := none
  field : Option LogField := none
  /-- How much detail is shown. -/
  detail : Nat
  deriving DecidableEq, Repr

/-- A field is a name, or a name and a pattern behind an equals sign. What stands behind a
second one does not count. -/
def LogField.ofText? (text : String) : Option LogField :=
  match text.splitOn "=" with
  | name :: pattern :: _ =>
    if Number.isReal pattern || Pattern.isReadable pattern then
      some { name, pattern := some pattern }
    else none
  | _ => some { name := text }

namespace LogDirective

/-- The detail that a directive without a level lets through. -/
def fullDetail : Nat := 5

/-- Levels are numbered, or named in capital or small letters. -/
def detail? (word : String) : Option Nat :=
  match Number.word32? word, word.toLower with
  | some number, _ => if number.toNat ≤ fullDetail then some number.toNat else none
  | none, "off" => some 0
  | none, "error" => some Level.error.detail
  | none, "warn" => some Level.warn.detail
  | none, "info" => some Level.info.detail
  | none, "debug" => some Level.debug.detail
  | none, "trace" => some fullDetail
  | none, _ => none

def startsWord (char : Char) : Bool :=
  char = '-' || char = ':' || char = '_' || Unicode.isAlphanumeric char

/-- The text between the blanks around it. -/
def trimmed (text : List Char) : List Char :=
  ((text.dropWhile Unicode.isBlank).reverse.dropWhile Unicode.isBlank).reverse

def size (chars : List Char) : Nat := (chars.flatMap Utf8.encodeChar).length

/-- A part of a text between two positions, which are counted in bytes. -/
structure Piece where
  start : Nat
  stop : Nat
  deriving DecidableEq, Repr

/-- The text at a piece, unless a bound lies within a character. -/
def Piece.of? (piece : Piece) (text : String) : Option String :=
  Utf8.decode? (((Utf8.encode text).take piece.stop).drop piece.start)

/-- Where the pieces of a directive with brackets or an equals sign lie. -/
structure Outline where
  target : Option Piece := none
  span : Option Piece := none
  field : Option Piece := none
  /-- Where the level begins that goes on to the end. -/
  level : Option Nat := none
  deriving DecidableEq, Repr

/-- What may stand behind a selection is a level. -/
def Outline.withLevel? (outline : Outline) (start : Nat) (rest : List Char) : Option Outline :=
  match rest with
  | [] => some outline
  | '=' :: _ => some { outline with level := some (start + 1) }
  | _ => none

/-- Between brackets are the name of a span and a field in braces; not both may be missing. -/
def Outline.withBrackets? (outline : Outline) (start : Nat) (inner : List Char) :
    Option Outline :=
  let opens (char : Char) : Bool := char = ']' || char = '\x7b'
  let closes (char : Char) : Bool := char = '\x7d'
  let name := inner.takeWhile fun char => !opens char
  let behind := start + size name + 1
  let span : Piece := { start, stop := start + size name }
  match inner.dropWhile fun char => !opens char with
  | ']' :: rest => { outline with span := some span }.withLevel? behind rest
  | '\x7b' :: inner =>
    let field := inner.takeWhile fun char => !closes char
    match inner.dropWhile fun char => !closes char with
    | '\x7d' :: ']' :: rest =>
      if field.isEmpty then none
      else
        { outline with
          span := if name.isEmpty then none else some span
          field := some { start := behind, stop := behind + size field } }.withLevel?
            (behind + size field + 2) rest
    | _ => none
  | _ => none

/-- The outline of a text without blanks around it that is more than one word. -/
def outline? (chars : List Char) : Option Outline :=
  let marks (char : Char) : Bool := char = '=' || char = '['
  let word := chars.takeWhile fun char => !marks char
  let target : Piece := { start := 0, stop := size word }
  match word.isEmpty, chars.dropWhile fun char => !marks char with
  | true, '[' :: inner => ({} : Outline).withBrackets? 1 inner
  | false, '[' :: inner =>
    ({ target := some target } : Outline).withBrackets? (size word + 1) inner
  | false, rest => ({ target := some target } : Outline).withLevel? (size word) rest
  | true, _ => none

/-- A missing level lets everything through. -/
def levelOf? (text : String) (start : Option Nat) : Option Nat :=
  match start with
  | none => some fullDetail
  | some start => do
    let word ← ({ start, stop := (Utf8.encode text).length } : Piece).of? text
    if word.isEmpty then some fullDetail else detail? word

/-- A directive that is no level alone. -/
def ofOutline? (text : String) (outline : Outline) : Option LogDirective := do
  let piece? (piece : Option Piece) : Option (Option String) := piece.mapM fun one => one.of? text
  let target ← piece? outline.target
  let span ← piece? outline.span
  let field ← (← piece? outline.field).mapM LogField.ofText?
  let detail ← levelOf? text outline.level
  some { target, span, field, detail }

/-- Positions are found between the blanks around the text, but counted from its very beginning:
each blank in front moves all pieces by its size. -/
def ofText? (text : String) : Option LogDirective :=
  let chars := trimmed text.toList
  let single := chars.all fun char => char ≠ '=' && char ≠ '['
  if !chars.head?.any fun char => startsWord char || char = '[' then none
  else if single then
    match detail? text with
    | some detail => some { detail }
    | none => some { target := some text, detail := fullDetail }
  else (outline? chars).bind (ofOutline? text)

/-- Records are in no span, and no pattern is held against their fields. -/
def selects (directive : LogDirective) (record : Record) : Bool :=
  directive.span.isNone &&
    directive.target.all (fun target => record.source.path.startsWith target) &&
    directive.field.all fun field =>
      field.pattern.isNone && record.fieldNames.contains field.name

/-- The longer target comes first, then the directive with a field, then the later name. -/
def yieldsTo (one other : LogDirective) : Bool :=
  let length (directive : LogDirective) : Nat :=
    (directive.target.map fun target => size target.toList + 1).getD 0
  let field (directive : LogDirective) : List String :=
    (directive.field.map LogField.name).toList
  length one < length other || length one = length other && !(field other < field one)

end LogDirective

end Playback
