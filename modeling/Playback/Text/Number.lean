set_option autoImplicit false

/- Decimal numbers in launch options and log filters. Words are an optional plus sign and one or
more ASCII digits, leading zeros included, with a value below 2^32. -/
namespace Playback.Number

def isDigit (char : Char) : Bool := '0' ≤ char && char ≤ '9'

def value (digits : List Char) : Nat :=
  digits.foldl (fun total digit => total * 10 + (digit.toNat - '0'.toNat)) 0

def unsigned (chars : List Char) : List Char :=
  match chars with
  | '+' :: digits => digits
  | _ => chars

def word32? (text : String) : Option UInt32 :=
  let digits := unsigned text.toList
  if digits.isEmpty || !digits.all isDigit then none
  else if value digits < UInt32.size then some (UInt32.ofNat (value digits)) else none

/-- Numbers of any size: digits with a fraction and a power of ten if need be, or the name of
what is beyond numbers. -/
def isReal (text : String) : Bool :=
  let chars := match text.toList with
    | '+' :: rest | '-' :: rest => rest
    | chars => chars
  let digits := chars.takeWhile isDigit
  let (fraction, rest) := match chars.dropWhile isDigit with
    | '.' :: rest => (rest.takeWhile isDigit, rest.dropWhile isDigit)
    | rest => ([], rest)
  let scaled : Bool := match rest with
    | [] => true
    | mark :: rest =>
      let power := match rest with
        | '+' :: power | '-' :: power => power
        | power => power
      (mark = 'e' || mark = 'E') && !power.isEmpty && power.all isDigit
  let named := ["inf", "infinity", "nan"].contains (String.ofList (chars.map Char.toLower))
  named || !(digits ++ fraction).isEmpty && scaled

end Playback.Number
