import SchemaGate.Toml.Value
/-!
Numbers. Underscores may stand between digits. A decimal has no leading zeros; hexadecimal, octal
and binary numbers have a lead and no sign. A number with a fraction or an exponent is a float.
-/

set_option autoImplicit false

namespace SchemaGate.Toml

/-- The digits of a text in which single underscores may stand between digits. -/
def ungroup? (isDigit : Char → Bool) (s : List Char) : Option (List Char) :=
  let groups := s.splitOn '_'
  if groups.all fun g => !g.isEmpty && g.all isDigit then some groups.flatten else none

/-- Cuts a sign off the front of a text; tells whether it was a minus. -/
def splitSign : List Char → Bool × List Char
  | '+' :: s => (false, s)
  | '-' :: s => (true, s)
  | s => (false, s)

/-- The digits of a decimal without leading zeros. -/
def wholeDigits? (s : List Char) : Option (List Char) :=
  (ungroup? Char.isDigit s).filter fun digits => digits.head? != some '0' || s.length == 1

def isHexDigit (c : Char) : Bool := c.isDigit || ('a' ≤ c && c ≤ 'f') || ('A' ≤ c && c ≤ 'F')

def hexDigitValue (c : Char) : Nat :=
  if c.isDigit then c.toNat - '0'.toNat else c.toLower.toNat - 'a'.toNat + 10

def basedInteger? (base : Nat) (isDigit : Char → Bool) (s : List Char) : Option Int :=
  (ungroup? isDigit s).map fun digits => digits.foldl (fun v c => base * v + hexDigitValue c) 0

def decimalInteger? (s : List Char) : Option Int :=
  let (negative, body) := splitSign s
  (wholeDigits? body).map fun digits =>
    let v : Int := Text.digitsValue 0 digits
    if negative then -v else v

def integer? (s : List Char) : Option Int :=
  let read := match s with
    | '0' :: 'x' :: r => basedInteger? 16 isHexDigit r
    | '0' :: 'o' :: r => basedInteger? 8 (fun c => '0' ≤ c && c ≤ '7') r
    | '0' :: 'b' :: r => basedInteger? 2 (fun c => c == '0' || c == '1') r
    | _ => decimalInteger? s
  read.filter Text.isSigned64

def exponent? (s : List Char) : Option Int :=
  let (negative, body) := splitSign s
  (ungroup? Char.isDigit body).map fun digits =>
    let v : Int := Text.digitsValue 0 digits
    if negative then -v else v

/-- The float that whole digits, fraction digits and an exponent give. No value is too small or,
below zero, too great in magnitude; above zero one that exceeds every finite value is refused. -/
def floatOf? (negative : Bool) (whole fraction : List Char) (exponent : Int) :
    Option Text.Binary64 :=
  let digits := Text.digitsValue 0 (whole ++ fraction)
  let v := Text.Binary64.ofDecimal negative digits (exponent - fraction.length)
  if v = .infinite false then none else some v

def digitFloat? (s : List Char) : Option Text.Binary64 := do
  let (negative, body) := splitSign s
  let isMark (c : Char) : Bool := c == 'e' || c == 'E'
  let mantissa := body.takeWhile (!isMark ·)
  let mark := body.dropWhile (!isMark ·)
  let point := mantissa.dropWhile (· != '.')
  if mark.isEmpty && point.isEmpty then none
  let whole ← wholeDigits? (mantissa.takeWhile (· != '.'))
  let fraction ← if point.isEmpty then some [] else ungroup? Char.isDigit (point.drop 1)
  let exponent ← if mark.isEmpty then some 0 else exponent? (mark.drop 1)
  floatOf? negative whole fraction exponent

def float? (s : List Char) : Option Text.Binary64 :=
  let (negative, body) := splitSign s
  if body == ['i', 'n', 'f'] then some (.infinite negative)
  else if body == ['n', 'a', 'n'] then some .nan
  else digitFloat? s

end SchemaGate.Toml
