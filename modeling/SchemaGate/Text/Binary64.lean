import SchemaGate.Text.Decimal
/-!
Binary floating point of 64 bits, exactly. A finite value is a whole number of units of 2^-1074, the
smallest positive value. A decimal is read as the nearest value, a tie going to the even one, and a
value is written with the fewest digits that read back as it.
-/

set_option autoImplicit false

namespace SchemaGate.Text

inductive Binary64 where
  | finite (negative : Bool) (units : Nat)
  | infinite (negative : Bool)
  | nan
  deriving DecidableEq, Repr

namespace Binary64

/-- How many units make one. -/
def one : Nat := Nat.pow 2 1074

/-- From here on there is no finite value. -/
def limit : Nat := Nat.pow 2 2098

/-- How far a value is from the next one of greater magnitude. -/
def spacing (units : Nat) : Nat := Nat.pow 2 (units.log2 - 52)

/-- The whole number nearest to a quotient, a tie going to the even one. -/
def nearestWhole (num den : Nat) : Nat :=
  let q := num / den
  let twice := 2 * (num % den)
  if twice < den then q
  else if den < twice then q + 1
  else if q % 2 = 0 then q else q + 1

def nearestUnits (num den : Nat) : Nat :=
  let step := spacing (num * one / den)
  nearestWhole (num * one) (den * step) * step

def ofDecimal (negative : Bool) (digits : Nat) (exponent : Int) : Binary64 :=
  let magnitude := exponent + (natDigits digits).length
  if digits = 0 || magnitude < -330 then .finite negative 0
  else if 330 < magnitude then .infinite negative
  else
    let units :=
      if 0 ≤ exponent then nearestUnits (digits * Nat.pow 10 exponent.toNat) 1
      else nearestUnits digits (Nat.pow 10 (-exponent).toNat)
    if units < limit then .finite negative units else .infinite negative

/-- The decimals that read back as a value: between `low` and `high` in quarter units, the ends
included if `closed`. -/
structure Neighbourhood where
  low : Nat
  middle : Nat
  high : Nat
  closed : Bool

/-- The neighbourhood of a positive value. Below a power of two the values lie twice as close. -/
def neighbourhood (units : Nat) : Neighbourhood :=
  let step := spacing units
  let below := if 1 < step && units == Nat.pow 2 52 * step then step else 2 * step
  ⟨4 * units - below, 4 * units, 4 * units + 2 * step, units / step % 2 == 0⟩

namespace Neighbourhood

/-- Whether a decimal, in quarter units over `den`, reads back as the value. -/
def holds (h : Neighbourhood) (scale point : Nat) : Bool :=
  if h.closed then h.low * scale ≤ point && point ≤ h.high * scale
  else h.low * scale < point && point < h.high * scale

/-- The point of the grid of `10 ^ exponent` that reads back as the value and is nearest to it, of
two equally near ones the greater. -/
def onGrid? (h : Neighbourhood) (exponent : Int) : Option Nat :=
  let scale := Nat.pow 10 (-exponent).toNat
  let unit := 4 * one * Nat.pow 10 exponent.toNat
  let c := h.middle * scale / unit
  let lower := h.holds scale (c * unit)
  let upper := h.holds scale ((c + 1) * unit)
  if lower && upper then
    if h.middle * scale - c * unit < (c + 1) * unit - h.middle * scale then some c else some (c + 1)
  else if lower then some c
  else if upper then some (c + 1)
  else none

end Neighbourhood

def leadingExponent (units : Nat) : Int :=
  if one ≤ units then ((natDigits (units / one)).length : Int) - 1
  else
    let n := (natDigits (one / units)).length
    if units * Nat.pow 10 (n - 1) = one then 1 - (n : Int) else -(n : Int)

/-- The coarsest grid of at most `n` digits that has a decimal for the value, tried from one digit
on; the decimal is the number times that power of ten. -/
def shortestFrom (h : Neighbourhood) (lead : Int) : Nat → Nat → Nat × Int
  | 0, used => ((h.onGrid? (lead - used)).getD 0, lead - used)
  | n + 1, used =>
    match h.onGrid? (lead - used) with
    | some c => (c, lead - used)
    | none => shortestFrom h lead n (used + 1)

def shortest (units : Nat) : Nat × Int :=
  if units = 0 then (0, 0)
  else shortestFrom (neighbourhood units) (leadingExponent units) 17 0

/-- A decimal without an exponent, with at least one digit on each side of the point. -/
def positional (digits : Nat) (exponent : Int) : List Char :=
  let places := (-exponent).toNat
  let written := natDigits digits ++ List.replicate exponent.toNat '0'
  let padded := List.replicate (places + 1 - written.length) '0' ++ written
  let whole := padded.take (padded.length - places)
  let fraction := ((padded.drop (padded.length - places)).reverse.dropWhile (· == '0')).reverse
  whole ++ '.' :: (if fraction.isEmpty then ['0'] else fraction)

def render : Binary64 → String
  | nan => "NaN"
  | infinite negative => if negative then "-inf" else "inf"
  | finite negative units =>
    let (digits, exponent) := shortest units
    let body := positional digits exponent
    String.ofList (if negative then '-' :: body else body)

end Binary64

end SchemaGate.Text
