/-!
Whole numbers in decimal text. A number is written without leading zeros; it is read with an
optional sign and any number of leading zeros, and the readers of bounded width refuse a value
outside their range.
-/

set_option autoImplicit false

namespace SchemaGate.Text

def natDigits (n : Nat) : List Char := Nat.toDigits 10 n

def ofNat (n : Nat) : String := String.ofList (natDigits n)

def ofInt : Int → String
  | .ofNat n => ofNat n
  | .negSucc n => String.ofList ('-' :: natDigits (n + 1))

/-- The value of decimal digits written after the digits of `acc`. -/
def digitsValue : Nat → List Char → Nat
  | acc, [] => acc
  | acc, c :: s => digitsValue (10 * acc + (c.toNat - '0'.toNat)) s

/-- Reads a nonempty run of decimal digits and nothing else. -/
def readNat? (s : List Char) : Option Nat :=
  if s.isEmpty || !s.all Char.isDigit then none else some (digitsValue 0 s)

def readInt? : List Char → Option Int
  | '+' :: s => (readNat? s).map Int.ofNat
  | '-' :: s => (readNat? s).map fun n => -(n : Int)
  | s => (readNat? s).map Int.ofNat

/-- How many numbers a word of 64 bits can hold. -/
def wordSize : Nat := 18446744073709551616

/-- How many of the numbers of a signed word of 64 bits are not negative. -/
def signedLimit : Nat := 9223372036854775808

def isSigned64 (v : Int) : Bool := decide (-(signedLimit : Int) ≤ v) && decide (v < signedLimit)

def readSigned64? (s : List Char) : Option Int := (readInt? s).filter isSigned64

inductive UnsignedFault where
  | empty
  | notDigit
  | tooLarge
  deriving DecidableEq, Repr

/-- Reads an unsigned 64-bit integer, with an optional plus sign. A lone sign has no digit, and the
fault met first from the left is the one reported. -/
def readUnsigned64 (s : List Char) : Except UnsignedFault Nat :=
  let digits := match s with
    | '+' :: r => if r.isEmpty then s else r
    | _ => s
  let value := digitsValue 0 (digits.takeWhile Char.isDigit)
  if digits.isEmpty then .error .empty
  else if wordSize ≤ value then .error .tooLarge
  else if !digits.all Char.isDigit then .error .notDigit
  else .ok value

namespace UnsignedFault

def message : UnsignedFault → String
  | empty => "cannot parse integer from empty string"
  | notDigit => "invalid digit found in string"
  | tooLarge => "number too large to fit in target type"

end UnsignedFault

theorem isSigned64_iff {v : Int} :
    isSigned64 v = true ↔ -9223372036854775808 ≤ v ∧ v < 9223372036854775808 := by
  rw [isSigned64, Bool.and_eq_true, decide_eq_true_eq, decide_eq_true_eq]
  exact Iff.rfl

end SchemaGate.Text
