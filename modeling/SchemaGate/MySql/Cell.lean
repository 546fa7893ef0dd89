import SchemaGate.Row
import SchemaGate.Text.Utf8
/-!
Cells of a server's answer. A cell is bytes; what it reads as depends on the type and the flags of
its column. Four readings are tried in order: signed integer, unsigned integer, text, bytes. A cell
that fits none of them reads as `NULL`.
-/

set_option autoImplicit false

namespace SchemaGate.MySql

inductive ColumnType where
  | decimal | tiny | short | long | float | double | null | timestamp | longLong | int24 | date
  | time | datetime | year | varchar | bit | json | newDecimal | enumeration | set | tinyBlob
  | mediumBlob | longBlob | blob | varString | string | geometry
  deriving DecidableEq, Repr

namespace ColumnType

def ofCode? : Nat → Option ColumnType
  | 0 => some decimal
  | 1 => some tiny
  | 2 => some short
  | 3 => some long
  | 4 => some float
  | 5 => some double
  | 6 => some null
  | 7 => some timestamp
  | 8 => some longLong
  | 9 => some int24
  | 10 => some date
  | 11 => some time
  | 12 => some datetime
  | 13 => some year
  | 15 => some varchar
  | 16 => some bit
  | 245 => some json
  | 246 => some newDecimal
  | 247 => some enumeration
  | 248 => some set
  | 249 => some tinyBlob
  | 250 => some mediumBlob
  | 251 => some longBlob
  | 252 => some blob
  | 253 => some varString
  | 254 => some string
  | 255 => some geometry
  | _ => none

/-- Whether columns of the type hold integers with or without a sign. -/
def isInteger : ColumnType → Bool
  | tiny | short | long | longLong | int24 => true
  | _ => false

/-- Whether columns of the type hold text or bytes. -/
def isText : ColumnType → Bool
  | varchar | enumeration | tinyBlob | mediumBlob | longBlob | blob | varString | string => true
  | _ => false

end ColumnType

structure Column where
  name : String
  type : ColumnType
  unsigned : Bool
  binary : Bool
  deriving DecidableEq, Repr

namespace Column

def readsSigned (c : Column) : Bool := c.type = .null || (c.type.isInteger && !c.unsigned)

def readsUnsigned (c : Column) : Bool :=
  c.type = .null || ((c.type.isInteger || c.type = .year || c.type = .bit) && c.unsigned)

def readsText (c : Column) : Bool := c.type = .null || (c.type.isText && !c.binary)

def readsBytes (c : Column) : Bool := c.type = .null || c.type.isText

end Column

/-- The value of bytes in big-endian order, in a word of 64 bits. -/
def bigEndian (bytes : Text.Bytes) : Nat :=
  bytes.foldl (fun v b => (256 * v + b.toNat) % Text.wordSize) 0

/-- An unsigned integer; one that exceeds the signed range is given as text. -/
def ofUnsigned (n : Nat) : Value := if n < Text.signedLimit then .int n else .text (Text.ofNat n)

/-- The first reading of a cell. -/
def asSigned? (c : Column) (bytes : Text.Bytes) : Option Value :=
  if c.readsSigned then ((Text.Utf8.decode? bytes).bind Text.readSigned64?).map Value.int else none

def asUnsigned? (c : Column) (bytes : Text.Bytes) : Option Value :=
  if !c.readsUnsigned then none
  else if c.type = .bit then some (ofUnsigned (bigEndian bytes))
  else
    ((Text.Utf8.decode? bytes).bind fun s => (Text.readUnsigned64 s).toOption).map ofUnsigned

def asText? (c : Column) (bytes : Text.Bytes) : Option Value :=
  if c.readsText then (Text.ofUtf8? bytes).map Value.text else none

def asBytes? (c : Column) (bytes : Text.Bytes) : Option Value :=
  if c.readsBytes then some (.text (Text.ofUtf8Lossy bytes)) else none

def readCell (c : Column) : Option Text.Bytes → Value
  | none => .null
  | some bytes =>
    ((((asSigned? c bytes).or (asUnsigned? c bytes)).or (asText? c bytes)).or
      (asBytes? c bytes)).getD .null

def readRow (columns : List Column) (cells : List (Option Text.Bytes)) : Row :=
  ⟨(columns.zip cells).map fun p => (p.1.name, readCell p.1 p.2)⟩

end SchemaGate.MySql
