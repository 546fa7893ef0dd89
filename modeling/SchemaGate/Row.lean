import SchemaGate.Text.Blank
import SchemaGate.Text.Decimal
import SchemaGate.Text.Quoted
/-!
Result rows: named values in column order. Names may repeat; a look-up finds the first.
-/

set_option autoImplicit false

namespace SchemaGate

inductive Value where
  | null
  | int (v : Int)
  | text (s : String)
  deriving DecidableEq, Repr

namespace Value

/-- The integer a value stands for; text counts if it is one between blanks. -/
def toInt? : Value → Option Int
  | int v => some v
  | text s => Text.readSigned64? (Text.trim s.toList)
  | null => none

def toText? : Value → Option String
  | text s => some s
  | _ => none

def isNull : Value → Bool
  | null => true
  | _ => false

/-- A value for people; text is in quotes. -/
def render : Value → String
  | null => "NULL"
  | int v => Text.ofInt v
  | text s => Text.quoted s

end Value

structure Row where
  columns : List (String × Value)
  deriving DecidableEq, Repr

namespace Row

def get? (r : Row) (name : String) : Option Value :=
  (r.columns.find? fun c => c.1 == name).map Prod.snd

def first? (r : Row) : Option Value := r.columns.head?.map Prod.snd

def size (r : Row) : Nat := r.columns.length

def render (r : Row) : String :=
  "\x7b" ++ ", ".intercalate (r.columns.map fun c => c.1 ++ ": " ++ c.2.render) ++ "\x7d"

end Row

end SchemaGate
