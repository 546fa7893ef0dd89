import SchemaGate.Schema.Identifier
import SchemaGate.Schema.SqlType
/-!
Columns. A typed column states its type, whether it may be null, and its default; a verbatim column
states only its name and a fragment of SQL.
-/

set_option autoImplicit false

namespace SchemaGate.Schema

/-- The default of a column. No default at all and the default `NULL` are different things. -/
inductive Default where
  | unset
  | null
  /-- An SQL literal, written as it stands. -/
  | literal (text : String)
  deriving DecidableEq, Repr

namespace Default

def clause? : Default → Option String
  | unset => none
  | null => some "DEFAULT NULL"
  | literal text => some ("DEFAULT " ++ text)

end Default

/-- What stands after the name of a column. -/
inductive ColumnBody where
  | typed (type : SqlType) (length : Option Nat)
  /-- The whole body as SQL; null-ness and default are not stated beside it. -/
  | verbatim (fragment : String)
  deriving DecidableEq, Repr

structure Column where
  name : String
  body : ColumnBody
  default : Default
  nullable : Bool
  deriving DecidableEq, Repr

namespace Column

/-- A column with the given body; it has no default and may not be null. -/
def ofBody (name : String) (body : ColumnBody) : Column := ⟨name, body, .unset, false⟩

def typed (name : String) (type : SqlType) (length : Option Nat) : Column :=
  ofBody name (.typed type length)

/-- A column of text of one fixed length. -/
def fixedText (name : String) (length : Nat) : Column := typed name .char (some length)

/-- A column whose body is a fragment of SQL. -/
def verbatim (name fragment : String) : Column := ofBody name (.verbatim fragment)

def withDefault (c : Column) (d : Default) : Column := { c with default := d }

def withNullable (c : Column) (nullable : Bool) : Column := { c with nullable := nullable }

def nullability (c : Column) : String := if c.nullable then "NULL" else "NOT NULL"

def render (c : Column) : String :=
  match c.body with
  | .verbatim fragment => Identifier.quote c.name ++ " " ++ fragment
  | .typed type length =>
    " ".intercalate
      ([Identifier.quote c.name, type.render length, c.nullability] ++ c.default.clause?.toList)

end Column

end SchemaGate.Schema
