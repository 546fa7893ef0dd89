import SchemaGate.Text.Blank
import SchemaGate.Text.Decimal
/-!
Column types. Eight keywords name the seven built-in types, in any mixture of ASCII cases; every
other keyword is kept as it is written.
-/

set_option autoImplicit false

namespace SchemaGate.Schema

inductive SqlType where
  | char
  | varchar
  | tinyInt
  | int
  | bigInt
  | text
  | dateTime
  /-- A keyword without a meaning here, written as it stands. -/
  | other (keyword : String)
  deriving DecidableEq, Repr

namespace SqlType

/-- The type a keyword names; blanks around the keyword do not matter. -/
def ofKeyword (keyword : String) : SqlType :=
  let word := Text.trim keyword.toList
  let lower := String.ofList (word.map Char.toLower)
  if lower = "char" then .char
  else if lower = "varchar" then .varchar
  else if lower = "tinyint" then .tinyInt
  else if lower = "int" then .int
  else if lower = "integer" then .int
  else if lower = "bigint" then .bigInt
  else if lower = "text" then .text
  else if lower = "datetime" then .dateTime
  else .other (String.ofList word)

def keyword : SqlType → String
  | char => "CHAR"
  | varchar => "VARCHAR"
  | tinyInt => "TINYINT"
  | int => "INT"
  | bigInt => "BIGINT"
  | text => "TEXT"
  | dateTime => "DATETIME"
  | other k => k

/-- The type as a column states it, with its length in parentheses if it has one. -/
def render (t : SqlType) (length : Option Nat) : String :=
  match length with
  | some n => t.keyword ++ "(" ++ Text.ofNat n ++ ")"
  | none => t.keyword

end SqlType

end SchemaGate.Schema
