/-!
Plans: what a document says about one migration. A plan holds what is written, not yet checked: a
column may name a type and a verbatim body at once.
-/

set_option autoImplicit false

namespace SchemaGate

structure DatabasePlan where
  name : String
  collation : Option String
  existing : Bool
  deriving DecidableEq, Repr

structure ColumnPlan where
  name : String
  type : Option String
  length : Option Nat
  custom : Option String
  nullable : Bool
  default : Option String
  defaultNull : Bool
  deriving DecidableEq, Repr

structure TablePlan where
  name : String
  collation : Option String
  primaryKey : Option String
  columns : List ColumnPlan
  deriving DecidableEq, Repr

/-- A target version, a database, its tables, and further statements. -/
structure Plan where
  version : Int
  database : DatabasePlan
  tables : List TablePlan
  rawSql : List String
  deriving DecidableEq, Repr

end SchemaGate
