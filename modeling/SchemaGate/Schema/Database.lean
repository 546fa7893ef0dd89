import SchemaGate.Schema.Table
/-!
Databases. A database is created unless it is marked as existing; the statement that would create
it does not depend on the mark.
-/

set_option autoImplicit false

namespace SchemaGate.Schema

/-- A database to create or to use as it is. -/
structure Database where
  name : String
  collation : String
  existing : Bool
  deriving DecidableEq, Repr

namespace Database

/-- A database that is still to be created, with the default collation. -/
def named (name : String) : Database := ⟨name, defaultCollation, false⟩

def withExisting (d : Database) (existing : Bool) : Database := { d with existing := existing }

def withCollation (d : Database) (collation : String) : Database :=
  { d with collation := collation }

def render (d : Database) : String :=
  "CREATE DATABASE IF NOT EXISTS " ++ Identifier.quote d.name ++ " /*!40100 COLLATE '" ++
    d.collation ++ "' */;"

end Database

end SchemaGate.Schema
