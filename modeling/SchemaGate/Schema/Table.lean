import SchemaGate.Schema.Column
/-!
Tables. Columns are stated in the order they were added, equal names included; the primary key
stands after them and need not name one of them.
-/

set_option autoImplicit false

namespace SchemaGate.Schema

def defaultCollation : String := "utf8_general_ci"

structure Table where
  name : String
  columns : List Column
  collation : String
  primaryKey : Option String
  deriving DecidableEq, Repr

namespace Table

def named (name : String) : Table := ⟨name, [], defaultCollation, none⟩

def addColumn (t : Table) (c : Column) : Table := { t with columns := t.columns ++ [c] }

def withPrimaryKey (t : Table) (column : String) : Table := { t with primaryKey := some column }

def withCollation (t : Table) (collation : String) : Table := { t with collation := collation }

/-- Whether the primary key, if there is one, names a column of the table. -/
def keyIsDeclared (t : Table) : Bool :=
  match t.primaryKey with
  | some key => t.columns.any fun c => c.name == key
  | none => true

def keyClause (key : String) : String := "PRIMARY KEY (" ++ Identifier.quote key ++ ")"

def renderColumns (t : Table) : String :=
  ", ".intercalate (t.columns.map Column.render ++ t.primaryKey.toList.map keyClause)

def render (t : Table) (database : String) : String :=
  "CREATE TABLE " ++ Identifier.quote database ++ "." ++ Identifier.quote t.name ++ " ( " ++
    t.renderColumns ++ " ) COLLATE='" ++ t.collation ++ "';"

end Table

end SchemaGate.Schema
