import SchemaGate.Document.Reader
import SchemaGate.Failure
import SchemaGate.Plan
import SchemaGate.Toml.Document
/-!
Plans as documents. Every key of a plan must be a field; a version, a database and all names must be
there; flags that are absent are off, and lists that are absent are empty.
-/

set_option autoImplicit false

namespace SchemaGate

open Document (Complaint Field Record)

namespace DatabasePlan

/-- The database of a plan, as far as it is read. -/
structure Draft where
  name : Option String
  collation : Option String
  existing : Option Bool

def put (key : String) (v : Toml.Value) (d : Draft) : Except Complaint Draft :=
  if key = "name" then (Document.string v).map fun x => { d with name := some x }
  else if key = "collation" then (Document.string v).map fun x => { d with collation := some x }
  else (Document.boolean v).map fun x => { d with existing := some x }

def finish (d : Draft) : Except Complaint DatabasePlan := do
  let name ← Document.require "name" d.name
  return ⟨name, d.collation, d.existing.getD false⟩

def record : Record Draft DatabasePlan where
  name := "DatabasePlan"
  fields := [⟨"name", false⟩, ⟨"collation", false⟩, ⟨"existing", true⟩]
  closed := true
  start := ⟨none, none, none⟩
  put := put
  finish := finish

end DatabasePlan

namespace ColumnPlan

structure Draft where
  name : Option String
  type : Option String
  length : Option Nat
  custom : Option String
  nullable : Option Bool
  default : Option String
  defaultNull : Option Bool

def put (key : String) (v : Toml.Value) (d : Draft) : Except Complaint Draft :=
  if key = "name" then (Document.string v).map fun x => { d with name := some x }
  else if key = "type" then (Document.string v).map fun x => { d with type := some x }
  else if key = "length" then (Document.unsigned32 v).map fun x => { d with length := some x }
  else if key = "custom" then (Document.string v).map fun x => { d with custom := some x }
  else if key = "nullable" then (Document.boolean v).map fun x => { d with nullable := some x }
  else if key = "default" then (Document.string v).map fun x => { d with default := some x }
  else (Document.boolean v).map fun x => { d with defaultNull := some x }

def finish (d : Draft) : Except Complaint ColumnPlan := do
  let name ← Document.require "name" d.name
  return ⟨name, d.type, d.length, d.custom, d.nullable.getD false, d.default,
    d.defaultNull.getD false⟩

def record : Record Draft ColumnPlan where
  name := "ColumnPlan"
  fields := [⟨"name", false⟩, ⟨"type", false⟩, ⟨"length", false⟩, ⟨"custom", false⟩,
    ⟨"nullable", true⟩, ⟨"default", false⟩, ⟨"default_null", true⟩]
  closed := true
  start := ⟨none, none, none, none, none, none, none⟩
  put := put
  finish := finish

end ColumnPlan

namespace TablePlan

structure Draft where
  name : Option String
  collation : Option String
  primaryKey : Option String
  columns : Option (List ColumnPlan)

def put (key : String) (v : Toml.Value) (d : Draft) : Except Complaint Draft :=
  if key = "name" then (Document.string v).map fun x => { d with name := some x }
  else if key = "collation" then (Document.string v).map fun x => { d with collation := some x }
  else if key = "primary_key" then (Document.string v).map fun x => { d with primaryKey := some x }
  else
    (Document.sequence ColumnPlan.record.read v).map fun x => { d with columns := some x }

def finish (d : Draft) : Except Complaint TablePlan := do
  let name ← Document.require "name" d.name
  return ⟨name, d.collation, d.primaryKey, d.columns.getD []⟩

def record : Record Draft TablePlan where
  name := "TablePlan"
  fields := [⟨"name", false⟩, ⟨"collation", false⟩, ⟨"primary_key", false⟩, ⟨"columns", true⟩]
  closed := true
  start := ⟨none, none, none, none⟩
  put := put
  finish := finish

end TablePlan

namespace Plan

structure Draft where
  version : Option Int
  database : Option DatabasePlan
  tables : Option (List TablePlan)
  rawSql : Option (List String)

def put (key : String) (v : Toml.Value) (d : Draft) : Except Complaint Draft :=
  if key = "schema_version" then (Document.signed64 v).map fun x => { d with version := some x }
  else if key = "database" then
    (DatabasePlan.record.read v).map fun x => { d with database := some x }
  else if key = "tables" then
    (Document.sequence TablePlan.record.read v).map fun x => { d with tables := some x }
  else (Document.sequence Document.string v).map fun x => { d with rawSql := some x }

def finish (d : Draft) : Except Complaint Plan := do
  let version ← Document.require "schema_version" d.version
  let database ← Document.require "database" d.database
  return ⟨version, database, d.tables.getD [], d.rawSql.getD []⟩

def record : Record Draft Plan where
  name := "MigrationPlan"
  fields := [⟨"schema_version", false⟩, ⟨"database", false⟩, ⟨"tables", true⟩, ⟨"raw_sql", true⟩]
  closed := true
  start := ⟨none, none, none, none⟩
  put := put
  finish := finish

def parse (text : String) : Except PlanFault Plan :=
  match Toml.read? text with
  | none => .error (.malformed .grammar)
  | some entries => (record.ofEntries entries).mapError .malformed

def load (files : Files) (path : String) : Except PlanFault Plan :=
  match files.readText path with
  | .ok text => parse text
  | .error fault => .error (.unreadable path fault)

end Plan

end SchemaGate
