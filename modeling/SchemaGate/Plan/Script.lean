import SchemaGate.Plan
import SchemaGate.Script
/-!
The script that a plan describes: its database, then its tables, then its further statements. A
column must have either a type or a verbatim body, at most one default, and a length only beside a
type; the first column that has not makes the whole plan useless.
-/

set_option autoImplicit false

namespace SchemaGate

namespace ColumnPlan

def defaultAsked (c : ColumnPlan) : Schema.Default :=
  match c.default with
  | some text => .literal text
  | none => if c.defaultNull then .null else .unset

def bodyAsked (c : ColumnPlan) : Except ColumnFault Schema.ColumnBody :=
  match c.type, c.custom with
  | some type, none => .ok (.typed (Schema.SqlType.ofKeyword type) c.length)
  | none, some fragment =>
    if c.length.isSome then .error .lengthWithoutType else .ok (.verbatim fragment)
  | some _, some _ => .error .twoBodies
  | none, none => .error .noBody

def toColumn (c : ColumnPlan) : Except ColumnFault Schema.Column :=
  if c.default.isSome && c.defaultNull then .error .twoDefaults
  else c.bodyAsked.map fun body => ⟨c.name, body, c.defaultAsked, c.nullable⟩

end ColumnPlan

namespace TablePlan

def toTable (t : TablePlan) : Except PlanFault Schema.Table :=
  let column (c : ColumnPlan) := c.toColumn.mapError (PlanFault.column t.name c.name)
  (t.columns.mapM column).map fun columns =>
    ⟨t.name, columns, t.collation.getD Schema.defaultCollation, t.primaryKey⟩

end TablePlan

namespace DatabasePlan

def toDatabase (d : DatabasePlan) : Schema.Database :=
  ⟨d.name, d.collation.getD Schema.defaultCollation, d.existing⟩

end DatabasePlan

namespace Plan

def startEvent (p : Plan) : Event :=
  ⟨.debug, "Building migration script from plan",
    [("database", p.database.name), ("tables", Text.ofNat p.tables.length),
      ("raw", Text.ofNat p.rawSql.length)]⟩

/-- What came of making a script: the script or a failure, with all notes up to there. -/
abbrev Made := Told (Except Failure Script)

def next (m : Made) (step : Script → Except Failure (Told Script)) : Made :=
  match m.value with
  | .error _ => m
  | .ok s =>
    match step s with
    | .ok t => ⟨.ok t.value, m.notes ++ t.notes⟩
    | .error e => ⟨.error e, m.notes⟩

def addTable (t : TablePlan) (s : Script) : Except Failure (Told Script) :=
  match t.toTable with
  | .ok table => s.createTable table
  | .error fault => .error (.plan fault)

def toScript (p : Plan) (target : Config.Connection) : Made :=
  let started := (Script.empty target p.version).useDatabase p.database.toDatabase
  let opened : Made := ⟨.ok started.value, .event p.startEvent :: started.notes⟩
  let tables := p.tables.foldl (fun m t => next m (addTable t)) opened
  p.rawSql.foldl (fun m sql => next m fun s => .ok (s.raw sql)) tables

end Plan

end SchemaGate
