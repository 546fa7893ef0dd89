import SchemaGate.Plan.Script
import SchemaGate.Proofs.ListReading
/-!
The script that a plan asks for. A column is acceptable or has a fault, and only one fault counts.
Main statement: a plan has a script exactly if all its columns are acceptable; the script sends what
the plan describes, in the order of the plan, and else the first column with a fault is named.
-/

set_option autoImplicit false

namespace SchemaGate

open Schema (Identifier.quote)

namespace ColumnPlan

/-- The column has a type or a verbatim body but not both, at most one default, and no length beside
a verbatim body. -/
structure Acceptable (c : ColumnPlan) : Prop where
  body : c.type.isSome = true ↔ c.custom = none
  default : ¬ (c.default.isSome = true ∧ c.defaultNull = true)
  length : ¬ (c.length.isSome = true ∧ c.custom.isSome = true)

/-- What is wrong with a column. Two defaults count before all faults of the body. -/
inductive Faulty (c : ColumnPlan) : ColumnFault → Prop
  | twoDefaults : c.default.isSome = true → c.defaultNull = true → Faulty c .twoDefaults
  | twoBodies : ¬ (c.default.isSome = true ∧ c.defaultNull = true) →
      c.type.isSome = true → c.custom.isSome = true → Faulty c .twoBodies
  | noBody : ¬ (c.default.isSome = true ∧ c.defaultNull = true) →
      c.type = none → c.custom = none → Faulty c .noBody
  | lengthWithoutType : ¬ (c.default.isSome = true ∧ c.defaultNull = true) →
      c.type = none → c.custom.isSome = true → c.length.isSome = true → Faulty c .lengthWithoutType

def defaultText (c : ColumnPlan) : String :=
  match c.default with
  | some literal => " DEFAULT " ++ literal
  | none => if c.defaultNull then " DEFAULT NULL" else ""

/-- The column as a statement has it. Null-ness and default only show beside a type. -/
def text (c : ColumnPlan) : String :=
  Identifier.quote c.name ++ " " ++
    match c.custom with
    | some fragment => fragment
    | none =>
      (Schema.SqlType.ofKeyword (c.type.getD "")).render c.length ++
        (if c.nullable then " NULL" else " NOT NULL") ++ c.defaultText

private theorem render_typed (name : String) (type : Schema.SqlType) (length : Option Nat)
    (default : Schema.Default) (nullable : Bool) :
    (⟨name, .typed type length, default, nullable⟩ : Schema.Column).render =
      Identifier.quote name ++ " " ++ (type.render length ++
        (if nullable then " NULL" else " NOT NULL") ++
          match default.clause? with
          | some clause => " " ++ clause
          | none => "") := by
  have null : " " ++ "NULL" = " NULL" := by decide
  have notNull : " " ++ "NOT NULL" = " NOT NULL" := by decide
  have joined (a b n : String) : " ".intercalate [a, b, n] = a ++ " " ++ b ++ " " ++ n := rfl
  have joined' (a b n d : String) :
      " ".intercalate [a, b, n, d] = a ++ " " ++ b ++ " " ++ n ++ " " ++ d := rfl
  rw [Schema.Column.render, ← null, ← notNull]
  cases default.clause? <;> cases nullable <;>
    simp only [Schema.Column.nullability, Option.toList_none, Option.toList_some, List.cons_append,
      List.nil_append, joined, joined', String.append_assoc, String.append_empty, if_true,
      Bool.false_eq_true, if_false]

private theorem clause_defaultAsked (c : ColumnPlan) :
    (match c.defaultAsked.clause? with
      | some clause => " " ++ clause
      | none => "") = c.defaultText := by
  have start : " " ++ "DEFAULT " = " DEFAULT " := by decide
  have null : " " ++ "DEFAULT NULL" = " DEFAULT NULL" := by decide
  unfold defaultAsked defaultText
  cases c.default with
  | some literal =>
    simp only [Schema.Default.clause?]
    rw [← String.append_assoc, start]
  | none =>
    cases c.defaultNull with
    | true => exact null
    | false => rfl

section

variable {c : ColumnPlan} {fault : ColumnFault}

private theorem toColumn_of_one (one : ¬ (c.default.isSome = true ∧ c.defaultNull = true)) :
    c.toColumn = c.bodyAsked.map fun body => ⟨c.name, body, c.defaultAsked, c.nullable⟩ :=
  if_neg (by simpa using one)

private theorem toColumn_of_faulty (faulty : c.Faulty fault) : c.toColumn = .error fault := by
  cases faulty with
  | twoDefaults given null => exact if_pos (by simp [given, null])
  | twoBodies one typed verbatim =>
    obtain ⟨type, typed⟩ := Option.isSome_iff_exists.mp typed
    obtain ⟨fragment, verbatim⟩ := Option.isSome_iff_exists.mp verbatim
    rw [toColumn_of_one one, bodyAsked, typed, verbatim]
    rfl
  | noBody one typed verbatim =>
    rw [toColumn_of_one one, bodyAsked, typed, verbatim]
    rfl
  | lengthWithoutType one typed verbatim long =>
    obtain ⟨fragment, verbatim⟩ := Option.isSome_iff_exists.mp verbatim
    rw [toColumn_of_one one, bodyAsked, typed, verbatim]
    simp only [long, if_true]
    rfl

private theorem toColumn_of_acceptable (fine : c.Acceptable) :
    ∃ column, c.toColumn = .ok column ∧ column.render = c.text := by
  rw [toColumn_of_one fine.default, bodyAsked, text]
  cases verbatim : c.custom with
  | none =>
    obtain ⟨type, typed⟩ := Option.isSome_iff_exists.mp (fine.body.mpr verbatim)
    rw [typed]
    refine ⟨_, rfl, ?_⟩
    rw [render_typed, clause_defaultAsked, Option.getD_some]
  | some fragment =>
    have typed : c.type = none := by
      cases typed : c.type with
      | none => rfl
      | some type =>
        have alone := fine.body.mp (by simp [typed])
        rw [verbatim] at alone
        exact nomatch alone
    have short : c.length.isSome = false := by
      have either := fine.length
      rw [verbatim] at either
      simpa using either
    rw [typed]
    simp only [short, Bool.false_eq_true, if_false]
    exact ⟨_, rfl, rfl⟩

private theorem acceptable_or_faulty (c : ColumnPlan) : c.Acceptable ∨ ∃ fault, c.Faulty fault := by
  by_cases two : c.default.isSome = true ∧ c.defaultNull = true
  · exact .inr ⟨_, .twoDefaults two.1 two.2⟩
  cases typed : c.type with
  | some type =>
    cases verbatim : c.custom with
    | some fragment => exact .inr ⟨_, .twoBodies two (by simp [typed]) (by simp [verbatim])⟩
    | none => exact .inl ⟨by simp [typed, verbatim], two, by simp [verbatim]⟩
  | none =>
    cases verbatim : c.custom with
    | none => exact .inr ⟨_, .noBody two typed verbatim⟩
    | some fragment =>
      cases long : c.length with
      | none => exact .inl ⟨by simp [typed, verbatim], two, by simp [long]⟩
      | some n =>
        exact .inr ⟨_, .lengthWithoutType two typed (by simp [verbatim]) (by simp [long])⟩

private theorem toColumn_ok_iff : (∃ column, c.toColumn = .ok column) ↔ c.Acceptable := by
  constructor
  · rintro ⟨column, made⟩
    rcases acceptable_or_faulty c with fine | ⟨fault, faulty⟩
    · exact fine
    · rw [toColumn_of_faulty faulty] at made
      exact nomatch made
  · intro fine
    obtain ⟨column, made, -⟩ := toColumn_of_acceptable fine
    exact ⟨column, made⟩

private theorem render_of_toColumn {column : Schema.Column} (made : c.toColumn = .ok column) :
    column.render = c.text := by
  obtain ⟨column', made', same⟩ := toColumn_of_acceptable (toColumn_ok_iff.mp ⟨column, made⟩)
  obtain rfl := Except.ok.inj (made.symm.trans made')
  exact same

private theorem toColumn_error_iff : c.toColumn = .error fault ↔ c.Faulty fault := by
  constructor
  · intro refused
    rcases acceptable_or_faulty c with fine | ⟨fault', faulty⟩
    · obtain ⟨column, made, -⟩ := toColumn_of_acceptable fine
      rw [refused] at made
      exact nomatch made
    · obtain rfl := Except.error.inj ((toColumn_of_faulty faulty).symm.trans refused)
      exact faulty
  · exact toColumn_of_faulty

end

end ColumnPlan

/-- Reads a column together with the table that it is in, which a complaint names. -/
def readColumn (p : TablePlan × ColumnPlan) : Except PlanFault Schema.Column :=
  p.2.toColumn.mapError (PlanFault.column p.1.name p.2.name)

private theorem readColumn_ok_iff {p : TablePlan × ColumnPlan} {column : Schema.Column} :
    readColumn p = .ok column ↔ p.2.toColumn = .ok column := by
  unfold readColumn
  cases p.2.toColumn <;> simp [Except.mapError]

private theorem readColumn_error_iff {p : TablePlan × ColumnPlan} {e : PlanFault} :
    readColumn p = .error e ↔ ∃ fault, p.2.Faulty fault ∧ e = .column p.1.name p.2.name fault := by
  simp only [← ColumnPlan.toColumn_error_iff]
  unfold readColumn
  cases p.2.toColumn <;> simp [Except.mapError, eq_comm]

namespace TablePlan

def entries (t : TablePlan) : List (TablePlan × ColumnPlan) := t.columns.map fun c => (t, c)

def text (t : TablePlan) (database : String) : String :=
  let key := t.primaryKey.toList.map fun key => "PRIMARY KEY (" ++ Identifier.quote key ++ ")"
  "CREATE TABLE " ++ Identifier.quote database ++ "." ++ Identifier.quote t.name ++ " ( " ++
    ", ".intercalate (t.columns.map ColumnPlan.text ++ key) ++ " ) COLLATE='" ++
    t.collation.getD "utf8_general_ci" ++ "';"

private theorem toTable_eq (t : TablePlan) :
    t.toTable = (t.entries.mapM readColumn).map fun columns =>
      ⟨t.name, columns, t.collation.getD Schema.defaultCollation, t.primaryKey⟩ := by
  rw [entries, List.mapM_map]
  rfl

private theorem render_of_toTable {t : TablePlan} {table : Schema.Table}
    (made : t.toTable = .ok table) (database : String) :
    table.render database = t.text database := by
  rw [toTable_eq] at made
  cases read : t.entries.mapM readColumn with
  | error e =>
    rw [read] at made
    exact nomatch made
  | ok columns =>
    rw [read] at made
    obtain rfl := Except.ok.inj made
    have same : columns.map Schema.Column.render = t.columns.map ColumnPlan.text := by
      have stated : ∀ p column, readColumn p = .ok column → column.render = p.2.text :=
        fun p column made => ColumnPlan.render_of_toColumn (readColumn_ok_iff.mp made)
      rw [map_eq_of_mapM_ok read stated, entries, List.map_map]
      rfl
    have clause : Schema.Table.keyClause =
        fun key => "PRIMARY KEY (" ++ Identifier.quote key ++ ")" := rfl
    unfold Schema.Table.render Schema.Table.renderColumns text
    simp only [same, clause, Schema.defaultCollation]

end TablePlan

namespace DatabasePlan

def text (d : DatabasePlan) : String :=
  "CREATE DATABASE IF NOT EXISTS " ++ Identifier.quote d.name ++ " /*!40100 COLLATE '" ++
    d.collation.getD "utf8_general_ci" ++ "' */;"

private theorem render_toDatabase (d : DatabasePlan) : d.toDatabase.render = d.text := by
  unfold Schema.Database.render toDatabase text
  simp only [Schema.defaultCollation]

end DatabasePlan

namespace Plan

def entries (p : Plan) : List (TablePlan × ColumnPlan) := p.tables.flatMap TablePlan.entries

/-- What the plan wants sent: its database, its tables, and its further statements. -/
def statements (p : Plan) : List String :=
  (if p.database.existing then [] else [p.database.text]) ++
    p.tables.map (TablePlan.text · p.database.name) ++ p.rawSql

section Steps

variable {α : Type} (step : α → Script → Except Failure (Told Script))

private theorem value_foldl_next (l : List α) (m : Made) :
    (l.foldl (fun m a => next m (step a)) m).value =
      m.value.bind fun s => l.foldlM (fun s a => (step a s).map Told.value) s := by
  induction l generalizing m with
  | nil =>
    cases same : m.value with
    | error e => simp [same, Except.bind]
    | ok s => simp [same, Except.bind, Pure.pure, Except.pure]
  | cons a l ih =>
    rw [List.foldl_cons, ih]
    unfold next
    cases same : m.value with
    | error e => simp [same, Except.bind]
    | ok s =>
      cases took : step a s <;>
        simp [took, Except.bind, List.foldlM_cons, Bind.bind, Except.map]

variable {s : Script} {d : Schema.Database}

private theorem addTable_ok {t : TablePlan} {table : Schema.Table} (selected : s.database = some d)
    (made : t.toTable = .ok table) :
    (addTable t s).map Told.value = .ok { s with queue := s.queue ++ [t.text d.name] } := by
  simp only [addTable, made, Script.createTable, selected, TablePlan.render_of_toTable made]
  rfl

private theorem addTables_eq (selected : s.database = some d) (tables : List TablePlan) :
    tables.foldlM (fun s t => (addTable t s).map Told.value) s =
      match tables.mapM TablePlan.toTable with
      | .ok _ => .ok { s with queue := s.queue ++ tables.map (TablePlan.text · d.name) }
      | .error fault => .error (.plan fault) := by
  induction tables generalizing s with
  | nil => simp [Pure.pure, Except.pure]
  | cons t tables ih =>
    rw [List.foldlM_cons, List.mapM_cons]
    cases made : t.toTable with
    | error fault => simp [addTable, made, Except.map, Bind.bind, Except.bind]
    | ok table =>
      have rest := @ih { s with queue := s.queue ++ [t.text d.name] } selected
      rw [addTable_ok selected made]
      simp only [Bind.bind, Except.bind, rest]
      cases tables.mapM TablePlan.toTable <;> simp [Pure.pure, Except.pure]

private theorem addRaw_eq (s : Script) (statements : List String) :
    statements.foldlM (fun s sql => (Except.ok (s.raw sql) : Except Failure _).map Told.value) s =
      .ok { s with queue := s.queue ++ statements } := by
  induction statements generalizing s with
  | nil => simp [Pure.pure, Except.pure]
  | cons sql statements ih =>
    have rest := ih (s.raw sql).value
    rw [List.foldlM_cons]
    simp only [Except.map, Bind.bind, Except.bind] at rest ⊢
    rw [rest]
    simp [Script.raw]

end Steps

private theorem useDatabase_empty (address : Config.Connection) (version : Int) (d : DatabasePlan) :
    ((Script.empty address version).useDatabase d.toDatabase).value =
      ⟨address, version, if d.existing then [] else [d.text], some d.toDatabase, none⟩ := by
  unfold Script.useDatabase
  have marked : d.toDatabase.existing = d.existing := rfl
  rw [marked, DatabasePlan.render_toDatabase]
  cases d.existing <;> rfl

theorem toScript_eq (p : Plan) (address : Config.Connection) :
    (p.toScript address).value =
      match p.tables.mapM TablePlan.toTable with
      | .ok _ => .ok ⟨address, p.version, p.statements, some p.database.toDatabase, none⟩
      | .error fault => .error (.plan fault) := by
  unfold toScript
  simp only [value_foldl_next, useDatabase_empty, Except.bind]
  rw [addTables_eq rfl]
  cases p.tables.mapM TablePlan.toTable with
  | error fault => rfl
  | ok tables =>
    simp only [addRaw_eq]
    rfl

private theorem tables_error_iff {p : Plan} {e : PlanFault} :
    p.tables.mapM TablePlan.toTable = .error e ↔ p.entries.mapM readColumn = .error e := by
  rw [entries, ← mapM_mapM_error_iff, ← funext TablePlan.toTable_eq]

private theorem tables_ok_iff {p : Plan} :
    (∃ tables, p.tables.mapM TablePlan.toTable = .ok tables) ↔
      ∀ t ∈ p.tables, ∀ c ∈ t.columns, c.Acceptable := by
  have columns (t : TablePlan) :
      (∃ table, t.toTable = .ok table) ↔ ∀ c ∈ t.columns, c.Acceptable := by
    have read : (∃ table, t.toTable = .ok table) ↔
        ∃ columns, t.entries.mapM readColumn = .ok columns := by
      rw [TablePlan.toTable_eq]
      cases t.entries.mapM readColumn <;> simp [Except.map]
    simp only [read, exists_mapM_ok_iff, readColumn_ok_iff, ColumnPlan.toColumn_ok_iff,
      TablePlan.entries, List.forall_mem_map]
  simp only [exists_mapM_ok_iff, columns]

/-- A plan makes a script exactly if each of its columns is acceptable. The script has the version
and the database of the plan and sends the statements that the plan describes. If there is none, the
first column of the plan that has a fault is the reason: the failure holds its table, its name and
its fault, and it is never a failure of use. -/
theorem toScript_follows_plan (p : Plan) (address : Config.Connection) :
    let made := (p.toScript address).value
    ((∃ s, made = .ok s) ↔ ∀ t ∈ p.tables, ∀ c ∈ t.columns, c.Acceptable) ∧
    (∀ s, made = .ok s → s.target = address ∧ s.version = p.version ∧ s.queue = p.statements ∧
      s.database = some ⟨p.database.name, p.database.collation.getD "utf8_general_ci",
        p.database.existing⟩) ∧
    (∀ e, made = .error e ↔ ∃ before t c after fault, p.entries = before ++ (t, c) :: after ∧
      (∀ q ∈ before, q.2.Acceptable) ∧ c.Faulty fault ∧ e = .plan (.column t.name c.name fault)) ∧
    ∀ e, made = .error e → e.isUsage = false := by
  intro made
  have eq : made = _ := toScript_eq p address
  have failed (e : Failure) : made = .error e ↔
      ∃ before t c after fault, p.entries = before ++ (t, c) :: after ∧
        (∀ q ∈ before, q.2.Acceptable) ∧ c.Faulty fault ∧
          e = .plan (.column t.name c.name fault) := by
    have plan : made = .error e ↔
        ∃ fault, p.entries.mapM readColumn = .error fault ∧ e = .plan fault := by
      simp only [eq, ← tables_error_iff]
      cases p.tables.mapM TablePlan.toTable <;> simp [eq_comm]
    simp only [plan, mapM_error_iff, readColumn_error_iff, readColumn_ok_iff,
      ColumnPlan.toColumn_ok_iff]
    constructor
    · rintro ⟨_, ⟨before, ⟨t, c⟩, after, split, fine, fault, faulty, rfl⟩, rfl⟩
      exact ⟨before, t, c, after, fault, split, fine, faulty, rfl⟩
    · rintro ⟨before, t, c, after, fault, split, fine, faulty, rfl⟩
      exact ⟨_, ⟨before, (t, c), after, split, fine, fault, faulty, rfl⟩, rfl⟩
  refine ⟨?_, ?_, failed, ?_⟩
  · rw [← tables_ok_iff, eq]
    cases p.tables.mapM TablePlan.toTable <;> simp
  · intro s ok
    rw [eq] at ok
    cases made : p.tables.mapM TablePlan.toTable with
    | error fault =>
      rw [made] at ok
      exact nomatch ok
    | ok tables =>
      rw [made] at ok
      obtain rfl := Except.ok.inj ok
      exact ⟨rfl, rfl, rfl, rfl⟩
  · intro e error
    obtain ⟨_, _, _, _, _, -, -, -, rfl⟩ := (failed e).mp error
    rfl

/-- The default of a verbatim column is not stated; a column without a body is named, whatever is
wrong behind it. -/
theorem toScript_of_shop :
    let id : ColumnPlan := ⟨"id", some "char", some 12, none, false, none, false⟩
    let nick : ColumnPlan := ⟨"nick", some "text", none, none, true, none, true⟩
    let info : ColumnPlan := ⟨"info", none, none, some "JSON NOT NULL", false, some "'x'", false⟩
    let bare : ColumnPlan := ⟨"bare", none, none, none, false, none, false⟩
    let torn : ColumnPlan := ⟨"torn", some "int", none, some "INT", false, none, false⟩
    let shop (columns : List ColumnPlan) : Plan :=
      ⟨1, ⟨"shop", some "utf8", false⟩, [⟨"users", none, some "id", columns⟩], ["DO 1"]⟩
    let address : Config.Connection := .ofUrl ""
    (∃ s, ((shop [id, nick, info]).toScript address).value = .ok s ∧ s.version = 1 ∧
      s.queue = ["CREATE DATABASE IF NOT EXISTS `shop` /*!40100 COLLATE 'utf8' */;",
        "CREATE TABLE `shop`.`users` ( `id` CHAR(12) NOT NULL, `nick` TEXT NULL DEFAULT NULL, " ++
          "`info` JSON NOT NULL, PRIMARY KEY (`id`) ) COLLATE='utf8_general_ci';", "DO 1"]) ∧
      ((shop [id, bare, torn]).toScript address).value =
        .error (.plan (.column "users" "bare" .noBody)) := by
  intro id nick info bare torn shop address
  have fine : id.Acceptable := ⟨by decide, by decide, by decide⟩
  have faulty : bare.Faulty .noBody := .noBody (by decide) rfl rfl
  obtain ⟨-, ok, -⟩ := toScript_follows_plan (shop [id, nick, info]) address
  obtain ⟨-, -, error, -⟩ := toScript_follows_plan (shop [id, bare, torn]) address
  refine ⟨⟨_, rfl, ?_⟩, ?_⟩
  · obtain ⟨-, version, queue, -⟩ := ok _ rfl
    refine ⟨version, queue.trans ?_⟩
    decide +kernel
  · refine (error _).mpr ⟨[(_, id)], _, bare, [(_, torn)], _, rfl, ?_, faulty, rfl⟩
    intro q member
    obtain rfl := List.mem_singleton.mp member
    exact fine

end Plan

end SchemaGate
