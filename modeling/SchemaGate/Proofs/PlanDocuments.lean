import SchemaGate.Plan.Document
import SchemaGate.Proofs.DistinctKeys
import SchemaGate.Proofs.RecordReading
/-!
The documents that are plans. Main statement: a document is read as a plan exactly if each of its
tables has the keys that are wanted there, with values of the right kind. The plan holds what is
written, and the order of the entries of a table does not count.
-/

set_option autoImplicit false

namespace SchemaGate

open Toml (Kind Key Keyed Given Distinct Rearranged distinct_array_iff distinct_table_iff)
open Document (Record Reads reads_string reads_boolean reads_signed64 reads_unsigned32
  reads_sequence)

namespace DatabasePlan

def keys : List Key := [⟨"name", true, .text⟩, ⟨"collation", false, .text⟩,
  ⟨"existing", false, .flag⟩]

structure MeantBy (entries : List (String × Toml.Value)) (d : DatabasePlan) : Prop where
  name : Given Kind.text.Means entries "name" (some d.name)
  collation : Given Kind.text.Means entries "collation" d.collation
  existing : ∃ o, Given Kind.flag.Means entries "existing" o ∧ d.existing = o.getD false

def kind : Kind DatabasePlan := .tableOf keys MeantBy

private theorem tabular_table (entries : List (String × Toml.Value)) :
    kind.Tabular (.table entries) := by
  simp [kind, keys, Kind.tabular_table_iff, Kind.text, Kind.flag, Kind.tabular_leaf]

def slots : List (Record.Slot Draft) := [
  ⟨⟨"name", true, .text⟩, Document.string, Draft.name, fun x d => { d with name := some x }⟩,
  ⟨⟨"collation", false, .text⟩, Document.string, Draft.collation,
    fun x d => { d with collation := some x }⟩,
  ⟨⟨"existing", false, .flag⟩, Document.boolean, Draft.existing,
    fun x d => { d with existing := some x }⟩]

private theorem uses_slots : record.Uses slots where
  closed := rfl
  fields := rfl
  nodup := by decide
  dateless := by simp [slots, Record.dateTimeKey]
  start := by simp [slots, record]
  put := by simp [slots, record, put]
  get_set := by simp [slots]
  get_set_of_ne := by simp [slots]
  ext := by
    rintro ⟨⟩ ⟨⟩ same
    simpa [slots] using same
  finish := by
    rintro ⟨name, collation, existing⟩
    cases name with
    | none => simp [slots, record, finish, Document.require, Bind.bind, Except.bind]
    | some name => simpa [slots] using ⟨_, rfl⟩
  reads := by simp [slots, reads_string, reads_boolean]

private theorem reads_record : Reads record.read kind := by
  refine Record.reads_record uses_slots fun entries d => ?_
  simp only [slots, List.forall_mem_cons]
  constructor
  · rintro ⟨⟨name, collation, existing⟩, ⟨named, collated, exists', -⟩, made⟩
    cases name with
    | none => exact nomatch made
    | some name =>
      obtain rfl := Except.ok.inj made
      exact ⟨named, collated, existing, exists', rfl⟩
  · rintro ⟨named, collated, existing, exists', same⟩
    refine ⟨⟨some d.name, d.collation, existing⟩, ⟨named, collated, exists', nofun⟩, ?_⟩
    cases d
    subst same
    rfl

end DatabasePlan

namespace ColumnPlan

def keys : List Key := [⟨"name", true, .text⟩, ⟨"type", false, .text⟩, ⟨"length", false, .count⟩,
  ⟨"custom", false, .text⟩, ⟨"nullable", false, .flag⟩, ⟨"default", false, .text⟩,
  ⟨"default_null", false, .flag⟩]

structure MeantBy (entries : List (String × Toml.Value)) (c : ColumnPlan) : Prop where
  name : Given Kind.text.Means entries "name" (some c.name)
  type : Given Kind.text.Means entries "type" c.type
  length : Given Kind.count.Means entries "length" c.length
  custom : Given Kind.text.Means entries "custom" c.custom
  nullable : ∃ o, Given Kind.flag.Means entries "nullable" o ∧ c.nullable = o.getD false
  default : Given Kind.text.Means entries "default" c.default
  defaultNull : ∃ o, Given Kind.flag.Means entries "default_null" o ∧ c.defaultNull = o.getD false

def kind : Kind ColumnPlan := .tableOf keys MeantBy

private theorem tabular_table (entries : List (String × Toml.Value)) :
    kind.Tabular (.table entries) := by
  simp [kind, keys, Kind.tabular_table_iff, Kind.text, Kind.flag, Kind.count, Kind.tabular_leaf]

def slots : List (Record.Slot Draft) := [
  ⟨⟨"name", true, .text⟩, Document.string, Draft.name, fun x d => { d with name := some x }⟩,
  ⟨⟨"type", false, .text⟩, Document.string, Draft.type, fun x d => { d with type := some x }⟩,
  ⟨⟨"length", false, .count⟩, Document.unsigned32, Draft.length,
    fun x d => { d with length := some x }⟩,
  ⟨⟨"custom", false, .text⟩, Document.string, Draft.custom,
    fun x d => { d with custom := some x }⟩,
  ⟨⟨"nullable", false, .flag⟩, Document.boolean, Draft.nullable,
    fun x d => { d with nullable := some x }⟩,
  ⟨⟨"default", false, .text⟩, Document.string, Draft.default,
    fun x d => { d with default := some x }⟩,
  ⟨⟨"default_null", false, .flag⟩, Document.boolean, Draft.defaultNull,
    fun x d => { d with defaultNull := some x }⟩]

private theorem uses_slots : record.Uses slots where
  closed := rfl
  fields := rfl
  nodup := by decide
  dateless := by simp [slots, Record.dateTimeKey]
  start := by simp [slots, record]
  put := by simp [slots, record, put]
  get_set := by simp [slots]
  get_set_of_ne := by simp [slots]
  ext := by
    rintro ⟨⟩ ⟨⟩ same
    simpa [slots] using same
  finish := by
    rintro ⟨name, type, length, custom, nullable, default, defaultNull⟩
    cases name with
    | none => simp [slots, record, finish, Document.require, Bind.bind, Except.bind]
    | some name => simpa [slots] using ⟨_, rfl⟩
  reads := by simp [slots, reads_string, reads_boolean, reads_unsigned32]

private theorem reads_record : Reads record.read kind := by
  refine Record.reads_record uses_slots fun entries c => ?_
  simp only [slots, List.forall_mem_cons]
  constructor
  · rintro ⟨⟨name, type, length, custom, nullable, default, defaultNull⟩,
      ⟨named, typed, long, verbatim, nulls, defaults, null, -⟩, made⟩
    cases name with
    | none => exact nomatch made
    | some name =>
      obtain rfl := Except.ok.inj made
      exact ⟨named, typed, long, verbatim, ⟨nullable, nulls, rfl⟩, defaults, defaultNull, null, rfl⟩
  · rintro ⟨named, typed, long, verbatim, ⟨nullable, nulls, same⟩, defaults,
      ⟨defaultNull, null, same'⟩⟩
    refine ⟨⟨some c.name, c.type, c.length, c.custom, nullable, c.default, defaultNull⟩,
      ⟨named, typed, long, verbatim, nulls, defaults, null, nofun⟩, ?_⟩
    cases c
    subst same same'
    rfl

end ColumnPlan

namespace TablePlan

def keys : List Key := [⟨"name", true, .text⟩, ⟨"collation", false, .text⟩,
  ⟨"primary_key", false, .text⟩, ⟨"columns", false, .listOf ColumnPlan.kind⟩]

structure MeantBy (entries : List (String × Toml.Value)) (t : TablePlan) : Prop where
  name : Given Kind.text.Means entries "name" (some t.name)
  collation : Given Kind.text.Means entries "collation" t.collation
  primaryKey : Given Kind.text.Means entries "primary_key" t.primaryKey
  columns : ∃ o, Given (Kind.listOf ColumnPlan.kind).Means entries "columns" o ∧
    t.columns = o.getD []

def kind : Kind TablePlan := .tableOf keys MeantBy

private theorem tabular_table_iff {entries : List (String × Toml.Value)} :
    kind.Tabular (.table entries) ↔
      ∀ v, ("columns", v) ∈ entries → (Kind.listOf ColumnPlan.kind).Tabular v := by
  simp [kind, keys, Kind.tabular_table_iff, Kind.text, Kind.tabular_leaf]

def slots : List (Record.Slot Draft) := [
  ⟨⟨"name", true, .text⟩, Document.string, Draft.name, fun x d => { d with name := some x }⟩,
  ⟨⟨"collation", false, .text⟩, Document.string, Draft.collation,
    fun x d => { d with collation := some x }⟩,
  ⟨⟨"primary_key", false, .text⟩, Document.string, Draft.primaryKey,
    fun x d => { d with primaryKey := some x }⟩,
  ⟨⟨"columns", false, .listOf ColumnPlan.kind⟩, Document.sequence ColumnPlan.record.read,
    Draft.columns, fun x d => { d with columns := some x }⟩]

private theorem uses_slots : record.Uses slots where
  closed := rfl
  fields := rfl
  nodup := by decide
  dateless := by simp [slots, Record.dateTimeKey]
  start := by simp [slots, record]
  put := by simp [slots, record, put]
  get_set := by simp [slots]
  get_set_of_ne := by simp [slots]
  ext := by
    rintro ⟨⟩ ⟨⟩ same
    simpa [slots] using same
  finish := by
    rintro ⟨name, collation, primaryKey, columns⟩
    cases name with
    | none => simp [slots, record, finish, Document.require, Bind.bind, Except.bind]
    | some name => simpa [slots] using ⟨_, rfl⟩
  reads := by simp [slots, reads_string, reads_sequence ColumnPlan.reads_record]

private theorem reads_record : Reads record.read kind := by
  refine Record.reads_record uses_slots fun entries t => ?_
  simp only [slots, List.forall_mem_cons]
  constructor
  · rintro ⟨⟨name, collation, primaryKey, columns⟩, ⟨named, collated, key, listed, -⟩, made⟩
    cases name with
    | none => exact nomatch made
    | some name =>
      obtain rfl := Except.ok.inj made
      exact ⟨named, collated, key, columns, listed, rfl⟩
  · rintro ⟨named, collated, key, columns, listed, same⟩
    refine ⟨⟨some t.name, t.collation, t.primaryKey, columns⟩,
      ⟨named, collated, key, listed, nofun⟩, ?_⟩
    cases t
    subst same
    rfl

end TablePlan

namespace Plan

def keys : List Key := [⟨"schema_version", true, .integer⟩, ⟨"database", true, DatabasePlan.kind⟩,
  ⟨"tables", false, .listOf TablePlan.kind⟩, ⟨"raw_sql", false, .listOf .text⟩]

structure MeantBy (entries : List (String × Toml.Value)) (p : Plan) : Prop where
  version : Given Kind.integer.Means entries "schema_version" (some p.version)
  database : Given DatabasePlan.kind.Means entries "database" (some p.database)
  tables : ∃ o, Given (Kind.listOf TablePlan.kind).Means entries "tables" o ∧ p.tables = o.getD []
  rawSql : ∃ o, Given (Kind.listOf Kind.text).Means entries "raw_sql" o ∧ p.rawSql = o.getD []

def kind : Kind Plan := .tableOf keys MeantBy

private theorem tabular_table_iff {entries : List (String × Toml.Value)} :
    kind.Tabular (.table entries) ↔
      (∀ v, ("database", v) ∈ entries → DatabasePlan.kind.Tabular v) ∧
        ∀ v, ("tables", v) ∈ entries → (Kind.listOf TablePlan.kind).Tabular v := by
  have texts (v : Toml.Value) : (Kind.listOf Kind.text).Tabular v := fun _ _ _ _ => trivial
  simp [kind, keys, Kind.tabular_table_iff, Kind.integer, Kind.tabular_leaf, texts]

def slots : List (Record.Slot Draft) := [
  ⟨⟨"schema_version", true, .integer⟩, Document.signed64, Draft.version,
    fun x d => { d with version := some x }⟩,
  ⟨⟨"database", true, DatabasePlan.kind⟩, DatabasePlan.record.read, Draft.database,
    fun x d => { d with database := some x }⟩,
  ⟨⟨"tables", false, .listOf TablePlan.kind⟩, Document.sequence TablePlan.record.read,
    Draft.tables, fun x d => { d with tables := some x }⟩,
  ⟨⟨"raw_sql", false, .listOf .text⟩, Document.sequence Document.string, Draft.rawSql,
    fun x d => { d with rawSql := some x }⟩]

private theorem uses_slots : record.Uses slots where
  closed := rfl
  fields := rfl
  nodup := by decide
  dateless := by simp [slots, Record.dateTimeKey]
  start := by simp [slots, record]
  put := by simp [slots, record, put]
  get_set := by simp [slots]
  get_set_of_ne := by simp [slots]
  ext := by
    rintro ⟨⟩ ⟨⟩ same
    simpa [slots] using same
  finish := by
    rintro ⟨version, database, tables, rawSql⟩
    cases version with
    | none => simp [slots, record, finish, Document.require, Bind.bind, Except.bind]
    | some version =>
      cases database with
      | none => simp [slots, record, finish, Document.require, Bind.bind, Except.bind]
      | some database => simpa [slots] using ⟨_, rfl⟩
  reads := by
    simp [slots, reads_string, reads_signed64, reads_sequence, DatabasePlan.reads_record,
      TablePlan.reads_record]

private theorem reads_record : Reads record.read kind := by
  refine Record.reads_record uses_slots fun entries p => ?_
  simp only [slots, List.forall_mem_cons]
  constructor
  · rintro ⟨⟨version, database, tables, rawSql⟩, ⟨versioned, based, listed, sent, -⟩, made⟩
    cases version with
    | none => exact nomatch made
    | some version =>
      cases database with
      | none => exact nomatch made
      | some database =>
        obtain rfl := Except.ok.inj made
        exact ⟨versioned, based, ⟨tables, listed, rfl⟩, rawSql, sent, rfl⟩
  · rintro ⟨versioned, based, ⟨tables, listed, same⟩, rawSql, sent, same'⟩
    refine ⟨⟨some p.version, some p.database, tables, rawSql⟩,
      ⟨versioned, based, listed, sent, nofun⟩, ?_⟩
    cases p
    subst same same'
    rfl

section

variable {entries : List (String × Toml.Value)} {p : Plan}

private theorem accepts_iff (distinct : Distinct (.table entries))
    (tabular : kind.Tabular (.table entries)) :
    (∃ p, record.ofEntries entries = .ok p) ↔ Keyed keys entries := by
  have accepts := reads_record.accepts _ distinct tabular
  rw [kind, Kind.fits_table_iff] at accepts
  exact accepts

private theorem holds_iff (distinct : Distinct (.table entries))
    (tabular : kind.Tabular (.table entries)) :
    record.ofEntries entries = .ok p ↔
      (∀ e ∈ entries, ∃ k ∈ keys, k.name = e.1) ∧ MeantBy entries p := by
  have means := reads_record.means _ p distinct tabular
  rw [kind, Kind.means_table_iff] at means
  exact means

/-- A document in which no table has a key twice, and no array stands where a table is wanted, is
read as a plan exactly if each entry has a key that is known there, with a value of its kind, and no
key that is required is absent, in the tables inside just as outside. The plan is then what the
entries mean. Any other order of the entries in any of the tables gives the same. -/
theorem ofEntries_exact (entries : List (String × Toml.Value))
    (distinct : Distinct (.table entries)) (tabular : kind.Tabular (.table entries)) :
    ((∃ p, record.ofEntries entries = .ok p) ↔ Keyed keys entries) ∧
    (∀ p, record.ofEntries entries = .ok p ↔
      (∀ e ∈ entries, ∃ k ∈ keys, k.name = e.1) ∧ MeantBy entries p) ∧
    ∀ entries', Rearranged (.table entries) (.table entries') →
      ∀ p, record.ofEntries entries = .ok p ↔ record.ofEntries entries' = .ok p := by
  refine ⟨accepts_iff distinct tabular, fun p => holds_iff distinct tabular, ?_⟩
  intro entries' moved p
  exact reads_record.stable _ _ p distinct tabular moved

/-- The keys of a column and of the document may be in any order, but a database has to be there. -/
theorem ofEntries_of_shop :
    let length : String × Toml.Value := ("length", .integer 12)
    let name (s : String) : String × Toml.Value := ("name", .string s)
    let version : String × Toml.Value := ("schema_version", .integer 2)
    let database : String × Toml.Value :=
      ("database", .table [("existing", .boolean true), name "shop"])
    let tables (column : List (String × Toml.Value)) : String × Toml.Value :=
      ("tables", .array [.table [name "users", ("columns", .array [.table column])]])
    let plan : Plan := ⟨2, ⟨"shop", none, true⟩,
      [⟨"users", none, none, [⟨"id", none, some 12, none, false, none, false⟩]⟩], []⟩
    record.ofEntries [tables [length, name "id"], database, version] = .ok plan ∧
      record.ofEntries [version, database, tables [name "id", length]] = .ok plan ∧
      ¬ ∃ p, record.ofEntries [tables [length, name "id"], version] = .ok p := by
  intro length name version database tables plan
  have text (s : String) : Distinct (.string s) := nofun
  have number (n : Int) : Distinct (.integer n) := nofun
  have flag (b : Bool) : Distinct (.boolean b) := nofun
  have distinct : Distinct (.table [tables [length, name "id"], database, version]) := by
    simp [tables, database, version, length, name, distinct_table_iff, distinct_array_iff, text,
      number, flag]
  have distinct' : Distinct (.table [tables [length, name "id"], version]) := by
    simp [tables, version, length, name, distinct_table_iff, distinct_array_iff, text, number]
  have users : (Kind.listOf TablePlan.kind).Tabular (tables [length, name "id"]).2 := by
    simp [tables, name, Kind.tabular_array_iff, TablePlan.tabular_table_iff,
      ColumnPlan.tabular_table]
  have tabular : kind.Tabular (.table [tables [length, name "id"], database, version]) := by
    refine tabular_table_iff.mpr ⟨?_, ?_⟩
    · simp [tables, database, version, DatabasePlan.tabular_table]
    · simpa [tables, database, version] using users
  have tabular' : kind.Tabular (.table [tables [length, name "id"], version]) := by
    refine tabular_table_iff.mpr ⟨?_, ?_⟩
    · simp [tables, version]
    · simpa [tables, version] using users
  have column : Rearranged (.table [length, name "id"]) (.table [name "id", length]) :=
    .table (.swap _ _ _) rfl (.cons (.same _) (.cons (.same _) .nil))
  have table : Rearranged (.table [name "users", ("columns", .array [.table [length, name "id"]])])
      (.table [name "users", ("columns", .array [.table [name "id", length]])]) :=
    .table (.refl _) rfl (.cons (.same _) (.cons (.array (.cons column .nil)) .nil))
  have moved : Rearranged (.table [tables [length, name "id"], database, version])
      (.table [version, database, tables [name "id", length]]) :=
    .table (List.reverse_perm _).symm rfl
      (.cons (.same _) (.cons (.same _) (.cons (.array (.cons table .nil)) .nil)))
  obtain ⟨-, -, stable⟩ := ofEntries_exact _ distinct tabular
  obtain ⟨accepts, -, -⟩ := ofEntries_exact _ distinct' tabular'
  refine ⟨rfl, (stable _ moved plan).mp rfl, fun accepted => ?_⟩
  have complete := (accepts.mp accepted).complete
  simp [keys, tables, version] at complete

private theorem parse_ok_iff {text : String} (read : Toml.read? text = some entries) :
    parse text = .ok p ↔ record.ofEntries entries = .ok p := by
  unfold parse
  simp only [read]
  cases record.ofEntries entries <;> simp [Except.mapError]

/-- A text that is a document needs no more: its tables have no key twice. -/
theorem parse_exact {text : String} (read : Toml.read? text = some entries)
    (tabular : kind.Tabular (.table entries)) :
    ((∃ p, parse text = .ok p) ↔ Keyed keys entries) ∧
      ∀ p, parse text = .ok p ↔
        (∀ e ∈ entries, ∃ k ∈ keys, k.name = e.1) ∧ MeantBy entries p := by
  have distinct := Toml.distinct_of_read? read
  simp only [parse_ok_iff read]
  exact ⟨accepts_iff distinct tabular, fun p => holds_iff distinct tabular⟩

end

end Plan

end SchemaGate
