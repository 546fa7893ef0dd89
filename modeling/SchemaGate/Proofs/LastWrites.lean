import SchemaGate.Schema.Table
/-!
Columns and tables as changes leave them. A change of a column overwrites its default or says anew
whether null is allowed; a change of a table adds a column, or overwrites the key or the collation.
Main statement: what is rendered depends on nothing but the last change of each kind and the columns
in the order they were added.
-/

set_option autoImplicit false

namespace SchemaGate.Schema

section Writes

variable {α β : Type}

def lastWrite (written : α → Option β) (changes : List α) : Option β :=
  (changes.filterMap written).getLast?

private theorem lastWrite_cons (written : α → Option β) (change : α) (changes : List α) :
    lastWrite written (change :: changes) = (lastWrite written changes).or (written change) := by
  unfold lastWrite
  cases wrote : written change with
  | none => rw [List.filterMap_cons_none wrote, Option.or_none]
  | some v => rw [List.filterMap_cons_some wrote, List.getLast?_cons, Option.or_some]

end Writes

def SqlType.lengthBehind : Option Nat → String
  | none => ""
  | some n => "(" ++ Text.ofNat n ++ ")"

private theorem SqlType.render_eq (type : SqlType) (length : Option Nat) :
    type.render length = type.keyword ++ lengthBehind length := by
  cases length with
  | none => exact String.append_empty.symm
  | some n => simp only [render, lengthBehind, String.append_assoc]

def Default.behind : Default → String
  | unset => ""
  | null => " DEFAULT NULL"
  | literal text => " DEFAULT " ++ text

namespace Column

/-- A change made to a column: its default set or taken away, or null allowed or forbidden. -/
inductive Change where
  | default (d : Default)
  | nullability (nullable : Bool)
  deriving DecidableEq, Repr

namespace Change

def default? : Change → Option Default
  | default d => some d
  | nullability _ => none

def nullable? : Change → Option Bool
  | default _ => none
  | nullability nullable => some nullable

def apply (c : Column) : Change → Column
  | default d => c.withDefault d
  | nullability nullable => c.withNullable nullable

end Change

def changed (c : Column) (changes : List Change) : Column := changes.foldl Change.apply c

private theorem apply_eq (c : Column) (change : Change) :
    change.apply c = ⟨c.name, c.body, change.default?.getD c.default,
      change.nullable?.getD c.nullable⟩ := by
  cases change with
  | default d => rfl
  | nullability nullable => rfl

private theorem changed_eq (c : Column) (changes : List Change) :
    c.changed changes = ⟨c.name, c.body, (lastWrite Change.default? changes).getD c.default,
      (lastWrite Change.nullable? changes).getD c.nullable⟩ := by
  induction changes generalizing c with
  | nil => rfl
  | cons change changes ih =>
    have step : c.changed (change :: changes) = (change.apply c).changed changes := rfl
    rw [step, ih, apply_eq, lastWrite_cons, lastWrite_cons, Option.getD_or, Option.getD_or]

private theorem render_of_typed {c : Column} {type : SqlType} {length : Option Nat}
    (h : c.body = .typed type length) :
    c.render = Identifier.quote c.name ++ " " ++ type.keyword ++ SqlType.lengthBehind length ++
      " " ++ c.nullability ++ c.default.behind := by
  rw [render, h]
  cases c.default with
  | unset => simp [SqlType.render_eq, Default.clause?, Default.behind, String.append_assoc]
  | null => simp [SqlType.render_eq, Default.clause?, Default.behind, String.append_assoc]
  | literal text =>
    have clause : " DEFAULT " ++ text = " " ++ ("DEFAULT " ++ text) := by
      rw [← String.append_assoc]
      rfl
    simp [SqlType.render_eq, Default.clause?, Default.behind, String.append_assoc, clause]

private theorem render_typed_changed (name : String) (type : SqlType) (length : Option Nat)
    (changes : List Change) :
    ((typed name type length).changed changes).render =
      Identifier.quote name ++ " " ++ type.keyword ++ SqlType.lengthBehind length ++
        (if lastWrite Change.nullable? changes = some true then " NULL" else " NOT NULL") ++
        ((lastWrite Change.default? changes).getD .unset).behind := by
  have words (text : String) (c : Column) :
      text ++ " " ++ c.nullability =
        text ++ if c.nullable = true then " NULL" else " NOT NULL" := by
    rw [String.append_assoc, nullability]
    cases c.nullable <;> rfl
  rw [changed_eq, render_of_typed rfl, words]
  cases lastWrite Change.nullable? changes with
  | none => rfl
  | some nullable => cases nullable <;> rfl

private theorem render_verbatim_changed (name fragment : String) (changes : List Change) :
    ((verbatim name fragment).changed changes).render =
      Identifier.quote name ++ " " ++ fragment := by
  rw [changed_eq]
  rfl

end Column

namespace Table

inductive Change where
  | column (c : Column)
  | key (name : String)
  | collation (text : String)
  deriving DecidableEq, Repr

namespace Change

def column? : Change → Option Column
  | column c => some c
  | _ => none

def key? : Change → Option String
  | key name => some name
  | _ => none

def collation? : Change → Option String
  | collation text => some text
  | _ => none

def apply (t : Table) : Change → Table
  | column c => t.addColumn c
  | key name => t.withPrimaryKey name
  | collation text => t.withCollation text

end Change

def changed (t : Table) (changes : List Change) : Table := changes.foldl Change.apply t

private theorem apply_eq (t : Table) (change : Change) :
    change.apply t = ⟨t.name, t.columns ++ change.column?.toList,
      change.collation?.getD t.collation, change.key?.or t.primaryKey⟩ := by
  cases change with
  | column c => rfl
  | key name =>
    exact congrArg (Table.mk t.name · t.collation (some name)) (List.append_nil _).symm
  | collation text =>
    exact congrArg (Table.mk t.name · text t.primaryKey) (List.append_nil _).symm

private theorem changed_eq (t : Table) (changes : List Change) :
    t.changed changes = ⟨t.name, t.columns ++ changes.filterMap Change.column?,
      (lastWrite Change.collation? changes).getD t.collation,
      (lastWrite Change.key? changes).or t.primaryKey⟩ := by
  induction changes generalizing t with
  | nil => simp [changed, lastWrite]
  | cons change changes ih =>
    have step : t.changed (change :: changes) = (change.apply t).changed changes := rfl
    have columns : change.column?.toList ++ changes.filterMap Change.column? =
        (change :: changes).filterMap Change.column? := by
      cases change <;> rfl
    rw [step, ih, apply_eq, lastWrite_cons, lastWrite_cons, Option.getD_or, Option.or_assoc,
      List.append_assoc, columns]

/-- Columns between commas, and the key, if there is one, behind the last of them. -/
def listing (columns : List Column) : Option String → String
  | none => ", ".intercalate (columns.map Column.render)
  | some key =>
    if columns.isEmpty then "PRIMARY KEY (" ++ Identifier.quote key ++ ")"
    else ", ".intercalate (columns.map Column.render) ++
      ", PRIMARY KEY (" ++ Identifier.quote key ++ ")"

private theorem renderColumns_eq_listing (t : Table) :
    t.renderColumns = listing t.columns t.primaryKey := by
  unfold renderColumns
  cases t.primaryKey with
  | none =>
    rw [Option.toList_none, List.map_nil, List.append_nil]
    rfl
  | some key =>
    rw [Option.toList_some, List.map_singleton]
    cases t.columns with
    | nil => exact String.intercalate_singleton
    | cons c columns =>
      have some_columns : (c :: columns).map Column.render ≠ [] := List.cons_ne_nil _ _
      have joined : ", " ++ keyClause key = ", PRIMARY KEY (" ++ Identifier.quote key ++ ")" := by
        rw [keyClause, ← String.append_assoc, ← String.append_assoc]
        rfl
      rw [String.intercalate_append_of_ne_nil some_columns (List.cons_ne_nil _ _),
        String.intercalate_singleton, String.append_assoc, joined, ← String.append_assoc,
        ← String.append_assoc]
      rfl

private theorem render_eq (t : Table) (database : String) :
    t.render database =
      "CREATE TABLE " ++ Identifier.quote database ++ "." ++ Identifier.quote t.name ++ " ( " ++
        listing t.columns t.primaryKey ++ " ) COLLATE='" ++ t.collation ++ "';" := by
  rw [← renderColumns_eq_listing]
  rfl

private theorem render_named_changed (name database : String) (changes : List Change) :
    ((named name).changed changes).render database =
      "CREATE TABLE " ++ Identifier.quote database ++ "." ++ Identifier.quote name ++ " ( " ++
        listing (changes.filterMap Change.column?) (lastWrite Change.key? changes) ++
        " ) COLLATE='" ++ (lastWrite Change.collation? changes).getD defaultCollation ++ "';" := by
  have written : (named name).changed changes = ⟨name, changes.filterMap Change.column?,
      (lastWrite Change.collation? changes).getD defaultCollation,
      lastWrite Change.key? changes⟩ := by
    rw [changed_eq, named, List.nil_append, Option.or_none]
  rw [render_eq, written]

end Table

open Identifier (quote)

/-- Changes made to a column or a table from its beginning, in any order and any number. A typed
column states its type with its length, null as the last word on it says and else not allowed, and
the clause of the last default, if that is one; a verbatim column states its fragment. A table
states its columns in the order they were added, then the last key, and the last collation, so the
order of changes of different kinds does not matter. -/
theorem rendered_from_last_writes :
    (∀ (name : String) (type : SqlType) (length : Option Nat) (changes : List Column.Change),
      ((Column.typed name type length).changed changes).render =
        quote name ++ " " ++ type.keyword ++ SqlType.lengthBehind length ++
          (if lastWrite Column.Change.nullable? changes = some true then " NULL"
            else " NOT NULL") ++
          ((lastWrite Column.Change.default? changes).getD .unset).behind) ∧
    (∀ (name fragment : String) (changes : List Column.Change),
      ((Column.verbatim name fragment).changed changes).render = quote name ++ " " ++ fragment) ∧
    (∀ (name database : String) (changes : List Table.Change),
      ((Table.named name).changed changes).render database =
        "CREATE TABLE " ++ quote database ++ "." ++ quote name ++ " ( " ++
          Table.listing (changes.filterMap Table.Change.column?)
            (lastWrite Table.Change.key? changes) ++
          " ) COLLATE='" ++
          (lastWrite Table.Change.collation? changes).getD defaultCollation ++ "';") ∧
    ∀ (name database : String) (changes others : List Table.Change),
      changes.filterMap Table.Change.column? = others.filterMap Table.Change.column? →
      lastWrite Table.Change.key? changes = lastWrite Table.Change.key? others →
      (lastWrite Table.Change.collation? changes).getD defaultCollation =
        (lastWrite Table.Change.collation? others).getD defaultCollation →
      ((Table.named name).changed changes).render database =
        ((Table.named name).changed others).render database := by
  refine ⟨Column.render_typed_changed, Column.render_verbatim_changed,
    Table.render_named_changed, ?_⟩
  intro name database changes others columns key collation
  rw [Table.render_named_changed, Table.render_named_changed, columns, key, collation]

/-- A key named first, last or twice stands behind the columns, one of which is added twice. -/
theorem rendered_from_key_first_or_last :
    let id := (Column.typed "id" .int (some 11)).changed
      [.nullability true, .default .null, .nullability false, .default (.literal "7")]
    let info := (Column.verbatim "info" "JSON").changed [.nullability true, .default .null]
    let early : List Table.Change := [.key "no", .collation "ascii_bin", .column id, .key "id",
      .column info, .collation "utf8mb4_bin", .column id]
    let late : List Table.Change := [.column id, .column info, .column id,
      .collation "utf8mb4_bin", .key "id"]
    id.render = "`id` INT(11) NOT NULL DEFAULT 7" ∧ info.render = "`info` JSON" ∧
      ((Table.named "t").changed early).render "db" =
        ((Table.named "t").changed late).render "db" ∧
      ((Table.named "t").changed late).render "db" =
        "CREATE TABLE `db`.`t` ( `id` INT(11) NOT NULL DEFAULT 7, `info` JSON, " ++
          "`id` INT(11) NOT NULL DEFAULT 7, PRIMARY KEY (`id`) ) COLLATE='utf8mb4_bin';" := by
  intro id info early late
  obtain ⟨typed, verbatim, table, same⟩ := rendered_from_last_writes
  exact ⟨(typed "id" .int (some 11) _).trans (by decide),
    (verbatim "info" "JSON" _).trans (by decide), same "t" "db" early late rfl rfl rfl,
    (table "t" "db" late).trans (by decide)⟩

end SchemaGate.Schema
