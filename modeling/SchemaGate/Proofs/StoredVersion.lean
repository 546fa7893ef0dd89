import SchemaGate.MySql.Session
import SchemaGate.Proofs.CellReading
import SchemaGate.Proofs.Execution
import SchemaGate.Proofs.ListReading
/-!
What a version query over the wire finds. The rows of a reply are those of its result sets, if no
set is an error and every column has a known type; the version is read from one cell of the first
row. Main statement: no version is found exactly when there is no such cell, or it is `NULL`, or its
bytes have no reading in its column.
-/

set_option autoImplicit false

namespace SchemaGate.MySql

def Header.shownName (h : Header) : String := if h.otherName.isEmpty then h.name else h.otherName

def Header.read (h : Header) (cell : Option Text.Bytes) : Value :=
  match h.column with
  | .ok c => readCell c cell
  | .error _ => .null

/-- A result set that is no failure: no error, and no column of an unknown type. -/
inductive ResultSet.Understood : ResultSet → Prop where
  | done : Understood .done
  | table (headers : List Header) (rows : List (List (Option Text.Bytes)))
      (known : ∀ h ∈ headers, ∃ type, ColumnType.ofCode? h.code = some type) :
      Understood (.table headers rows)

def firstRow? : List ResultSet → Option (List (Header × Option Text.Bytes))
  | [] => none
  | .table headers (cells :: _) :: _ => some (headers.zip cells)
  | _ :: reply => firstRow? reply

/-- The cell that holds the version: the first below `value`, else the first of all. -/
def versionCell? (cells : List (Header × Option Text.Bytes)) :
    Option (Header × Option Text.Bytes) :=
  (cells.find? fun p => p.1.shownName == "value").or cells.head?

inductive Versionless (reply : List ResultSet) : Prop where
  | noRow (h : firstRow? reply = none)
  | noColumn (cells : List (Header × Option Text.Bytes)) (row : firstRow? reply = some cells)
      (h : versionCell? cells = none)
  | null (cells : List (Header × Option Text.Bytes)) (header : Header)
      (row : firstRow? reply = some cells) (h : versionCell? cells = some (header, none))
  | unread (cells : List (Header × Option Text.Bytes)) (header : Header) (bytes : Text.Bytes)
      (type : ColumnType) (row : firstRow? reply = some cells)
      (h : versionCell? cells = some (header, some bytes))
      (known : ColumnType.ofCode? header.code = some type)
      (unread : ¬ Readable type header.unsigned bytes)

section Headers

theorem Header.column_ok_iff {h : Header} {c : Column} :
    h.column = .ok c ↔ ∃ type, ColumnType.ofCode? h.code = some type ∧
      c = ⟨h.shownName, type, h.unsigned, h.binary⟩ := by
  unfold Header.column
  cases ColumnType.ofCode? h.code with
  | none => simp
  | some type =>
    simp only [Except.ok.injEq, Option.some.injEq, exists_eq_left']
    exact eq_comm

theorem Header.read_eq {h : Header} {type : ColumnType}
    (known : ColumnType.ofCode? h.code = some type) (cell : Option Text.Bytes) :
    h.read cell = readCell ⟨h.shownName, type, h.unsigned, h.binary⟩ cell := by
  rw [Header.read, Header.column_ok_iff.mpr ⟨type, known, rfl⟩]

theorem readRow_eq {headers : List Header} {columns : List Column}
    (read : headers.mapM Header.column = .ok columns) (cells : List (Option Text.Bytes)) :
    readRow columns cells =
      ⟨(headers.zip cells).map fun p => (p.1.shownName, p.1.read p.2)⟩ := by
  rw [readRow, Row.mk.injEq]
  induction headers generalizing columns cells with
  | nil =>
    obtain rfl := Except.ok.inj read
    rfl
  | cons h headers ih =>
    obtain ⟨c, rest, head, tail, rfl⟩ := mapM_cons_ok_iff.mp read
    cases cells with
    | nil => rfl
    | cons cell cells =>
      obtain ⟨type, known, rfl⟩ := Header.column_ok_iff.mp head
      rw [List.zip_cons_cons, List.zip_cons_cons, List.map_cons, List.map_cons, ih tail,
        Header.read_eq known]

theorem versionValue?_readings (cells : List (Header × Option Text.Bytes)) :
    Gate.versionValue? ⟨cells.map fun p => (p.1.shownName, p.1.read p.2)⟩ =
      (versionCell? cells).map fun p => p.1.read p.2 := by
  simp only [Gate.versionValue?, versionCell?, Row.get?, Row.first?, List.find?_map,
    List.head?_map, Option.map_map, Option.map_or]
  rfl

end Headers

section Replies

private theorem rowsOf_table_ok_iff {headers : List Header}
    {table : List (List (Option Text.Bytes))}
    {rows : List Row} :
    Session.rowsOf (.table headers table) = .ok rows ↔
      ∃ columns, headers.mapM Header.column = .ok columns ∧ rows = table.map (readRow columns) := by
  rw [Session.rowsOf]
  cases headers.mapM Header.column with
  | error e => simp [Except.map]
  | ok columns =>
    simp only [Except.map, Except.ok.injEq, exists_eq_left']
    exact eq_comm

private theorem rowsOf_understood {set : ResultSet} {rows : List Row}
    (read : Session.rowsOf set = .ok rows) : set.Understood := by
  cases set with
  | done => exact .done
  | error e => simp [Session.rowsOf] at read
  | close => simp [Session.rowsOf] at read
  | table headers table =>
    refine .table headers table fun h member => ?_
    obtain ⟨columns, all, -⟩ := rowsOf_table_ok_iff.mp read
    obtain ⟨c, column⟩ := exists_mapM_ok_iff.mp ⟨columns, all⟩ h member
    obtain ⟨type, known, -⟩ := Header.column_ok_iff.mp column
    exact ⟨type, known⟩

private theorem exists_rowsOf {set : ResultSet} (understood : set.Understood) :
    ∃ rows, Session.rowsOf set = .ok rows := by
  cases understood with
  | done => exact ⟨[], rfl⟩
  | table headers table known =>
    have each : ∀ h ∈ headers, ∃ c, h.column = .ok c := by
      intro h member
      obtain ⟨type, code⟩ := known h member
      exact ⟨_, Header.column_ok_iff.mpr ⟨type, code, rfl⟩⟩
    obtain ⟨columns, all⟩ := exists_mapM_ok_iff.mpr each
    exact ⟨_, rowsOf_table_ok_iff.mpr ⟨columns, all, rfl⟩⟩

private theorem readReply_ok_iff {reply : List ResultSet} {rows : List Row} :
    Session.readReply reply = .ok rows ↔
      ∃ tables, reply.mapM Session.rowsOf = .ok tables ∧ rows = tables.flatten := by
  rw [Session.readReply]
  cases reply.mapM Session.rowsOf with
  | error e => simp [Except.map]
  | ok tables =>
    simp only [Except.map, Except.ok.injEq, exists_eq_left']
    exact eq_comm

theorem exists_readReply_iff {reply : List ResultSet} :
    (∃ rows, Session.readReply reply = .ok rows) ↔ ∀ set ∈ reply, set.Understood := by
  have sets : (∃ rows, Session.readReply reply = .ok rows) ↔
      ∃ tables, reply.mapM Session.rowsOf = .ok tables := by
    simp only [readReply_ok_iff]
    rw [exists_comm]
    simp
  rw [sets, exists_mapM_ok_iff]
  refine forall₂_congr fun set _ => ⟨?_, exists_rowsOf⟩
  rintro ⟨rows, read⟩
  exact rowsOf_understood read

private theorem readReply_cons_ok_iff {set : ResultSet} {reply : List ResultSet} {rows : List Row} :
    Session.readReply (set :: reply) = .ok rows ↔
      ∃ first rest, Session.rowsOf set = .ok first ∧ Session.readReply reply = .ok rest ∧
        rows = first ++ rest := by
  simp only [readReply_ok_iff, mapM_cons_ok_iff]
  constructor
  · rintro ⟨_, ⟨first, tables, head, tail, rfl⟩, rfl⟩
    exact ⟨first, tables.flatten, head, ⟨tables, tail, rfl⟩, List.flatten_cons⟩
  · rintro ⟨first, _, head, ⟨tables, tail, rfl⟩, rfl⟩
    exact ⟨first :: tables, ⟨first, tables, head, tail, rfl⟩, List.flatten_cons.symm⟩

theorem head?_readReply {reply : List ResultSet} {rows : List Row}
    (read : Session.readReply reply = .ok rows) :
    rows.head? = (firstRow? reply).map fun cells =>
      ⟨cells.map fun p => (p.1.shownName, p.1.read p.2)⟩ := by
  induction reply generalizing rows with
  | nil =>
    obtain rfl := Except.ok.inj read
    rfl
  | cons set reply ih =>
    obtain ⟨first, rest, head, tail, rfl⟩ := readReply_cons_ok_iff.mp read
    cases set with
    | done =>
      obtain rfl := Except.ok.inj head
      exact ih tail
    | error e => simp [Session.rowsOf] at head
    | close => simp [Session.rowsOf] at head
    | table headers table =>
      obtain ⟨columns, all, rfl⟩ := rowsOf_table_ok_iff.mp head
      cases table with
      | nil => exact ih tail
      | cons cells table =>
        rw [List.map_cons, List.cons_append, List.head?_cons, readRow_eq all]
        rfl

private theorem mem_of_versionCell? {cells : List (Header × Option Text.Bytes)}
    {p : Header × Option Text.Bytes} (h : versionCell? cells = some p) : p ∈ cells := by
  rcases Option.or_eq_some_iff.mp h with named | ⟨-, first⟩
  · exact List.mem_of_find?_eq_some named
  · exact List.mem_of_head? first

private theorem known_of_firstRow? {reply : List ResultSet}
    {cells : List (Header × Option Text.Bytes)}
    (understood : ∀ set ∈ reply, set.Understood) (row : firstRow? reply = some cells) :
    ∀ p ∈ cells, ∃ type, ColumnType.ofCode? p.1.code = some type := by
  induction reply with
  | nil => simp [firstRow?] at row
  | cons set reply ih =>
    obtain ⟨first, rest⟩ := List.forall_mem_cons.mp understood
    cases first with
    | done => exact ih rest row
    | table headers table known =>
      cases table with
      | nil => exact ih rest row
      | cons values table =>
        obtain rfl := Option.some.inj row
        intro p member
        exact known p.1 (List.of_mem_zip member).1

private theorem lacksVersion_iff {reply : List ResultSet} {rows : List Row}
    (read : Session.readReply reply = .ok rows) :
    Gate.LacksVersion rows ↔ Versionless reply := by
  have head := head?_readReply read
  have understood := exists_readReply_iff.mp ⟨rows, read⟩
  cases row : firstRow? reply with
  | none =>
    rw [row, Option.map_none, List.head?_eq_none_iff] at head
    exact iff_of_true (.inl head) (.noRow row)
  | some cells =>
    rw [row, Option.map_some, List.head?_eq_some_iff] at head
    obtain ⟨rest, rfl⟩ := head
    rw [Gate.lacksVersion_cons_iff, versionValue?_readings]
    cases found : versionCell? cells with
    | none => exact iff_of_true (.inl rfl) (.noColumn cells row found)
    | some p =>
      obtain ⟨header, cell⟩ := p
      obtain ⟨type, known⟩ := known_of_firstRow? understood row _ (mem_of_versionCell? found)
      rw [Option.map_some, Header.read_eq known]
      cases cell with
      | none => exact iff_of_true (.inr rfl) (.null cells header row found)
      | some bytes =>
        constructor
        · rintro (none | null)
          · simp at none
          · have unread := readCell_eq_null_iff.mp (Option.some.inj null)
            exact .unread cells header bytes type row found known unread
        · intro versionless
          refine .inr (congrArg some (readCell_eq_null_iff.mpr ?_))
          rcases versionless with h | ⟨cells', row', h⟩ | ⟨cells', header', row', h⟩ |
            ⟨cells', header', bytes', type', row', h, known', unread⟩
          · simp [row] at h
          all_goals
            obtain rfl := Option.some.inj (row.symm.trans row')
            rw [found] at h
          · simp at h
          · simp at h
          · simp only [Option.some.injEq, Prod.mk.injEq] at h
            obtain ⟨rfl, rfl⟩ := h
            obtain rfl := Option.some.inj (known.symm.trans known')
            exact unread

end Replies

open Exchange (against)

theorem server_answer_of_open {s : Session} (h : s.closed = false) (sql : String) :
    Session.server.answer sql s =
      ((Session.readReply (s.replies.headD [])).mapError .sql,
        { s with
          replies := s.replies.drop 1
          received := s.received ++ [sql]
          closed := Session.closes (s.replies.headD []) }) := by
  simp [Session.server, Session.answer, h]

structure Session.AnswersNoVersion (s : Session) : Prop where
  opened : s.closed = false
  understood : ∀ set ∈ s.replies.headD [], set.Understood
  versionless : Versionless (s.replies.headD [])

private theorem schemaVersion_eq_none_iff (s : Session) (database : String) :
    (against Session.server (Gate.schemaVersion database) s).result = .ok none ↔
      s.AnswersNoVersion := by
  have conditions : s.AnswersNoVersion ↔ s.closed = false ∧
      (∀ set ∈ s.replies.headD [], set.Understood) ∧ Versionless (s.replies.headD []) :=
    ⟨fun h => ⟨h.opened, h.understood, h.versionless⟩, fun h => ⟨h.1, h.2.1, h.2.2⟩⟩
  rw [conditions]
  cases closed : s.closed with
  | true =>
    have refused : Session.server.answer (Gate.versionQuery database) s =
        (.error (.sql .closed), s) := if_pos closed
    rw [Gate.against_schemaVersion_error refused]
    simp
  | false =>
    have answered := server_answer_of_open closed (Gate.versionQuery database)
    rw [← exists_readReply_iff]
    cases read : Session.readReply (s.replies.headD []) with
    | error fault =>
      rw [read] at answered
      rw [Gate.against_schemaVersion_error answered]
      simp
    | ok rows =>
      rw [read] at answered
      rw [Gate.against_schemaVersion_ok answered, Gate.readVersion_eq_none_iff,
        lacksVersion_iff read]
      simp

/-- A look-up ends with the version that stands for a missing one exactly when the database exists
and its version is missing, or is stored as just that. -/
private theorem lookUp_missing_iff {σ : Type} (server : Server σ) (t : σ) (name : String) :
    let found := against server (Gate.databaseExists name) t
    let stored := (against server (Gate.schemaVersion name) found.state).result
    (against server (Script.lookUp name) t).result = .ok (some Gate.missingVersion) ↔
      found.result = .ok true ∧ (stored = .ok none ∨ stored = .ok (some Gate.missingVersion)) := by
  simp only [Script.lookUp, Exchange.against_bind, Exchange.against_orFail]
  rcases against server (Gate.databaseExists name) t with ⟨result, notes, asked, opened, u⟩
  rcases result with e | (_ | _)
  · simp [Run.mapError_error, Run.andOnward_error]
  · simp [Run.mapError_ok, Run.andOnward_ok, Exchange.against_tell, Exchange.against_pure,
      Run.still]
  · simp only [Run.mapError_ok, Run.andOnward_ok, Exchange.against_tell, if_true, true_and,
      Exchange.against_bind, Exchange.against_orFail]
    rcases against server (Gate.schemaVersion name) u with ⟨stored, notes, asked, opened, v⟩
    rcases stored with e | (_ | version)
    · simp [Run.mapError_error, Run.andOnward_error]
    · simp [Run.mapError_ok, Run.andOnward_ok, Exchange.against_pure, Run.still]
    · simp [Run.mapError_ok, Run.andOnward_ok, Exchange.against_pure, Run.still]

/-- The version query over the wire finds no version exactly when its reply is understood and has no
cell for one, or `NULL` in it, or bytes without a reading. The gate compares with the version that
stands for a missing one only then, or when just that version is stored. -/
theorem missing_version_exact (s : Session) (name : String) :
    let found := against Session.server (Gate.databaseExists name) s
    let stored := fun t => (against Session.server (Gate.schemaVersion name) t).result
    (stored s = .ok none ↔ s.AnswersNoVersion) ∧
      ((against Session.server (Script.lookUp name) s).result = .ok (some Gate.missingVersion) ↔
        found.result = .ok true ∧ (found.state.AnswersNoVersion ∨
          stored found.state = .ok (some Gate.missingVersion))) := by
  intro found stored
  refine ⟨schemaVersion_eq_none_iff s name, ?_⟩
  have absent := schemaVersion_eq_none_iff found.state name
  exact (lookUp_missing_iff Session.server s name).trans
    (and_congr_right fun _ => or_congr_left absent)

/-- A version that is stored as a decimal counts as missing. -/
theorem decimal_version_missing :
    let cells : List (Header × Option Text.Bytes) :=
      [(⟨"value", "", 246, false, false⟩, some (Text.utf8 "5"))]
    let reply : List ResultSet := [.table (cells.map Prod.fst) [cells.map Prod.snd]]
    let listing : List ResultSet :=
      [.table [⟨"Database (shop)", "", 253, false, false⟩] [[some (Text.utf8 "shop")]]]
    versionCell? cells = some (⟨"value", "", 246, false, false⟩, some (Text.utf8 "5")) ∧
      (against Session.server (Gate.schemaVersion "shop") (.prepared "" none [reply])).result =
        .ok none ∧
      (against Session.server (Script.lookUp "shop") (.prepared "" none [listing, reply])).result =
        .ok (some (-1)) := by
  refine ⟨?_, ?_, ?_⟩
  · decide
  · rfl
  · rfl

end SchemaGate.MySql
