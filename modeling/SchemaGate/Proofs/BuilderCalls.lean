import Mathlib.Data.List.Infix
import SchemaGate.Proofs.Execution
import SchemaGate.Script.Build
/-!
What a chain of calls builds. A call adds statements to the queue that depend on the calls before it
only through the database they selected last. Main statement: a chain succeeds exactly if every
table comes after some database, its queue is then what its calls queue, one after the other, and
building neither opens a session nor asks anything.
-/

set_option autoImplicit false

namespace SchemaGate

variable {σ : Type}

section InTurn

variable {α : Type}

/-- Each entry of a list together with the entries before it. -/
def inTurn (l : List α) : List (List α × α) := l.inits.zip l

@[simp] theorem inTurn_nil : inTurn ([] : List α) = [] := rfl

theorem inTurn_cons (a : α) (l : List α) :
    inTurn (a :: l) = ([], a) :: (inTurn l).map fun p => (a :: p.1, p.2) := by
  simp [inTurn, List.zip_map_left]

theorem inTurn_append (l m : List α) :
    inTurn (l ++ m) = inTurn l ++ (inTurn m).map fun p => (l ++ p.1, p.2) := by
  induction l with
  | nil => simp
  | cons a l ih => simp [inTurn_cons, ih, Function.comp_def]

private theorem inTurn_concat (l : List α) (a : α) : inTurn (l ++ [a]) = inTurn l ++ [(l, a)] := by
  simp [inTurn_append, inTurn_cons]

theorem mem_inTurn {l before : List α} {a : α} :
    (before, a) ∈ inTurn l ↔ ∃ after, l = before ++ a :: after := by
  induction l generalizing before with
  | nil => simp
  | cons b l ih =>
    rw [inTurn_cons, List.mem_cons, List.mem_map]
    constructor
    · rintro (first | ⟨p, member, same⟩)
      · obtain ⟨rfl, rfl⟩ := Prod.mk.inj first
        exact ⟨l, rfl⟩
      · obtain ⟨rfl, rfl⟩ := Prod.mk.inj same
        obtain ⟨after, rfl⟩ := ih.mp member
        exact ⟨after, rfl⟩
    · rintro ⟨after, split⟩
      cases before with
      | nil =>
        obtain ⟨rfl, rfl⟩ := List.cons_eq_cons.mp split
        exact .inl rfl
      | cons c before =>
        obtain ⟨rfl, rest⟩ := List.cons_eq_cons.mp split
        exact .inr ⟨(before, a), ih.mpr ⟨after, rest⟩, rfl⟩

end InTurn

def Note.message? : Note → Option (Log.Channel × String)
  | .message c text => some (c, text)
  | _ => none

namespace Script

namespace Call

def database? : Call → Option Schema.Database
  | useDatabase d => some d
  | _ => none

/-- The statements that a call queues while a database, or none, is selected. -/
def statements (selected : Option Schema.Database) : Call → List String
  | useDatabase d => if d.existing then [] else [d.render]
  | createTable t => selected.toList.map fun d => t.render d.name
  | raw sql => [sql]
  | attach .. => []

def attachment? : Call → Option (Log.Target × Log.Sink)
  | attach t sink => some (t, sink)
  | _ => none

/-- The messages that a call tells: one for each statement it queues, or the welcome of a
listener. -/
def messages (selected : Option Schema.Database) : Call → List (Log.Channel × String)
  | attach (.only c) _ => [(c, "Logging " ++ c.name ++ " events to custom logger.")]
  | attach .every _ => [(.debug, "Logging all events to custom logger.")]
  | c => (c.statements selected).map fun sql => (.trace, "Adding SQL statement to queue: " ++ sql)

end Call

/-- All that a call does to a script if it is not refused. -/
structure Makes (s : Script) (c : Call) (made : Told Script) : Prop where
  target : made.value.target = s.target
  version : made.value.version = s.version
  queue : made.value.queue = s.queue ++ c.statements s.database
  database : made.value.database = c.database?.or s.database
  emitter : made.value.emitter =
    match c.attachment? with
    | some (t, sink) => some ((s.emitter.getD .empty).subscribe t sink)
    | none => s.emitter
  messages : made.notes.filterMap Note.message? = c.messages s.database

private theorem messages_queueNotes (sql : String) : (queueNotes sql).filterMap Note.message? =
    [(.trace, "Adding SQL statement to queue: " ++ sql)] := rfl

private theorem messages_keyNotes (t : Schema.Table) :
    (keyNotes t).filterMap Note.message? = [] := by
  unfold keyNotes
  split <;> rfl

private theorem makes_useDatabase (s : Script) (d : Schema.Database) :
    Makes s (.useDatabase d) (s.useDatabase d) := by
  unfold useDatabase
  cases existing : d.existing with
  | true =>
    have none : (Call.useDatabase d).statements s.database = [] := by
      simp [Call.statements, existing]
    exact ⟨rfl, rfl, by simp [none], rfl, rfl, by simp [Call.messages, none, Note.message?]⟩
  | false =>
    have one : (Call.useDatabase d).statements s.database = [d.render] := by
      simp [Call.statements, existing]
    exact ⟨rfl, rfl, by simp [one], rfl, rfl, by simp [Call.messages, one, messages_queueNotes]⟩

private theorem makes_attach (s : Script) (t : Log.Target) (sink : Log.Sink) :
    Makes s (.attach t sink) (s.attach t sink) := by
  refine ⟨rfl, rfl, (List.append_nil s.queue).symm, rfl, rfl, ?_⟩
  cases t with
  | only c => rfl
  | every => rfl

theorem make_cases (s : Script) (c : Call) :
    (∃ made, s.make c = .ok made ∧ Makes s c made) ∨
      ∃ t, c = .createTable t ∧ s.database = none ∧
        s.make c = .error (.usage (.noDatabaseForTable t.name)) := by
  cases c with
  | useDatabase d => exact .inl ⟨_, rfl, makes_useDatabase s d⟩
  | createTable t =>
    cases selected : s.database with
    | none => exact .inr ⟨t, rfl, rfl, by simp only [make, createTable, selected]⟩
    | some d =>
      have made : s.make (.createTable t) = .ok ⟨{ s with queue := s.queue ++ [t.render d.name] },
          keyNotes t ++ queueNotes (t.render d.name)⟩ := by
        simp only [make, createTable, selected]
      refine .inl ⟨_, made, rfl, rfl, ?_, ?_, rfl, ?_⟩
      · simp only [Call.statements, selected, Option.toList_some, List.map_singleton]
      · simp only [Call.database?, Option.none_or]
      · rw [List.filterMap_append, messages_keyNotes, messages_queueNotes]
        simp only [Call.messages, Call.statements, selected, Option.toList_some, List.map_singleton,
          List.nil_append]
  | raw sql => exact .inl ⟨_, rfl, rfl, rfl, rfl, rfl, rfl, rfl⟩
  | attach t sink => exact .inl ⟨_, rfl, makes_attach s t sink⟩

/-- The database that calls select last. -/
def selection (calls : List Call) : Option Schema.Database :=
  (calls.filterMap Call.database?).getLast?

def statements (calls : List Call) : List String :=
  (inTurn calls).flatMap fun p => p.2.statements (selection p.1)

def attachments (calls : List Call) : List (Log.Target × Log.Sink) :=
  calls.filterMap Call.attachment?

/-- Each table comes after some database. -/
def Supported (calls : List Call) : Prop :=
  ∀ before t after, calls = before ++ .createTable t :: after → ∃ d, .useDatabase d ∈ before

/-- The table is the first that comes before every database; `before` are the calls before it. -/
structure FirstRefused (calls before : List Call) (t : Schema.Table) : Prop where
  split : ∃ after, calls = before ++ .createTable t :: after
  supported : Supported before
  unselected : ∀ d, .useDatabase d ∉ before

section Chains

variable {calls before : List Call} {c : Call} {t : Schema.Table}

private theorem selection_concat (calls : List Call) (c : Call) :
    selection (calls ++ [c]) = c.database?.or (selection calls) := by
  cases found : c.database? <;>
    simp [selection, List.filterMap_append, found]

theorem selection_eq_none_iff : selection calls = none ↔ ∀ d, .useDatabase d ∉ calls := by
  rw [selection, List.getLast?_eq_none_iff, List.filterMap_eq_nil_iff]
  constructor
  · intro silent d member
    exact nomatch silent _ member
  · intro absent c member
    cases c with
    | useDatabase d => exact absurd member (absent d)
    | createTable | raw | attach => rfl

private theorem statements_concat (calls : List Call) (c : Call) :
    statements (calls ++ [c]) = statements calls ++ c.statements (selection calls) := by
  simp [statements, inTurn_concat]

theorem attachments_append (calls later : List Call) :
    attachments (calls ++ later) = attachments calls ++ attachments later :=
  List.filterMap_append

private theorem supported_iff : Supported calls ↔
    ∀ before t, (before, Call.createTable t) ∈ inTurn calls → selection before ≠ none := by
  have selects (before : List Call) :
      selection before ≠ none ↔ ∃ d, .useDatabase d ∈ before := by
    rw [ne_eq, selection_eq_none_iff]
    simp only [not_forall, not_not]
  simp only [selects, mem_inTurn]
  constructor
  · rintro supported before t ⟨after, split⟩
    exact supported before t after split
  · intro supported before t after split
    exact supported before t ⟨after, split⟩

private theorem supported_concat_iff : Supported (calls ++ [c]) ↔
    Supported calls ∧ ∀ t, c = .createTable t → selection calls ≠ none := by
  simp only [supported_iff, inTurn_concat, List.mem_append, List.mem_singleton, Prod.mk.injEq]
  constructor
  · intro all
    refine ⟨fun before t member => all before t (.inl member), ?_⟩
    rintro t rfl
    exact all calls t (.inr ⟨rfl, rfl⟩)
  · rintro ⟨earlier, last⟩ before t (member | ⟨rfl, rfl⟩)
    · exact earlier before t member
    · exact last t rfl

private theorem supported_or_refused (calls : List Call) :
    Supported calls ∨ ∃ before t, FirstRefused calls before t := by
  -- The last call matters only if none before it was refused, so the induction is on the end.
  induction calls using List.reverseRecOn with
  | nil => exact .inl (supported_iff.mpr (by simp))
  | append_singleton calls c ih =>
    rcases ih with supported | ⟨before, t, ⟨after, rfl⟩, supported, unselected⟩
    · by_cases last : ∀ t, c = .createTable t → selection calls ≠ none
      · exact .inl (supported_concat_iff.mpr ⟨supported, last⟩)
      · simp only [not_forall, not_not, exists_prop] at last
        obtain ⟨t, rfl, none⟩ := last
        exact .inr ⟨calls, t, ⟨[], rfl⟩, supported, selection_eq_none_iff.mp none⟩
    · exact .inr ⟨before, t, ⟨after ++ [c], by simp⟩, supported, unselected⟩

end Chains

/-- The script that calls build, made without telling anything. -/
def built (s : Script) (calls : List Call) : Except Failure Script :=
  calls.foldlM (fun s c => (s.make c).map Told.value) s

section Built

variable {s : Script} {c : Call} {calls rest : List Call}

theorem built_cons_ok {made : Told Script} (h : s.make c = .ok made) :
    s.built (c :: rest) = made.value.built rest := by
  rw [built, List.foldlM_cons, h]
  rfl

theorem built_cons_error {e : Failure} (h : s.make c = .error e) :
    s.built (c :: rest) = .error e := by
  rw [built, List.foldlM_cons, h]
  rfl

private theorem built_append {s' : Script} (h : s.built calls = .ok s') :
    s.built (calls ++ rest) = s'.built rest := by
  rw [built] at h
  rw [built, List.foldlM_append, h]
  rfl

end Built

/-- A script as calls on an empty one leave it. -/
structure BuiltBy (target : Config.Connection) (version : Int) (calls : List Call) (s : Script) :
    Prop where
  target : s.target = target
  version : s.version = version
  queue : s.queue = statements calls
  database : s.database = selection calls
  emitter : s.emitter.getD .empty =
    (attachments calls).foldl (fun e a => e.subscribe a.1 a.2) .empty

section BuiltBy

variable {target : Config.Connection} {version : Int} {calls before : List Call}

theorem builtBy_empty : BuiltBy target version [] (empty target version) :=
  ⟨rfl, rfl, rfl, rfl, rfl⟩

theorem BuiltBy.make {s : Script} {c : Call} {made : Told Script}
    (b : BuiltBy target version calls s) (m : Makes s c made) :
    BuiltBy target version (calls ++ [c]) made.value where
  target := m.target.trans b.target
  version := m.version.trans b.version
  queue := by rw [m.queue, b.queue, b.database, statements_concat]
  database := by rw [m.database, b.database, selection_concat]
  emitter := by
    rw [m.emitter, attachments_append, List.foldl_append, ← b.emitter]
    cases found : c.attachment? <;> simp [attachments, found]

theorem built_of_supported (supported : Supported calls) :
    ∃ s, (empty target version).built calls = .ok s ∧ BuiltBy target version calls s := by
  induction calls using List.reverseRecOn with
  | nil => exact ⟨_, rfl, builtBy_empty⟩
  | append_singleton calls c ih =>
    obtain ⟨supported, last⟩ := supported_concat_iff.mp supported
    obtain ⟨s, ok, b⟩ := ih supported
    rcases make_cases s c with ⟨made, step, m⟩ | ⟨t, rfl, unselected, -⟩
    · refine ⟨made.value, ?_, b.make m⟩
      rw [built_append ok, built_cons_ok step]
      rfl
    · exact absurd (b.database.symm.trans unselected) (last t rfl)

private theorem built_of_refused {t : Schema.Table} (refused : FirstRefused calls before t) :
    (empty target version).built calls = .error (.usage (.noDatabaseForTable t.name)) := by
  obtain ⟨⟨after, rfl⟩, supported, unselected⟩ := refused
  obtain ⟨s, ok, b⟩ := @built_of_supported target version before supported
  have none : s.database = none := b.database.trans (selection_eq_none_iff.mpr unselected)
  rcases make_cases s (.createTable t) with ⟨made, step, -⟩ | ⟨u, same, -, step⟩
  · simp only [make, createTable, none] at step
    exact nomatch step
  · obtain rfl := Call.createTable.inj same
    rw [built_append ok, built_cons_error step]

private theorem built_ok_iff :
    (∃ s, (empty target version).built calls = .ok s) ↔ Supported calls := by
  constructor
  · rintro ⟨s, ok⟩
    rcases supported_or_refused calls with supported | ⟨before, t, refused⟩
    · exact supported
    · rw [built_of_refused refused] at ok
      exact nomatch ok
  · intro supported
    obtain ⟨s, ok, -⟩ := @built_of_supported target version calls supported
    exact ⟨s, ok⟩

theorem builtBy_of_built {s : Script} (ok : (empty target version).built calls = .ok s) :
    BuiltBy target version calls s := by
  obtain ⟨s', ok', b⟩ := @built_of_supported target version calls (built_ok_iff.mp ⟨s, ok⟩)
  obtain rfl := Except.ok.inj (ok.symm.trans ok')
  exact b

private theorem built_error_iff {e : Failure} :
    (empty target version).built calls = .error e ↔
      ∃ before t, FirstRefused calls before t ∧ e = .usage (.noDatabaseForTable t.name) := by
  constructor
  · intro failed
    rcases supported_or_refused calls with supported | ⟨before, t, refused⟩
    · obtain ⟨s, ok⟩ := (@built_ok_iff target version calls).mpr supported
      rw [failed] at ok
      exact nomatch ok
    · rw [built_of_refused refused] at failed
      exact ⟨before, t, refused, (Except.error.inj failed).symm⟩
  · rintro ⟨before, t, refused, rfl⟩
    exact built_of_refused refused

end BuiltBy

open Exchange (against)

theorem against_build (server : Server σ) (s : Script) (calls : List Call) (start : σ) :
    ∃ notes, against server (s.build calls) start = ⟨s.built calls, notes, [], 0, start⟩ := by
  induction calls generalizing s with
  | nil => exact ⟨[], rfl⟩
  | cons c rest ih =>
    rw [build, Exchange.against_bind, Exchange.against_mk_done]
    cases step : s.make c with
    | error e =>
      rw [built_cons_error step]
      exact ⟨[], rfl⟩
    | ok made =>
      obtain ⟨notes, run⟩ := ih made.value
      refine ⟨made.notes ++ notes, ?_⟩
      rw [built_cons_ok step]
      simp only [Run.still, Run.andOnward_ok, Exchange.against_bind, against_tellAll, run]
      rfl

/-- A chain of calls on a new script succeeds exactly if each table comes after some database, and
else fails at the first that does not. If it succeeds, the queue holds what each call queues, in the
order of the calls, a table in the database selected last before it; the database selected last of
all stays selected and the version is the given one. Nothing is acquired or asked. -/
theorem build_follows_calls (server : Server σ) (start : σ) (target : Config.Connection)
    (version : Int) (calls : List Call) :
    let r := against server ((empty target version).build calls) start
    (r.opened = 0 ∧ r.asked = [] ∧ r.state = start) ∧
    ((∃ s, r.result = .ok s) ↔ Supported calls) ∧
    (∀ e, r.result = .error e ↔
      ∃ before t, FirstRefused calls before t ∧ e = .usage (.noDatabaseForTable t.name)) ∧
    ∀ s, r.result = .ok s →
      s.queue = statements calls ∧ s.database = selection calls ∧ s.version = version ∧
        s.target = target := by
  intro r
  obtain ⟨notes, run⟩ := against_build server (empty target version) calls start
  have result : r.result = (empty target version).built calls := congrArg Run.result run
  have idle : r.opened = 0 ∧ r.asked = [] ∧ r.state = start :=
    ⟨congrArg Run.opened run, congrArg Run.asked run, congrArg Run.state run⟩
  rw [result]
  refine ⟨idle, built_ok_iff, fun e => built_error_iff, ?_⟩
  intro s ok
  have b := builtBy_of_built ok
  exact ⟨b.queue, b.database, b.version, b.target⟩

/-- A table that is described twice is created in each database that was selected when it was. -/
theorem build_of_reselection :
    let old : Schema.Database := (Schema.Database.named "b").withExisting true
    let t : Schema.Table := .named "t"
    let calls : List Call := [.raw "DO 1", .useDatabase (.named "a"), .createTable t,
      .attach .every ⟨"log", fun _ => true⟩, .useDatabase old, .createTable t]
    let r := against (.prepared []) ((empty (.ofUrl "") 3).build calls) []
    ∃ s, r.result = .ok s ∧
      s.queue = ["DO 1", (Schema.Database.named "a").render, t.render "a", t.render "b"] ∧
      s.database = some old ∧ s.version = 3 := by
  intro old t calls r
  obtain ⟨-, -, -, whole⟩ := build_follows_calls (.prepared []) [] (.ofUrl "") 3 calls
  obtain ⟨queue, database, version, -⟩ := whole _ rfl
  exact ⟨_, rfl, queue, database, version⟩

end Script

end SchemaGate
