import SchemaGate.Proofs.CommandReports
import SchemaGate.Proofs.ExecutionMessages
import SchemaGate.Proofs.Numerals
/-!
A status and an execution on the same server. Each looks the database up in its own way, with its
own failures and its own idea of a version that is not there. Main statement: a status asks what an
execution asks before its decision, reports what the decision is made by, and fails exactly if there
is no decision.
-/

set_option autoImplicit false

namespace SchemaGate

variable {σ : Type}

open Exchange (against)
open Gate (existsQuery versionQuery missingVersion Listed LacksVersion HoldsVersion)

def Outcome.current : Outcome → Option Int
  | applied current _ _ => current
  | skipped current _ => some current

namespace Run

/-- The messages on the channel on which decisions are told. -/
def decisions {α : Type} (r : Run α σ) : List String :=
  r.messages.filterMap fun m => if m.1 = .debug then some m.2 else none

private theorem filterMap_of_trace {messages : List (Log.Channel × String)}
    (trace : ∀ m ∈ messages, m.1 = .trace) :
    messages.filterMap (fun m => if m.1 = .debug then some m.2 else none) = [] := by
  rw [List.filterMap_eq_nil_iff]
  intro m member
  rw [trace m member]
  rfl

end Run

namespace Exchange

/-- What an exchange comes to in a session that a server opens for a target, if it does and the
exchange does not fail. -/
def inSession {α : Type} (server : Server σ) (target : Config.Connection) (start : σ)
    (x : Exchange α) : Option α :=
  match server.acquire target start with
  | (.error _, _) => none
  | (.ok _, t) => (against server x t).result.toOption

section InSession

variable {α : Type} {server : Server σ} {target : Config.Connection} {start t : σ}

private theorem inSession_refused {e : Failure}
    (refused : server.acquire target start = (.error e, t))
    (x : Exchange α) : inSession server target start x = none := by
  rw [inSession, refused]

private theorem inSession_opened {events : List Event}
    (opened : server.acquire target start = (.ok events, t)) (x : Exchange α) :
    inSession server target start x = (against server x t).result.toOption := by
  rw [inSession, opened]

end InSession

end Exchange

open Exchange (inSession)

namespace Script

def verdict (s : Script) (name : String) (current : Option Int) : String :=
  match Gate.Decision.ofVersions s.version current, current with
  | .skip, some c => skipText name s.version c
  | _, _ => runText name s.version current

/-- The gate decided by this version: its decision says so, and so does what came of the run. -/
structure GatesBy (s : Script) (name : String) (current : Option Int)
    (r : Run (Except Failure Outcome) σ) : Prop where
  told : r.decisions = [s.verdict name current]
  outcome : ∀ o, r.result = .ok o → o.current = current

structure Undecided (r : Run (Except Failure Outcome) σ) : Prop where
  failed : ∃ e, r.result = .error e
  untold : r.decisions = []

section Verdict

variable {s : Script} {name : String} {current : Option Int}

private theorem verdict_of_reached {c : Int} (reached : c ≤ s.version) :
    s.verdict name (some c) = skipText name s.version c := by
  have decision : Gate.Decision.ofVersions s.version (some c) = .skip := if_pos reached
  simp only [verdict, decision]

private theorem verdict_of_below (below : ∀ c, current = some c → s.version < c) :
    s.verdict name current = runText name s.version current := by
  cases current with
  | none => rfl
  | some c =>
    have decision : Gate.Decision.ofVersions s.version (some c) = .run :=
      if_neg (Int.not_le.mpr (below c rfl))
    simp only [verdict, decision]

private theorem renderVersion_injective : Function.Injective renderVersion := by
  have unlike (v : Int) : Text.ofInt v ≠ "none" := by
    intro same
    have numeral := Text.numeral_ofInt v
    rw [same] at numeral
    have letter : 'n' ∈ "none".toList := by decide
    exact absurd (numeral.mem letter) (by decide)
  intro a b h
  cases a with
  | none =>
    cases b with
    | none => rfl
    | some w => exact absurd h.symm (unlike w)
  | some v =>
    cases b with
    | none => exact absurd h (unlike v)
    | some w => exact congrArg some (Text.ofInt_injective h)

private theorem skipText_injective (name : String) (version : Int) :
    Function.Injective (skipText name version) := by
  intro c c' h
  unfold skipText at h
  exact Text.ofInt_injective ((String.append_right_inj _).mp ((String.append_left_inj _).mp h))

private theorem runText_injective (name : String) (version : Int) :
    Function.Injective (runText name version) := by
  intro a b h
  unfold runText at h
  have versions := (String.append_left_inj _).mp h
  have source := (String.append_left_inj _).mp versions
  exact renderVersion_injective
    ((String.append_right_inj _).mp ((String.append_left_inj _).mp source))

private theorem skipText_ne_runText (name : String) (version c : Int) (current : Option Int) :
    skipText name version c ≠ runText name version current := by
  intro same
  unfold skipText runText at same
  have first := congrArg (fun text => text.toList.head?) same
  simp at first

private theorem verdict_injective (s : Script) (name : String) :
    Function.Injective (s.verdict name) := by
  intro a b h
  rcases reached_or_below s.version a with ⟨c, rfl, reached⟩ | below
  · rw [verdict_of_reached reached] at h
    rcases reached_or_below s.version b with ⟨c', rfl, reached'⟩ | below'
    · rw [verdict_of_reached reached'] at h
      exact congrArg some (skipText_injective name s.version h)
    · rw [verdict_of_below below'] at h
      exact absurd h (skipText_ne_runText name s.version c b)
  · rw [verdict_of_below below] at h
    rcases reached_or_below s.version b with ⟨c', rfl, reached'⟩ | below'
    · rw [verdict_of_reached reached'] at h
      exact absurd h.symm (skipText_ne_runText name s.version c' a)
    · rw [verdict_of_below below'] at h
      exact runText_injective name s.version h

end Verdict

section Decisions

variable {server : Server σ} {t : σ}

private theorem trace_of_mem_lookUpMessages {name : String} {m : Log.Channel × String}
    (member : m ∈ lookUpMessages server name t) : m.1 = .trace := by
  rcases existence : server.answer (existsQuery name) t with ⟨_ | rows, u⟩
  · simp [lookUpMessages, existence] at member
  · simp only [lookUpMessages, existence, List.mem_cons] at member
    rcases member with rfl | member
    · rfl
    · split at member
      · split at member
        · rw [List.mem_singleton.mp member]
        · exact (List.not_mem_nil member).elim
      · exact (List.not_mem_nil member).elim

private theorem trace_of_mem_sentMessages {sent : List String} {m : Log.Channel × String}
    (member : m ∈ sentMessages server t sent) : m.1 = .trace := by
  obtain ⟨p, -, told⟩ := List.mem_flatMap.mp member
  rcases reply : server.reply t p.1 p.2 with _ | _ | ⟨row, rest⟩ <;> rw [reply] at told
  · exact (List.not_mem_nil told).elim
  · exact (List.not_mem_nil told).elim
  · rw [List.mem_singleton.mp told]

private theorem gatesBy_proceed (server : Server σ) (t : σ) (s : Script) (name : String)
    (increase : Bool) (current : Option Int) :
    GatesBy s name current (against server (proceed s name increase current) t) := by
  rcases reached_or_below s.version current with ⟨c, rfl, reached⟩ | below
  · rw [against_proceed_skip reached]
    constructor
    · rw [verdict_of_reached reached]
      simp [Run.decisions, Run.messages, messages_increaseNotes, messages_decisionNotes]
    · intro o ended
      obtain rfl := Except.ok.inj ended
      rfl
  · have told := @messages_runPhase σ server t s current
    have ended := result_runPhase server t s current
    rw [against_proceed_run below, Run.andOnward_ok]
    constructor
    · simp only [Run.decisions, Run.messages, List.filterMap_append, messages_increaseNotes,
        messages_decisionNotes, List.nil_append] at told ⊢
      rw [told, Run.filterMap_of_trace fun m member => trace_of_mem_sentMessages member,
        verdict_of_below below]
      rfl
    · intro o done
      rcases ended with applied | ⟨i, sql, inner, failed⟩
      · obtain rfl := Except.ok.inj (applied.symm.trans done)
        rfl
      · rw [failed] at done
        cases done

section Execute

variable {s : Script} {d : Schema.Database} {start : σ} {events : List Event}

private theorem gatesBy_execute (selected : s.database = some d)
    (acquired : server.acquire s.target start = (.ok events, t)) {current : Option Int}
    (found : (against server (lookUp d.name) t).result = .ok current) (increase : Bool) :
    GatesBy s d.name current (against server (s.execute increase) start) := by
  have looked := @messages_lookUp σ server t d.name
  obtain ⟨notes, lookup⟩ := against_lookUp_of_ok found
  rw [lookup] at looked
  rw [against_execute selected acquired]
  simp only [lookup, Run.andOnward_ok]
  have gates := gatesBy_proceed server (server.after t (lookUpQueries d.name current)) s d.name
    increase current
  refine ⟨?_, gates.outcome⟩
  have told := gates.told
  simp only [Run.decisions, Run.messages, List.filterMap_append, messages_events,
    List.nil_append] at looked told ⊢
  rw [looked, told, Run.filterMap_of_trace fun m member => trace_of_mem_lookUpMessages member]
  rfl

private theorem undecided_execute (selected : s.database = some d)
    (acquired : server.acquire s.target start = (.ok events, t)) {e : Failure}
    (failed : (against server (lookUp d.name) t).result = .error e) (increase : Bool) :
    Undecided (against server (s.execute increase) start) := by
  have looked := @messages_lookUp σ server t d.name
  obtain ⟨result, notes, -⟩ := execute_stops increase selected acquired failed
  refine ⟨⟨e, result⟩, ?_⟩
  rw [Run.decisions, Run.messages, notes, List.filterMap_append, messages_events, List.nil_append]
  rw [Run.messages] at looked
  rw [looked, Run.filterMap_of_trace fun m member => trace_of_mem_lookUpMessages member]

private theorem execute_found (server : Server σ) (selected : s.database = some d) (increase : Bool)
    (start : σ) :
    let r := against server (s.execute increase) start
    match inSession server s.target start (lookUp d.name) with
    | some current => GatesBy s d.name current r
    | none => Undecided r := by
  intro r
  rcases acquired : server.acquire s.target start with ⟨e | events, t⟩
  · rw [Exchange.inSession_refused acquired]
    have execution : r = .still (.error e) t := against_execute_refused selected acquired increase
    rw [execution]
    exact ⟨⟨e, rfl⟩, rfl⟩
  · rw [Exchange.inSession_opened acquired]
    cases found : (against server (lookUp d.name) t).result with
    | error e => exact undecided_execute selected acquired found increase
    | ok current => exact gatesBy_execute selected acquired found increase

private theorem gatesBy_iff (server : Server σ) (selected : s.database = some d) (increase : Bool)
    (start : σ) (current : Option Int) :
    GatesBy s d.name current (against server (s.execute increase) start) ↔
      inSession server s.target start (lookUp d.name) = some current := by
  have came := execute_found server selected increase start
  cases found : inSession server s.target start (lookUp d.name) with
  | none =>
    rw [found] at came
    refine iff_of_false (fun gates => ?_) (fun none => nomatch none)
    exact nomatch came.untold.symm.trans gates.told
  | some version =>
    rw [found] at came
    constructor
    · rintro ⟨told, -⟩
      rw [came.told, List.cons.injEq] at told
      exact congrArg some (verdict_injective s d.name told.1)
    · intro same
      obtain rfl := Option.some.inj same
      exact came

private theorem undecided_iff (server : Server σ) (selected : s.database = some d) (increase : Bool)
    (start : σ) :
    Undecided (against server (s.execute increase) start) ↔
      inSession server s.target start (lookUp d.name) = none := by
  have came := execute_found server selected increase start
  cases found : inSession server s.target start (lookUp d.name) with
  | none =>
    rw [found] at came
    exact iff_of_true came rfl
  | some version =>
    rw [found] at came
    refine iff_of_false (fun undecided => ?_) (fun none => nomatch none)
    exact nomatch undecided.untold.symm.trans came.told

end Execute

end Decisions

end Script

namespace Command

/-- The look-up of a status and the look-up of the gate, from one state of a server: they ask the
same queries, and where a status finds no stored version the gate finds the one that a missing
version counts as. -/
structure SameLookUp (server : Server σ) (t : σ) (name : String) : Prop where
  asked : (against server (Script.lookUp name) t).asked = (against server (lookUp name) t).asked
  found : (against server (Script.lookUp name) t).result.toOption =
    (against server (lookUp name) t).result.toOption.map
      (Option.map fun stored => stored.getD missingVersion)
  stored : ∀ stored, (against server (lookUp name) t).result = .ok (some stored) →
    ∃ rows, server.reply t [existsQuery name] (versionQuery name) = .ok rows ∧
      Gate.readVersion name rows = .ok stored
  silent : (against server (lookUp name) t).notes.filterMap Note.printed? = []

private theorem sameLookUp (server : Server σ) (t : σ) (name : String) :
    SameLookUp server t name := by
  rcases existence : server.answer (existsQuery name) t with ⟨_ | rows, u⟩
  · have gate := Script.against_lookUp_unanswered existence
    have told := Gate.against_databaseExists_error existence
    constructor <;> simp [lookUp, Exchange.against_bind, told, Run.andOnward_error, gate,
      Except.toOption]
  by_cases listed : Listed name rows
  · have found := (Gate.lists_iff name rows).mpr listed
    have told := Gate.against_databaseExists_ok existence
    rw [found] at told
    rcases version : server.answer (versionQuery name) u with ⟨_ | answer, v⟩
    · have gate := Script.against_lookUp_unread existence listed version
      have read := Gate.against_schemaVersion_error version
      constructor <;> simp [lookUp, Exchange.against_bind, told, read, Run.andOnward_ok,
        Run.andOnward_error, gate, Except.toOption, Note.printed?]
    · have read := Gate.against_schemaVersion_ok version
      have reply : server.reply t [existsQuery name] (versionQuery name) = .ok answer := by
        change (server.answer (versionQuery name) (server.answer (existsQuery name) t).2).1 = _
        rw [existence, version]
      cases reads : Gate.readVersion name answer with
      | error e =>
        have gate := Script.against_lookUp_malformed existence listed version reads
        rw [reads] at read
        constructor <;> simp [lookUp, Exchange.against_bind, told, read, Run.andOnward_ok,
          Run.andOnward_error, gate, Except.toOption, Note.printed?]
      | ok held =>
        have gate := Script.against_lookUp_read existence listed version reads
        rw [reads] at read
        constructor <;> simp [lookUp, Exchange.against_bind, told, read, Run.andOnward_ok,
          Exchange.against_pure, Run.still, gate, Except.toOption, Note.printed?, reply, reads]
  · have missed : Gate.lists name rows = false :=
      Bool.eq_false_iff.mpr fun found => listed ((Gate.lists_iff name rows).mp found)
    have gate := Script.against_lookUp_unlisted existence listed
    have told := Gate.against_databaseExists_ok existence
    rw [missed] at told
    constructor <;> simp [lookUp, Exchange.against_bind, told, Run.andOnward_ok,
      Exchange.against_pure, Run.still, gate, Except.toOption, Note.printed?]

def statusLines (database : String) : Option (Option Int) → String
  | none => "\n  ✗ Database " ++ database ++ " does not exist\n\n"
  | some none => "\n  ℹ " ++ database ++ " has no stored schema version (gated as -1)\n\n"
  | some (some version) =>
    "\n  ✓ " ++ database ++ " is at schema version " ++ Text.ofInt version ++ "\n\n"

/-- The status of a database was told: nothing went wrong, and what was found is printed. -/
structure Report.Tells (r : Report σ) (database : String) (found : Option (Option Int)) : Prop where
  fault : r.fault = none
  output : r.output = statusLines database found

/-- A server opens a session for a target and answers these rows to the query for the stored
version, asked after the query for the database. -/
def VersionRows (server : Server σ) (target : Config.Connection) (start : σ) (name : String)
    (rows : List Row) : Prop :=
  ∃ events t, server.acquire target start = (.ok events, t) ∧
    server.reply t [existsQuery name] (versionQuery name) = .ok rows

private theorem statusLines_eq (database : String) (found : Option (Option Int)) :
    statusLines database found = "\n" ++ statusText database found ++ "\n" := by
  have cross : "\n  ✗ Database " = "\n" ++ "  ✗ Database " := by decide
  have info : "\n  ℹ " = "\n" ++ "  ℹ " := by decide
  have tick : "\n  ✓ " = "\n" ++ "  ✓ " := by decide
  have absent : " does not exist\n\n" = " does not exist\n" ++ "\n" := by decide
  have gated : " has no stored schema version (gated as -1)\n\n" =
      " has no stored schema version (gated as " ++ Text.ofInt missingVersion ++ ")\n" ++ "\n" := by
    decide
  have close : "\n\n" = "\n" ++ "\n" := by decide
  unfold statusLines statusText
  rcases found with _ | _ | v
  · simp only [cross, absent, String.append_assoc]
  · simp only [info, gated, String.append_assoc]
  · simp only [tick, close, String.append_assoc]

private theorem statusLines_sign (database : String) (found : Option (Option Int)) :
    (statusLines database found).toList[3]? = some
      (match found with
        | none => '✗'
        | some none => 'ℹ'
        | some (some _) => '✓') := by
  have cross : "\n  ✗ Database ".toList = '\n' :: ' ' :: ' ' :: '✗' :: " Database ".toList := by
    decide
  have info : "\n  ℹ ".toList = ['\n', ' ', ' ', 'ℹ', ' '] := by decide
  have tick : "\n  ✓ ".toList = ['\n', ' ', ' ', '✓', ' '] := by decide
  unfold statusLines
  rcases found with _ | _ | v
  · simp only [String.toList_append, cross]
    rfl
  · simp only [String.toList_append, info]
    rfl
  · simp only [String.toList_append, tick]
    rfl

private theorem statusLines_injective (database : String) :
    Function.Injective (statusLines database) := by
  intro a b h
  have sign := statusLines_sign database a
  rw [h, statusLines_sign database b] at sign
  rcases a with _ | _ | v <;> rcases b with _ | _ | w <;> simp at sign ⊢
  unfold statusLines at h
  exact Text.ofInt_injective ((String.append_right_inj _).mp ((String.append_left_inj _).mp h))

section Status

variable {server : Server σ} {target : Config.Connection} {start t : σ} {name : String}
  {events : List Event}

private theorem against_tellStatus (acquired : server.acquire target start = (.ok events, t)) :
    against server (tellStatus name target) start =
      (⟨.ok (), events.map .event ++ [.printed "\n"], [], 1, t⟩ :
        Run (Except Failure Unit) σ).andOnward fun _ t =>
          (against server (lookUp name) t).andOnward fun found u =>
            ⟨.ok (), [.printed (statusText name found), .printed "\n"], [], 0, u⟩ := by
  simp only [tellStatus, Exchange.against_bind, Exchange.against_acquire_ok server start acquired,
    Exchange.against_print, Run.andOnward_ok, List.append_assoc, List.nil_append,
    List.cons_append, Nat.add_zero, Nat.zero_add]

private theorem against_tellStatus_refused {e : Failure}
    (refused : server.acquire target start = (.error e, t)) :
    against server (tellStatus name target) start = .still (.error e) t := by
  rw [tellStatus, Exchange.against_bind, Exchange.against_acquire_error server start refused]
  exact Run.andOnward_error ..

private theorem printed_events (events : List Event) :
    (events.map Note.event).filterMap Note.printed? = [] := by
  rw [List.filterMap_map, List.filterMap_eq_nil_iff]
  intro e _
  rfl

private theorem asked_tellStatus (acquired : server.acquire target start = (.ok events, t)) :
    (against server (tellStatus name target) start).asked =
      (against server (lookUp name) t).asked := by
  rw [against_tellStatus acquired, Run.andOnward_ok]
  generalize against server (lookUp name) t = look
  obtain ⟨_ | found, notes, asked, opened, u⟩ := look
  · rw [Run.andOnward_error, List.nil_append]
  · rw [Run.andOnward_ok, List.nil_append, List.append_nil]

private theorem tellStatus_found (server : Server σ) (target : Config.Connection) (name : String)
    (start : σ) (logging : Option Config.Logging) :
    let told := Report.ofRun logging false (against server (tellStatus name target) start)
    match inSession server target start (lookUp name) with
    | some found => told.Tells name found
    | none => ∃ fault, told.fault = some fault := by
  intro told
  rcases acquired : server.acquire target start with ⟨e | events, t⟩
  · rw [Exchange.inSession_refused acquired]
    simp only [told, against_tellStatus_refused acquired]
    exact ⟨_, rfl⟩
  · have silent := (sameLookUp server t name).silent
    have output : told.output = _ := Report.output_ofRun logging _
    rw [Report.prints_ofRun] at output
    rw [Exchange.inSession_opened acquired]
    simp only [told, against_tellStatus acquired, Run.andOnward_ok] at output ⊢
    generalize against server (lookUp name) t = look at silent output ⊢
    obtain ⟨e | found, notes, asked, opened, u⟩ := look
    · exact ⟨_, rfl⟩
    · simp only [Run.andOnward_ok, List.filterMap_append, printed_events, silent, List.nil_append,
        List.filterMap_cons, List.filterMap_nil, Note.printed?, List.singleton_append] at output
      refine ⟨rfl, output.trans ?_⟩
      simp [statusLines_eq, String.append_assoc]

private theorem tells_iff (server : Server σ) (target : Config.Connection) (name : String)
    (start : σ) (logging : Option Config.Logging) (found : Option (Option Int)) :
    (Report.ofRun logging false (against server (tellStatus name target) start)).Tells name found ↔
      inSession server target start (lookUp name) = some found := by
  have came := tellStatus_found server target name start logging
  cases looked : inSession server target start (lookUp name) with
  | none =>
    rw [looked] at came
    obtain ⟨fault, failed⟩ := came
    refine iff_of_false (fun told => ?_) (fun none => nomatch none)
    exact nomatch told.fault.symm.trans failed
  | some found' =>
    rw [looked] at came
    constructor
    · intro told
      exact congrArg some (statusLines_injective name (came.output.symm.trans told.output))
    · intro same
      obtain rfl := Option.some.inj same
      exact came

private theorem failed_iff (server : Server σ) (target : Config.Connection) (name : String)
    (start : σ) (logging : Option Config.Logging) :
    (∃ fault, (Report.ofRun logging false
        (against server (tellStatus name target) start)).fault = some fault) ↔
      inSession server target start (lookUp name) = none := by
  have came := tellStatus_found server target name start logging
  cases looked : inSession server target start (lookUp name) with
  | none =>
    rw [looked] at came
    exact iff_of_true came rfl
  | some found =>
    rw [looked] at came
    refine iff_of_false ?_ (fun none => nomatch none)
    rintro ⟨fault, failed⟩
    exact nomatch came.fault.symm.trans failed

private theorem inSession_lookUp (server : Server σ) (target : Config.Connection) (start : σ)
    (name : String) :
    inSession server target start (Script.lookUp name) =
      (inSession server target start (lookUp name)).map
        (Option.map fun stored => stored.getD missingVersion) := by
  rcases acquired : server.acquire target start with ⟨e | events, t⟩
  · rw [Exchange.inSession_refused acquired, Exchange.inSession_refused acquired, Option.map_none]
  · rw [Exchange.inSession_opened acquired, Exchange.inSession_opened acquired,
      (sameLookUp server t name).found]

private theorem stored_of_inSession {stored : Option Int}
    (found : inSession server target start (lookUp name) = some (some stored)) :
    ∃ rows, VersionRows server target start name rows ∧
      Gate.readVersion name rows = .ok stored := by
  rcases acquired : server.acquire target start with ⟨e | events, t⟩
  · rw [Exchange.inSession_refused acquired] at found
    exact nomatch found
  · rw [Exchange.inSession_opened acquired] at found
    cases result : (against server (lookUp name) t).result with
    | error e =>
      rw [result] at found
      exact nomatch found
    | ok value =>
      rw [result] at found
      obtain rfl := Option.some.inj found
      obtain ⟨rows, replied, reads⟩ := (sameLookUp server t name).stored stored result
      exact ⟨rows, ⟨events, t, acquired, replied⟩, reads⟩

private theorem VersionRows.unique {rows rows' : List Row}
    (h : VersionRows server target start name rows)
    (h' : VersionRows server target start name rows') :
    rows = rows' := by
  obtain ⟨events, t, acquired, replied⟩ := h
  obtain ⟨events', t', acquired', replied'⟩ := h'
  obtain ⟨-, rfl⟩ := Prod.mk.inj (acquired.symm.trans acquired')
  exact Except.ok.inj (replied.symm.trans replied')

/-- A status finds a version, or none, in an existing database exactly if the rows of the answer say
so and the gate finds the version that this counts as. -/
private theorem stored_iff (server : Server σ) (target : Config.Connection) (start : σ)
    (name : String) (stored : Option Int) :
    inSession server target start (lookUp name) = some (some stored) ↔
      (∃ rows, VersionRows server target start name rows ∧
        Gate.readVersion name rows = .ok stored) ∧
      inSession server target start (Script.lookUp name) =
        some (some (stored.getD missingVersion)) := by
  rw [inSession_lookUp]
  constructor
  · intro found
    exact ⟨stored_of_inSession found, by rw [found]; rfl⟩
  · rintro ⟨⟨rows, answered, reads⟩, found⟩
    obtain ⟨found', looked, counts⟩ := Option.map_eq_some_iff.mp found
    obtain ⟨stored', rfl, -⟩ := Option.map_eq_some_iff.mp counts
    obtain ⟨rows', answered', reads'⟩ := stored_of_inSession looked
    obtain rfl := answered.unique answered'
    obtain rfl := Except.ok.inj (reads.symm.trans reads')
    exact looked

end Status

/-- A status and an execution of a script for the same database and connection, from one state of a
server. If no session can be opened both ask nothing. Else the status asks exactly the queries of
the execution's look-up, after which the execution asks nothing but statements of its queue. The
status tells that the database does not exist exactly if the gate decides by no version; a version
exactly if the rows hold it and the gate decides by it; and that no version is stored exactly if
there is none in the rows and the gate decides by -1. It fails exactly if the execution fails before
its decision. -/
theorem status_follows_gate (server : Server σ) {env : Config.Environment} {files : Files}
    {config : String} {settings : Config.Settings} {s : Script} {d : Schema.Database}
    (usable : Usable env files config settings) (selected : s.database = some d)
    (addressed : s.target = settings.connection) (increase : Bool) (start : σ) :
    let told := run (.status d.name config) server env files start
    let r := against server (s.execute increase) start
    let rowsHold (P : List Row → Prop) :=
      ∃ rows, VersionRows server settings.connection start d.name rows ∧ P rows
    (∀ e t, server.acquire settings.connection start = (.error e, t) →
      told.asked = [] ∧ r.asked = []) ∧
    (∀ events t, server.acquire settings.connection start = (.ok events, t) →
      told.asked = (against server (Script.lookUp d.name) t).asked ∧
      (told.asked = [existsQuery d.name] ∨
        told.asked = [existsQuery d.name, versionQuery d.name]) ∧
      ∃ n, r.asked = told.asked ++ s.queue.take n) ∧
    (told.Tells d.name none ↔ s.GatesBy d.name none r) ∧
    (∀ v, told.Tells d.name (some (some v)) ↔
      rowsHold (HoldsVersion · v) ∧ s.GatesBy d.name (some v) r) ∧
    (told.Tells d.name (some none) ↔
      rowsHold LacksVersion ∧ s.GatesBy d.name (some (-1)) r) ∧
    ((∃ fault, told.fault = some fault) ↔ Script.Undecided r) := by
  intro told r rowsHold
  have met : told = Report.ofRun (inEffect (Config.EnvFile.load env files) settings).logging false
      (against server (tellStatus d.name settings.connection) start) := by
    simp only [told, run, prepare_of_usable usable]
    rfl
  have gates : ∀ current, s.GatesBy d.name current r ↔
      inSession server settings.connection start (Script.lookUp d.name) = some current :=
    addressed ▸ Script.gatesBy_iff server selected increase start
  have undecided : Script.Undecided r ↔
      inSession server settings.connection start (Script.lookUp d.name) = none :=
    addressed ▸ Script.undecided_iff server selected increase start
  simp only [rowsHold, gates, undecided, ← @Gate.readVersion_eq_some_iff d.name,
    ← @Gate.readVersion_eq_none_iff d.name]
  rw [met]
  refine ⟨?_, ?_, ?_, ?_, ?_, ?_⟩
  · intro e t refused
    have execution : r = .still (.error e) t :=
      Script.against_execute_refused selected (addressed ▸ refused) increase
    rw [execution, against_tellStatus_refused refused]
    exact ⟨rfl, rfl⟩
  · intro events t acquired
    have asked := (sameLookUp server t d.name).asked
    have gated := Script.asksGated_execute increase selected (addressed ▸ acquired)
    obtain ⟨sent, split, behind⟩ := gated.sends
    obtain ⟨n, rfl⟩ := behind.eq_take
    have queries := gated.looks
    rw [asked] at queries split
    rw [Report.asked_ofRun, asked_tellStatus acquired]
    exact ⟨asked.symm, queries, n, split⟩
  · rw [tells_iff, inSession_lookUp, Option.map_eq_some_iff]
    simp
  · intro v
    rw [tells_iff]
    exact stored_iff ..
  · rw [tells_iff]
    exact stored_iff ..
  · rw [failed_iff, inSession_lookUp, Option.map_eq_none_iff]

/-- A database without a stored version, for a status and for a script that is skipped there. The
environment file lies two directories above the working directory. -/
theorem status_of_unversioned :
    let files : Files := ⟨["srv", "gate"],
      [([".env"], .file (Text.utf8 "DB=mysql://db\n")),
        (["srv", "gate", "sqlgate.toml"],
          .file (Text.utf8 "[database]\nurl = \"$\x7bDB\x7d\"\n"))]⟩
    let settings : Config.Settings := .ofUrl "mysql://db"
    let s : Script := ⟨.ofUrl "mysql://db", 3, ["DO 1"], some (.named "shop"), none⟩
    let server := Server.prepared [.ok [⟨[("Database (shop)", .text "shop")]⟩], .ok []]
    let told := run (.status "shop" "sqlgate.toml") server .empty files []
    let r := against server (s.execute true) []
    Usable .empty files "sqlgate.toml" settings ∧ s.database = some (.named "shop") ∧
      s.target = settings.connection ∧
      told.output = "\n  ℹ shop has no stored schema version (gated as -1)\n\n" ∧
      told.asked = [existsQuery "shop", versionQuery "shop"] ∧
      s.GatesBy "shop" (some (-1)) r ∧ r.result = .ok (.skipped (-1) 3) := by
  intro files settings s server told r
  have usable : Usable .empty files "sqlgate.toml" settings :=
    ⟨by decide +kernel, by decide +kernel, by decide +kernel⟩
  have output : told.output = "\n  ℹ shop has no stored schema version (gated as -1)\n\n" := by
    decide +kernel
  have asked : told.asked = [existsQuery "shop", versionQuery "shop"] := by decide +kernel
  have tells : told.Tells "shop" (some none) := ⟨by decide +kernel, output⟩
  obtain ⟨-, -, -, -, unversioned, -⟩ :=
    @status_follows_gate _ server .empty files "sqlgate.toml" settings s (.named "shop") usable rfl
      rfl true []
  exact ⟨usable, rfl, rfl, output, asked, (unversioned.mp tells).2, rfl⟩

end Command

end SchemaGate
