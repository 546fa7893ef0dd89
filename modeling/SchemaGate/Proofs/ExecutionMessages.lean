import SchemaGate.Proofs.BuilderCalls
import SchemaGate.Proofs.RunPhase
/-!
The messages of an execution, read off the answers that it got and the way it ended: what the two
look-ups found, the decision, and the rows that came back for statements. Main statement: these are
told, in this order, and no others.
-/

set_option autoImplicit false

namespace SchemaGate

variable {σ : Type}

namespace Run

variable {α : Type}

def messages (r : Run α σ) : List (Log.Channel × String) := r.notes.filterMap Note.message?

end Run

namespace Script

open Exchange (against)
open Gate (existsQuery versionQuery)

/-- The messages of a look-up: whether the database exists, once that is answered, and which version
it stores, if it exists and its version was read. -/
def lookUpMessages (server : Server σ) (name : String) (t : σ) : List (Log.Channel × String) :=
  match server.answer (existsQuery name) t with
  | (.error _, _) => []
  | (.ok rows, u) =>
    let found := Gate.lists name rows
    (.trace, "Database '" ++ name ++ "' exists: " ++ (if found then "true" else "false")) ::
      if found then
        match (server.answer (versionQuery name) u).1.bind (Gate.readVersion name) with
        | .ok stored => [(.trace, "Stored schema version of '" ++ name ++ "': " ++
            Text.ofInt (stored.getD (-1)))]
        | .error _ => []
      else []

/-- The decision on a script, told if the look-up succeeded: it is declined exactly if it is skipped
in the end, and started if it is applied or one of its statements fails. -/
def decisionMessages (s : Script) (name : String) :
    Except Failure (Option Int) → Except Failure Outcome → List (Log.Channel × String)
  | .ok _, .ok (.skipped current target) =>
    [(.debug, "Not executing migration script to version '" ++ Text.ofInt target ++
      "', database '" ++ name ++ "' is at version '" ++ Text.ofInt current ++ "'.")]
  | .ok current, .ok (.applied ..) | .ok current, .error (.statement ..) =>
    [(.debug, "Starting database migration of '" ++ name ++ "' from version '" ++
      current.elim "none" Text.ofInt ++ "' to version '" ++ Text.ofInt s.version ++ "'.")]
  | _, _ => []

def answerMessages (index : Nat) : Except Failure (List Row) → List (Log.Channel × String)
  | .ok (_ :: rest) => [(.trace, "Statement " ++ Text.ofNat index ++ " returned " ++
      Text.ofNat (rest.length + 1) ++ " row(s)")]
  | _ => []

def sentMessages (server : Server σ) (t : σ) (sent : List String) : List (Log.Channel × String) :=
  (inTurn sent).flatMap fun p => answerMessages p.1.length (server.reply t p.1 p.2)

def executionMessages (server : Server σ) (s : Script) (start : σ)
    (result : Except Failure Outcome) (asked : List String) : List (Log.Channel × String) :=
  match s.database, server.acquire s.target start with
  | some d, (.ok _, t) =>
    let looked := against server (lookUp d.name) t
    lookUpMessages server d.name t ++ decisionMessages s d.name looked.result result ++
      sentMessages server looked.state (asked.drop looked.asked.length)
  | _, _ => []

section Parts

variable {server : Server σ} {t : σ}

private theorem messages_existenceNotes (name : String) (rows : List Row) :
    (existenceNotes name rows).filterMap Note.message? =
      [(.trace, "Database '" ++ name ++ "' exists: " ++
        (if Gate.lists name rows then "true" else "false"))] := rfl

theorem messages_lookUp (name : String) :
    (against server (lookUp name) t).messages = lookUpMessages server name t := by
  rcases existence : server.answer (existsQuery name) t with ⟨listing, u⟩
  cases listing with
  | error e =>
    rw [against_lookUp_unanswered existence]
    simp only [lookUpMessages, existence]
    rfl
  | ok rows =>
    simp only [lookUpMessages, existence]
    by_cases listed : Gate.Listed name rows
    · have found := (Gate.lists_iff name rows).mpr listed
      rcases version : server.answer (versionQuery name) u with ⟨stored, v⟩
      cases stored with
      | error e =>
        rw [against_lookUp_unread existence listed version, Run.messages, messages_existenceNotes]
        simp only [found, if_true, Except.bind]
      | ok answer =>
        cases reads : Gate.readVersion name answer with
        | error e =>
          rw [against_lookUp_malformed existence listed version reads, Run.messages,
            List.filterMap_append, messages_existenceNotes]
          simp only [found, if_true, Except.bind, reads]
          rfl
        | ok stored =>
          rw [against_lookUp_read existence listed version reads, Run.messages,
            List.filterMap_append, messages_existenceNotes]
          simp only [found, if_true, Except.bind, reads]
          rfl
    · have missed : Gate.lists name rows = false :=
        Bool.eq_false_iff.mpr fun found => listed ((Gate.lists_iff name rows).mp found)
      rw [against_lookUp_unlisted existence listed, Run.messages, messages_existenceNotes]
      simp only [missed, Bool.false_eq_true, if_false]

private theorem messages_rowNotes (index : Nat) (rows : List Row) :
    (rowNotes index rows).filterMap Note.message? = answerMessages index (.ok rows) := by
  cases rows <;> rfl

private theorem messages_send (index : Nat) (queue : List String) :
    let r := against server (send index queue) t
    r.messages = (inTurn r.asked).flatMap fun p =>
      answerMessages (index + p.1.length) (server.reply t p.1 p.2) := by
  induction queue generalizing index t with
  | nil => rfl
  | cons sql queue ih =>
    rcases asked : server.answer sql t with ⟨reply, u⟩
    have first : server.reply t [] sql = reply := congrArg Prod.fst asked
    cases reply with
    | error e =>
      rw [against_send_cons_error asked]
      simp only [inTurn_cons, inTurn_nil, List.map_nil, List.flatMap_cons, List.flatMap_nil, first]
      rfl
    | ok rows =>
      -- Behind the first query both the index and the state of the server have moved on by one.
      have later (p : List String × String) :
          server.reply t (sql :: p.1) p.2 = server.reply u p.1 p.2 := by
        rw [Server.reply, Server.after, List.foldl_cons, asked]
        rfl
      have tail := @ih u (index + 1)
      have shifted (p : List String × String) :
          index + (sql :: p.1).length = index + 1 + p.1.length := by
        simp only [List.length_cons]
        omega
      rw [against_send_cons_ok asked]
      simp only [Run.messages, sendNote, List.filterMap_cons, List.filterMap_append, Note.message?,
        messages_rowNotes, inTurn_cons, List.flatMap_cons, List.flatMap_map, first, later,
        shifted] at tail ⊢
      rw [tail]
      rfl

theorem messages_runPhase (s : Script) (current : Option Int) :
    let r := against server (runPhase s current) t
    r.messages = sentMessages server t r.asked := by
  intro r
  have told := @messages_send σ server t 0 s.queue
  have split : r = (against server (send 0 s.queue) t).andOnward fun _ u => against server (do
      Exchange.event .info "Migration applied" [("statements", Text.ofNat s.queue.length)]
      return .applied current s.version s.queue.length) u :=
    Exchange.against_bind ..
  rw [split, sentMessages]
  simp only [Nat.zero_add] at told
  generalize against server (send 0 s.queue) t = sent at told ⊢
  rcases sent with ⟨result, notes, asked, opened, u⟩
  cases result with
  | error e =>
    rw [Run.andOnward_error]
    exact told
  | ok a =>
    simp only [Exchange.against_bind, Exchange.against_event, Exchange.against_pure,
      Run.andOnward_ok, Run.still, List.append_nil]
    rw [Run.messages, List.filterMap_append]
    exact (List.append_nil _).trans told

theorem result_runPhase (server : Server σ) (t : σ) (s : Script) (current : Option Int) :
    let r := against server (runPhase s current) t
    r.result = .ok (.applied current s.version s.queue.length) ∨
      ∃ i sql inner, r.result = .error (.statement i sql inner) := by
  intro r
  obtain ⟨result, -⟩ := @against_runPhase σ server t s current
  rcases Server.answersAll_or_failsFirst server t s.queue with answered | ⟨i, sql, e, fails⟩
  · obtain ⟨done, -⟩ := against_send_all answered 0
    exact .inl (by rw [result, done]; rfl)
  · obtain ⟨failed, -⟩ := against_send_first fails 0
    exact .inr ⟨_, _, _, by rw [result, failed]; rfl⟩

theorem messages_events (events : List Event) :
    (events.map Note.event).filterMap Note.message? = [] := by
  rw [List.filterMap_map, List.filterMap_eq_nil_iff]
  intro e _
  rfl

theorem messages_increaseNotes (increase : Bool) :
    (increaseNotes increase).filterMap Note.message? = [] := by
  cases increase <;> rfl

theorem messages_decisionNotes (text : String) :
    (decisionNotes text).filterMap Note.message? = [(.debug, text)] := rfl

private theorem runText_eq (name : String) (version : Int) (current : Option Int) :
    runText name version current = "Starting database migration of '" ++ name ++
      "' from version '" ++ current.elim "none" Text.ofInt ++ "' to version '" ++
      Text.ofInt version ++ "'." := by
  cases current <;> rfl

private theorem messages_proceed (s : Script) (name : String) (increase : Bool)
    (current : Option Int) :
    let r := against server (proceed s name increase current) t
    r.messages =
      decisionMessages s name (.ok current) r.result ++ sentMessages server t r.asked := by
  rcases reached_or_below s.version current with ⟨c, rfl, reached⟩ | below
  · rw [against_proceed_skip reached]
    simp only [Run.messages, List.filterMap_append, messages_increaseNotes, messages_decisionNotes]
    rfl
  · have told := @messages_runPhase σ server t s current
    have ended := result_runPhase server t s current
    rw [against_proceed_run below, Run.andOnward_ok]
    simp only [Run.messages, List.filterMap_append, messages_increaseNotes, messages_decisionNotes,
      List.nil_append] at told ⊢
    rw [told]
    rcases ended with applied | ⟨i, sql, inner, failed⟩
    · simp only [applied, decisionMessages, runText_eq]
    · simp only [failed, decisionMessages, runText_eq]

theorem against_execute_unselected {s : Script} (unselected : s.database = none) (increase : Bool)
    (start : σ) :
    against server (s.execute increase) start = .still (.error (.usage .noDatabase)) start := by
  unfold execute
  rw [unselected]
  rfl

theorem against_execute_refused {s : Script} {d : Schema.Database} {start : σ} {e : Failure}
    (selected : s.database = some d) (refused : server.acquire s.target start = (.error e, t))
    (increase : Bool) :
    against server (s.execute increase) start = .still (.error e) t := by
  rw [execute_eq selected, Exchange.against_bind,
    Exchange.against_acquire_error server start refused]
  exact Run.andOnward_error ..

end Parts

theorem messages_execute (server : Server σ) (s : Script) (increase : Bool) (start : σ) :
    let r := against server (s.execute increase) start
    r.messages = executionMessages server s start r.result r.asked := by
  cases selected : s.database with
  | none =>
    simp only [against_execute_unselected selected, executionMessages, selected]
    rfl
  | some d =>
    rcases acquired : server.acquire s.target start with ⟨opening, t⟩
    cases opening with
    | error e =>
      simp only [against_execute_refused selected acquired, executionMessages, selected, acquired]
      rfl
    | ok events =>
      -- What the look-up asked is cut off the front of all queries, which leaves what was sent.
      have looked := @messages_lookUp σ server t d.name
      simp only [against_execute selected acquired, executionMessages, selected, acquired,
        Run.andOnward_ok]
      generalize against server (lookUp d.name) t = lookup at looked ⊢
      rcases lookup with ⟨found, notes, asked, opened, u⟩
      cases found with
      | error e =>
        simp only [Run.andOnward_error, Run.messages, List.filterMap_append, messages_events,
          List.nil_append, List.drop_length] at looked ⊢
        rw [looked]
        simp [decisionMessages, sentMessages]
      | ok current =>
        have proceeds := @messages_proceed σ server u s d.name increase current
        simp only [Run.andOnward_ok, Run.messages, List.filterMap_append, messages_events,
          List.nil_append, List.drop_left] at looked proceeds ⊢
        rw [looked, proceeds, List.append_assoc]

/-- An end that an execution comes to once its look-up succeeded. -/
def Settled (result : Except Failure Outcome) : Prop :=
  (∃ outcome, result = .ok outcome) ∨ ∃ i sql inner, result = .error (.statement i sql inner)

section Settled

variable {server : Server σ} {t : σ}

theorem lookUp_fails_as_query {name : String} {e : Failure}
    (failed : (against server (lookUp name) t).result = .error e) : ∃ fault, e = .query fault := by
  simp only [lookUp, Exchange.against_bind, Exchange.against_orFail] at failed
  generalize against server (Gate.databaseExists name) t = first at failed
  rcases first with ⟨_ | found, notes, asked, opened, u⟩
  · simp only [Run.mapError_error, Run.andOnward_error] at failed
    exact ⟨_, (Except.error.inj failed).symm⟩
  cases found with
  | false => cases failed
  | true =>
    simp only [Run.mapError_ok, Run.andOnward_ok, Exchange.against_tell, if_true,
      Exchange.against_bind, Exchange.against_orFail] at failed
    generalize against server (Gate.schemaVersion name) u = second at failed
    rcases second with ⟨_ | stored, notes, asked, opened, v⟩
    · simp only [Run.mapError_error, Run.andOnward_error] at failed
      exact ⟨_, (Except.error.inj failed).symm⟩
    · cases failed

private theorem settled_proceed (server : Server σ) (t : σ) (s : Script) (name : String)
    (increase : Bool) (current : Option Int) :
    Settled (against server (proceed s name increase current) t).result := by
  rcases reached_or_below s.version current with ⟨c, rfl, reached⟩ | below
  · rw [against_proceed_skip reached]
    exact .inl ⟨_, rfl⟩
  · rw [against_proceed_run below, Run.andOnward_ok]
    rcases result_runPhase server t s current with applied | failed
    · exact .inl ⟨_, applied⟩
    · exact .inr failed

theorem settled_iff {s : Script} {d : Schema.Database} {start : σ} {events : List Event}
    (selected : s.database = some d) (acquired : server.acquire s.target start = (.ok events, t))
    (increase : Bool) :
    Settled (against server (s.execute increase) start).result ↔
      ∃ current, (against server (lookUp d.name) t).result = .ok current := by
  rw [against_execute selected acquired]
  simp only [Run.andOnward_ok]
  cases found : (against server (lookUp d.name) t).result with
  | error e =>
    obtain ⟨fault, rfl⟩ := lookUp_fails_as_query found
    generalize against server (lookUp d.name) t = lookup at found ⊢
    rcases lookup with ⟨result, notes, asked, opened, u⟩
    obtain rfl : result = _ := found
    simp [Run.andOnward_error, Settled]
  | ok current =>
    have settled := settled_proceed server (against server (lookUp d.name) t).state s d.name
      increase current
    generalize against server (lookUp d.name) t = lookup at found settled ⊢
    rcases lookup with ⟨result, notes, asked, opened, u⟩
    obtain rfl : result = _ := found
    simp only [Run.andOnward_ok]
    exact ⟨fun _ => ⟨current, rfl⟩, fun _ => settled⟩

end Settled

end Script

end SchemaGate
