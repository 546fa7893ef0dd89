import SchemaGate.Proofs.Lookup
import SchemaGate.Script.Run
/-!
What an execution asks and how it ends. The gate asks one or two queries and then knows which
version the database stores, or fails; only after that is a queued statement sent. Main statement:
the answers to these queries alone decide whether a script is skipped, fails or is sent.
-/

set_option autoImplicit false

namespace SchemaGate.Script

open Exchange (against)
open Gate (existsQuery versionQuery versionKey missingVersion Listed LacksVersion HoldsVersion
  HoldsOther)

variable {σ : Type} {server : Server σ} {t u v : σ}

def existenceNotes (name : String) (rows : List Row) : List Note :=
  [.event ⟨.trace, "SHOW DATABASES result", [("rows", Text.ofNat rows.length)]⟩,
    .message .trace
      ("Database '" ++ name ++ "' exists: " ++ (if Gate.lists name rows then "true" else "false"))]

def versionNotes (name : String) (rows : List Row) (version : Int) : List Note :=
  [.event (Gate.versionEvent name rows),
    .message .trace ("Stored schema version of '" ++ name ++ "': " ++ Text.ofInt version)]

section LookUp

variable {name : String} {rows answer : List Row}

theorem against_lookUp_unanswered {e : Failure}
    (existence : server.answer (existsQuery name) t = (.error e, u)) :
    against server (lookUp name) t =
      ⟨.error (.query (.existence name e.message)), [], [existsQuery name], 0, u⟩ := by
  simp only [lookUp, Exchange.against_bind, Exchange.against_orFail,
    Gate.against_databaseExists_error existence, Run.mapError_error, Run.andOnward_error]

theorem against_lookUp_unlisted (existence : server.answer (existsQuery name) t = (.ok rows, u))
    (unlisted : ¬ Listed name rows) :
    against server (lookUp name) t =
      ⟨.ok none, existenceNotes name rows, [existsQuery name], 0, u⟩ := by
  have found : Gate.lists name rows = false := by
    rw [Bool.eq_false_iff, ne_eq, Gate.lists_iff]
    exact unlisted
  simp only [lookUp, existenceNotes, Exchange.against_bind, Exchange.against_orFail,
    Gate.against_databaseExists_ok existence, Run.mapError_ok, Run.andOnward_ok,
    Exchange.against_tell, found, Bool.false_eq_true, if_false, Exchange.against_pure, Run.still]
  rfl

section Listed

variable (existence : server.answer (existsQuery name) t = (.ok rows, u))
  (listed : Listed name rows)

include existence listed

theorem against_lookUp_unread {e : Failure}
    (version : server.answer (versionQuery name) u = (.error e, v)) :
    against server (lookUp name) t =
      ⟨.error (.query (.version name e.message)), existenceNotes name rows,
        [existsQuery name, versionQuery name], 0, v⟩ := by
  have found := (Gate.lists_iff name rows).mpr listed
  simp only [lookUp, existenceNotes, Exchange.against_bind, Exchange.against_orFail,
    Gate.against_databaseExists_ok existence, Run.mapError_ok, Run.andOnward_ok,
    Exchange.against_tell, found, if_true, Gate.against_schemaVersion_error version,
    Run.mapError_error, Run.andOnward_error]
  rfl

theorem against_lookUp_malformed {e : Failure}
    (version : server.answer (versionQuery name) u = (.ok answer, v))
    (malformed : Gate.readVersion name answer = .error e) :
    against server (lookUp name) t =
      ⟨.error (.query (.version name e.message)),
        existenceNotes name rows ++ [.event (Gate.versionEvent name answer)],
        [existsQuery name, versionQuery name], 0, v⟩ := by
  have found := (Gate.lists_iff name rows).mpr listed
  simp only [lookUp, existenceNotes, Exchange.against_bind, Exchange.against_orFail,
    Gate.against_databaseExists_ok existence, Run.mapError_ok, Run.andOnward_ok,
    Exchange.against_tell, found, if_true, Gate.against_schemaVersion_ok version, malformed,
    Run.mapError_error, Run.andOnward_error]
  rfl

theorem against_lookUp_read {stored : Option Int}
    (version : server.answer (versionQuery name) u = (.ok answer, v))
    (reads : Gate.readVersion name answer = .ok stored) :
    against server (lookUp name) t =
      ⟨.ok (some (stored.getD missingVersion)),
        existenceNotes name rows ++ versionNotes name answer (stored.getD missingVersion),
        [existsQuery name, versionQuery name], 0, v⟩ := by
  have found := (Gate.lists_iff name rows).mpr listed
  simp only [lookUp, existenceNotes, versionNotes, Exchange.against_bind, Exchange.against_orFail,
    Gate.against_databaseExists_ok existence, Run.mapError_ok, Run.andOnward_ok,
    Exchange.against_tell, found, if_true, Gate.against_schemaVersion_ok version, reads,
    Exchange.against_pure, Run.still]
  rfl

end Listed

end LookUp

/-- The run phase: the queue is sent, and the script has been applied if no statement fails. -/
def runPhase (s : Script) (current : Option Int) : Exchange Outcome := do
  send 0 s.queue
  Exchange.event .info "Migration applied" [("statements", Text.ofNat s.queue.length)]
  return .applied current s.version s.queue.length

/-- What follows the look-up: the gate declines, or the run phase begins. -/
def proceed (s : Script) (name : String) (increase : Bool) (current : Option Int) :
    Exchange Outcome := do
  if increase then
    Exchange.event .debug "Version increase requested; the stored version is left unchanged" []
  match Gate.Decision.ofVersions s.version current, current with
  | .skip, some c =>
    announce (skipText name s.version c)
    return .skipped c s.version
  | _, _ =>
    announce (runText name s.version current)
    runPhase s current

theorem execute_eq {s : Script} {d : Schema.Database} (selected : s.database = some d)
    (increase : Bool) :
    s.execute increase = (do
      Exchange.acquire s.target
      let current ← lookUp d.name
      proceed s d.name increase current) := by
  unfold execute
  rw [selected]
  rfl

section Proceed

variable {s : Script} {name : String}

def increaseNotes (increase : Bool) : List Note :=
  if increase then
    [.event ⟨.debug, "Version increase requested; the stored version is left unchanged", []⟩]
  else []

def decisionNotes (text : String) : List Note := [.event ⟨.info, text, []⟩, .message .debug text]

private theorem against_announce (text : String) :
    against server (announce text) t = ⟨.ok (), decisionNotes text, [], 0, t⟩ := by
  simp only [announce, Exchange.against_bind, Exchange.against_event, Exchange.against_tell,
    Run.andOnward_ok]
  rfl

theorem reached_or_below (version : Int) (current : Option Int) :
    (∃ c, current = some c ∧ c ≤ version) ∨ ∀ c, current = some c → version < c := by
  by_cases reached : ∃ c, current = some c ∧ c ≤ version
  · exact .inl reached
  · right
    intro c known
    exact Int.not_le.mp fun above => reached ⟨c, known, above⟩

theorem against_proceed_skip {c : Int} (reached : c ≤ s.version) (increase : Bool) :
    against server (proceed s name increase (some c)) t =
      ⟨.ok (.skipped c s.version),
        increaseNotes increase ++ decisionNotes (skipText name s.version c), [], 0, t⟩ := by
  have decision : Gate.Decision.ofVersions s.version (some c) = .skip := if_pos reached
  cases increase <;>
    simp only [proceed, decision, increaseNotes, Bool.false_eq_true, if_false, if_true,
      Exchange.against_bind, Exchange.against_event, against_announce, Exchange.against_pure,
      Run.andOnward_ok, Run.still] <;>
    rfl

theorem against_proceed_run {current : Option Int}
    (below : ∀ c, current = some c → s.version < c) (increase : Bool) :
    against server (proceed s name increase current) t =
      (⟨.ok (), increaseNotes increase ++ decisionNotes (runText name s.version current), [], 0,
        t⟩ : Run (Except Failure Unit) σ).andOnward fun _ u =>
          against server (runPhase s current) u := by
  have decision : Gate.Decision.ofVersions s.version current = .run := by
    cases current with
    | none => rfl
    | some c => exact if_neg (Int.not_le.mpr (below c rfl))
  cases increase <;>
    simp only [proceed, decision, increaseNotes, Bool.false_eq_true, if_false, if_true,
      Exchange.against_bind, Exchange.against_event, against_announce, Run.andOnward_ok,
      List.nil_append, List.append_assoc, Nat.zero_add]

end Proceed

section RunPhase

theorem against_tellAll (notes : List Note) :
    against server (tellAll notes) t = ⟨.ok (), notes, [], 0, t⟩ := by
  induction notes with
  | nil => rfl
  | cons n notes ih =>
    change against server (Exchange.tell n >>= fun _ => tellAll notes) t = _
    simp only [Exchange.against_bind, Exchange.against_tell, Run.andOnward_ok, ih]
    rfl

private theorem against_send_opened (index : Nat) (queue : List String) :
    (against server (send index queue) t).opened = 0 := by
  induction queue generalizing index t with
  | nil => rfl
  | cons sql queue ih =>
    simp only [send, Exchange.against_bind, Exchange.against_event, Exchange.against_orFail,
      Exchange.against_ask, against_tellAll, Run.andOnward_ok]
    rcases server.answer sql t with ⟨reply, u⟩
    cases reply with
    | error e => simp [Run.mapError_error, Run.andOnward_error]
    | ok rows => simp [Run.mapError_ok, Run.andOnward_ok, ih]

theorem against_runPhase (s : Script) (current : Option Int) :
    let sent := against server (send 0 s.queue) t
    let r := against server (runPhase s current) t
    r.result = sent.result.map (fun _ => .applied current s.version s.queue.length) ∧
      r.asked = sent.asked ∧ r.opened = 0 ∧ r.state = sent.state := by
  intro sent r
  have unopened : sent.opened = 0 := against_send_opened 0 s.queue
  have split : r = sent.andOnward fun _ u => against server (do
      Exchange.event .info "Migration applied" [("statements", Text.ofNat s.queue.length)]
      return .applied current s.version s.queue.length) u :=
    Exchange.against_bind ..
  rw [split]
  rcases sent with ⟨result, notes, asked, opened, u⟩
  cases result with
  | error e => simpa [Run.andOnward_error, Except.map] using unopened
  | ok a =>
    simpa [Run.andOnward_ok, Exchange.against_bind, Exchange.against_event, Exchange.against_pure,
      Run.still, Except.map] using unopened

end RunPhase

/-- A run that opens one session, asks `looked` and fails on the last of it. -/
structure Stops (fault : QueryFault) (looked : List String) (left : σ)
    (r : Run (Except Failure Outcome) σ) : Prop where
  opened : r.opened = 1
  asked : r.asked = looked
  failed : r.result = .error (.query fault)
  state : r.state = left

/-- A run that opens one session and knows the version `current` once it has asked `looked`. It asks
nothing more and is skipped, or it goes on with the run phase from the state the look-up left. -/
structure Decided (server : Server σ) (s : Script) (current : Option Int) (looked : List String)
    (left : σ) (r : Run (Except Failure Outcome) σ) : Prop where
  opened : r.opened = 1
  skips : ∀ c, current = some c → c ≤ s.version →
    r.result = .ok (.skipped c s.version) ∧ r.asked = looked ∧ r.state = left
  sends : (∀ c, current = some c → s.version < c) →
    let sent := against server (send 0 s.queue) left
    r.result = sent.result.map (fun _ => .applied current s.version s.queue.length) ∧
      r.asked = looked ++ sent.asked ∧ r.state = sent.state
  skipped_iff : ∀ c target, r.result = .ok (.skipped c target) ↔
    current = some c ∧ c ≤ s.version ∧ target = s.version

section Execute

variable {s : Script} {d : Schema.Database} {increase : Bool} {start : σ} {events : List Event}
  {notes : List Note} {looked : List String}

theorem against_execute (selected : s.database = some d)
    (acquired : server.acquire s.target start = (.ok events, t)) :
    against server (s.execute increase) start =
      (⟨.ok (), events.map .event, [], 1, t⟩ : Run (Except Failure Unit) σ).andOnward fun _ t =>
        (against server (lookUp d.name) t).andOnward fun current u =>
          against server (proceed s d.name increase current) u := by
  rw [execute_eq selected]
  simp only [Exchange.against_bind, Exchange.against_acquire_ok server start acquired]

private theorem stops_of_lookUp {fault : QueryFault} (selected : s.database = some d)
    (acquired : server.acquire s.target start = (.ok events, t))
    (lookup : against server (lookUp d.name) t = ⟨.error (.query fault), notes, looked, 0, u⟩) :
    Stops fault looked u (against server (s.execute increase) start) := by
  rw [against_execute selected acquired]
  simp only [Run.andOnward_ok, lookup, Run.andOnward_error]
  exact ⟨rfl, rfl, rfl, rfl⟩

theorem decided_of_lookUp {current : Option Int} (selected : s.database = some d)
    (acquired : server.acquire s.target start = (.ok events, t))
    (lookup : against server (lookUp d.name) t = ⟨.ok current, notes, looked, 0, u⟩) :
    Decided server s current looked u (against server (s.execute increase) start) := by
  rw [against_execute selected acquired]
  simp only [Run.andOnward_ok, lookup]
  by_cases reached : ∃ c, current = some c ∧ c ≤ s.version
  · obtain ⟨c, rfl, reached⟩ := reached
    simp only [against_proceed_skip reached]
    refine ⟨rfl, ?_, ?_, ?_⟩
    · intro c' known above
      obtain rfl := Option.some.inj known
      exact ⟨rfl, List.append_nil looked, rfl⟩
    · intro below
      exact absurd reached (Int.not_le.mpr (below c rfl))
    · intro c' target
      simp only [Except.ok.injEq, Outcome.skipped.injEq, Option.some.injEq]
      constructor
      · rintro ⟨rfl, rfl⟩
        exact ⟨rfl, reached, rfl⟩
      · rintro ⟨rfl, -, rfl⟩
        exact ⟨rfl, rfl⟩
  · have below : ∀ c, current = some c → s.version < c := by
      intro c known
      exact Int.not_le.mp fun above => reached ⟨c, known, above⟩
    simp only [against_proceed_run below, Run.andOnward_ok]
    obtain ⟨result, asked, opened, state⟩ := @against_runPhase σ server u s current
    refine ⟨by simp [opened], ?_, ?_, ?_⟩
    · intro c known above
      exact absurd ⟨c, known, above⟩ reached
    · intro _
      exact ⟨result, by simp [asked], state⟩
    · intro c target
      simp only [result]
      constructor
      · intro skipped
        cases sent : (against server (send 0 s.queue) u).result <;>
          simp [sent, Except.map] at skipped
      · rintro ⟨known, above, -⟩
        exact absurd ⟨c, known, above⟩ reached

end Execute

/-- The gate decides an execution. Without a selected database nothing is acquired. A session that
cannot be opened is the failure, and nothing is asked. Else one session is opened, and the answer to
the existence query, with the answer to the version query if the database is listed, settles
whether the run stops, is skipped or enters the run phase. -/
theorem execute_follows_gate (server : Server σ) (s : Script) (increase : Bool) (start : σ) :
    (s.database = none → s.execute increase = throw (.usage .noDatabase) ∧
      against server (s.execute increase) start = .still (.error (.usage .noDatabase)) start) ∧
    ∀ d, s.database = some d →
      (∀ e left, server.acquire s.target start = (.error e, left) →
        against server (s.execute increase) start = .still (.error e) left) ∧
      ∀ events t, server.acquire s.target start = (.ok events, t) →
        ∀ existence u, server.answer (existsQuery d.name) t = (existence, u) →
          let r := against server (s.execute increase) start
          (∀ e, existence = .error e →
            Stops (.existence d.name e.message) [existsQuery d.name] u r) ∧
          (∀ rows, existence = .ok rows → ¬ Listed d.name rows →
            Decided server s none [existsQuery d.name] u r) ∧
          ∀ rows, existence = .ok rows → Listed d.name rows →
            ∀ version v, server.answer (versionQuery d.name) u = (version, v) →
              let looked := [existsQuery d.name, versionQuery d.name]
              (∀ e, version = .error e → Stops (.version d.name e.message) looked v r) ∧
              (∀ answer held, version = .ok answer → HoldsOther answer held →
                Stops (.version d.name
                  (Failure.query (.notInteger versionKey d.name held.render)).message) looked v r) ∧
              (∀ answer, version = .ok answer → LacksVersion answer →
                Decided server s (some (-1)) looked v r) ∧
              ∀ answer c, version = .ok answer → HoldsVersion answer c →
                Decided server s (some c) looked v r := by
  refine ⟨fun unselected => ?_, fun d selected => ⟨fun e left refused => ?_, ?_⟩⟩
  · have stops : s.execute increase = throw (.usage .noDatabase) := by
      unfold execute
      rw [unselected]
    exact ⟨stops, stops ▸ Exchange.against_throw server start _⟩
  · rw [execute_eq selected, Exchange.against_bind,
      Exchange.against_acquire_error server start refused]
    exact Run.andOnward_error ..
  · intro events t acquired existence u asked r
    refine ⟨?_, ?_, ?_⟩
    · rintro e rfl
      exact stops_of_lookUp selected acquired (against_lookUp_unanswered asked)
    · rintro rows rfl unlisted
      exact decided_of_lookUp selected acquired (against_lookUp_unlisted asked unlisted)
    · rintro rows rfl listed version v read looked
      refine ⟨?_, ?_, ?_, ?_⟩
      · rintro e rfl
        exact stops_of_lookUp selected acquired (against_lookUp_unread asked listed read)
      · rintro answer held rfl other
        exact stops_of_lookUp selected acquired
          (against_lookUp_malformed asked listed read (Gate.readVersion_of_holds_other other))
      · rintro answer rfl lacks
        exact decided_of_lookUp selected acquired
          (against_lookUp_read asked listed read (Gate.readVersion_of_lacks lacks))
      · rintro answer c rfl holds
        exact decided_of_lookUp selected acquired
          (against_lookUp_read asked listed read (Gate.readVersion_of_holds holds))

/-- A database at version 5 lets a script for version 3 through. -/
theorem execute_of_stored_version :
    let rows : List Row := [⟨[("Database (shop)", .text "shop")]⟩]
    let answer : List Row := [⟨[("value", .int 5)]⟩]
    let s : Script := ⟨.ofUrl "", 3, ["SELECT 1"], some (.named "shop"), none⟩
    Listed "shop" rows ∧ HoldsVersion answer 5 ∧
      Decided (.prepared [.ok rows, .ok answer]) s (some 5)
        [existsQuery "shop", versionQuery "shop"] []
        (against (.prepared [.ok rows, .ok answer]) (s.execute false) []) := by
  intro rows answer s
  have listed : Listed "shop" rows := ⟨_, List.mem_singleton.mpr rfl, rfl⟩
  have holds : HoldsVersion answer 5 := ⟨_, [], .int 5, rfl, rfl, rfl⟩
  have gate := (execute_follows_gate (.prepared [.ok rows, .ok answer]) s false []).2 _ rfl
  have existence := (gate.2 [] [.ok rows, .ok answer] rfl (.ok rows) [.ok answer] rfl).2.2
  have version := (existence rows rfl listed (.ok answer) [] rfl).2.2.2
  exact ⟨listed, holds, version answer 5 rfl holds⟩

end SchemaGate.Script
