import SchemaGate.Proofs.Execution
/-!
The run phase of an execution. A queue is sent statement by statement, each in the state that the
ones before it left the server in, until one fails. Main statement: once the gate lets a script
through, what is sent is the queue up to its first failing statement, which the failure names, or
the whole queue, and the rows of the answers change nothing of that.
-/

set_option autoImplicit false

namespace SchemaGate

variable {σ : Type}

namespace Server

def after (server : Server σ) (t : σ) (queries : List String) : σ :=
  queries.foldl (fun t sql => (server.answer sql t).2) t

def reply (server : Server σ) (t : σ) (earlier : List String) (sql : String) :
    Except Failure (List Row) :=
  (server.answer sql (server.after t earlier)).1

/-- No statement of a queue fails, each asked after the ones before it. -/
def AnswersAll (server : Server σ) (t : σ) (queue : List String) : Prop :=
  ∀ i sql, queue[i]? = some sql → ∃ rows, server.reply t (queue.take i) sql = .ok rows

/-- The statement at this index is the first of a queue that fails. -/
structure FailsFirst (server : Server σ) (t : σ) (queue : List String) (i : Nat) (sql : String)
    (e : Failure) : Prop where
  found : queue[i]? = some sql
  answered : server.AnswersAll t (queue.take i)
  fails : server.reply t (queue.take i) sql = .error e

def withRows (server : Server σ) (alter : σ → String → List Row → List Row) : Server σ where
  acquire := server.acquire
  answer sql t := ((server.answer sql t).1.map (alter t sql), (server.answer sql t).2)

section Queues

variable {server : Server σ} {t : σ} {q sql : String} {queue : List String} {i : Nat} {e : Failure}

private theorem after_append (server : Server σ) (t : σ) (first rest : List String) :
    server.after t (first ++ rest) = server.after (server.after t first) rest :=
  List.foldl_append

private theorem answersAll_nil : server.AnswersAll t [] := by
  intro i sql found
  simp at found

private theorem answersAll_cons_iff : server.AnswersAll t (q :: queue) ↔
    (∃ rows, (server.answer q t).1 = .ok rows) ∧
      server.AnswersAll (server.answer q t).2 queue := by
  constructor
  · intro h
    refine ⟨h 0 q rfl, ?_⟩
    intro i sql found
    exact h (i + 1) sql found
  · rintro ⟨first, rest⟩ i sql found
    cases i with
    | zero =>
      obtain rfl : q = sql := Option.some.inj found
      exact first
    | succ i => exact rest i sql found

private theorem failsFirst_zero_iff : server.FailsFirst t (q :: queue) 0 sql e ↔
    q = sql ∧ (server.answer q t).1 = .error e := by
  constructor
  · rintro ⟨found, -, fails⟩
    obtain rfl : q = sql := Option.some.inj found
    exact ⟨rfl, fails⟩
  · rintro ⟨rfl, fails⟩
    exact ⟨rfl, answersAll_nil, fails⟩

private theorem failsFirst_succ_iff : server.FailsFirst t (q :: queue) (i + 1) sql e ↔
    (∃ rows, (server.answer q t).1 = .ok rows) ∧
      server.FailsFirst (server.answer q t).2 queue i sql e := by
  constructor
  · rintro ⟨found, answered, fails⟩
    obtain ⟨first, rest⟩ := answersAll_cons_iff.mp answered
    exact ⟨first, found, rest, fails⟩
  · rintro ⟨first, found, rest, fails⟩
    exact ⟨found, answersAll_cons_iff.mpr ⟨first, rest⟩, fails⟩

theorem answersAll_or_failsFirst (server : Server σ) (t : σ) (queue : List String) :
    server.AnswersAll t queue ∨ ∃ i sql e, server.FailsFirst t queue i sql e := by
  induction queue generalizing t with
  | nil => exact .inl answersAll_nil
  | cons q queue ih =>
    cases first : (server.answer q t).1 with
    | error e => exact .inr ⟨0, q, e, failsFirst_zero_iff.mpr ⟨rfl, first⟩⟩
    | ok rows =>
      rcases ih (server.answer q t).2 with rest | ⟨i, sql, e, rest⟩
      · exact .inl (answersAll_cons_iff.mpr ⟨⟨rows, first⟩, rest⟩)
      · exact .inr ⟨i + 1, sql, e, failsFirst_succ_iff.mpr ⟨⟨rows, first⟩, rest⟩⟩

end Queues

section Rows

variable (server : Server σ) (alter : σ → String → List Row → List Row) (t : σ)

private theorem after_withRows (queries : List String) :
    (server.withRows alter).after t queries = server.after t queries := rfl

private theorem reply_withRows (earlier : List String) (sql : String) :
    (server.withRows alter).reply t earlier sql =
      (server.reply t earlier sql).map (alter (server.after t earlier) sql) := rfl

variable {server t}

private theorem AnswersAll.withRows {queue : List String} (h : server.AnswersAll t queue)
    (alter : σ → String → List Row → List Row) :
    (server.withRows alter).AnswersAll t queue := by
  intro i sql found
  obtain ⟨rows, answered⟩ := h i sql found
  refine ⟨alter (server.after t (queue.take i)) sql rows, ?_⟩
  rw [reply_withRows, answered]
  rfl

private theorem FailsFirst.withRows {queue : List String} {i : Nat} {sql : String} {e : Failure}
    (h : server.FailsFirst t queue i sql e) (alter : σ → String → List Row → List Row) :
    (server.withRows alter).FailsFirst t queue i sql e := by
  refine ⟨h.found, h.answered.withRows alter, ?_⟩
  rw [reply_withRows, h.fails]
  rfl

end Rows

end Server

namespace Script

open Exchange (against)
open Gate (existsQuery versionQuery Listed)

variable {server : Server σ} {t u : σ} {index : Nat} {sql : String} {queue : List String}

section Send

def sendNote (index : Nat) (sql : String) : Note :=
  .event ⟨.trace, "Sending statement", [("index", Text.ofNat index), ("sql", sql)]⟩

theorem against_send_cons_error {e : Failure} (asked : server.answer sql t = (.error e, u)) :
    against server (send index (sql :: queue)) t =
      ⟨.error (.statement index sql e.message), [sendNote index sql], [sql], 0, u⟩ := by
  simp only [send, Exchange.against_bind, Exchange.against_event, Exchange.against_orFail,
    Exchange.against_ask, asked, Run.mapError_error, Run.andOnward_ok, Run.andOnward_error]
  rfl

theorem against_send_cons_ok {rows : List Row} (asked : server.answer sql t = (.ok rows, u)) :
    let rest := against server (send (index + 1) queue) u
    against server (send index (sql :: queue)) t =
      ⟨rest.result, sendNote index sql :: (rowNotes index rows ++ rest.notes), sql :: rest.asked,
        rest.opened, rest.state⟩ := by
  intro rest
  simp only [send, Exchange.against_bind, Exchange.against_event, Exchange.against_orFail,
    Exchange.against_ask, asked, against_tellAll, Run.mapError_ok, Run.andOnward_ok]
  simp [rest, sendNote]

theorem against_send_all (answered : server.AnswersAll t queue) (index : Nat) :
    let r := against server (send index queue) t
    r.result = .ok () ∧ r.asked = queue ∧ r.state = server.after t queue := by
  induction queue generalizing t index with
  | nil => exact ⟨rfl, rfl, rfl⟩
  | cons sql queue ih =>
    obtain ⟨⟨rows, first⟩, rest⟩ := Server.answersAll_cons_iff.mp answered
    have asked : server.answer sql t = (.ok rows, (server.answer sql t).2) := Prod.ext first rfl
    obtain ⟨result, sent, left⟩ := ih rest (index + 1)
    rw [against_send_cons_ok asked]
    exact ⟨result, congrArg (sql :: ·) sent, left⟩

theorem against_send_first {i : Nat} {e : Failure} {failing : String}
    (fails : server.FailsFirst t queue i failing e) (index : Nat) :
    let r := against server (send index queue) t
    r.result = .error (.statement (index + i) failing e.message) ∧
      r.asked = queue.take (i + 1) ∧ r.state = server.after t (queue.take (i + 1)) := by
  -- the index of the head grows as the position of the failing statement shrinks
  induction queue generalizing t index i with
  | nil => exact nomatch fails.found
  | cons sql queue ih =>
    cases i with
    | zero =>
      obtain ⟨rfl, first⟩ := Server.failsFirst_zero_iff.mp fails
      have asked : server.answer sql t = (.error e, (server.answer sql t).2) := Prod.ext first rfl
      rw [against_send_cons_error asked]
      exact ⟨rfl, rfl, rfl⟩
    | succ i =>
      obtain ⟨⟨rows, first⟩, rest⟩ := Server.failsFirst_succ_iff.mp fails
      have asked : server.answer sql t = (.ok rows, (server.answer sql t).2) := Prod.ext first rfl
      obtain ⟨result, sent, left⟩ := ih rest (index + 1)
      have position : index + 1 + i = index + (i + 1) := by omega
      rw [against_send_cons_ok asked]
      exact ⟨position ▸ result, congrArg (sql :: ·) sent, left⟩

/-- What is sent of a queue is all of it, or what stands up to its first failing statement. -/
private theorem send_course (server : Server σ) (t : σ) (queue : List String) :
    let r := against server (send 0 queue) t
    (server.AnswersAll t queue ∧ r.asked = queue ∨
      ∃ i sql e, server.FailsFirst t queue i sql e ∧ r.asked = queue.take (i + 1)) ∧
      r.state = server.after t r.asked := by
  intro r
  rcases Server.answersAll_or_failsFirst server t queue with answered | ⟨i, sql, e, fails⟩
  · obtain ⟨-, sent, left⟩ := against_send_all answered 0
    exact ⟨.inl ⟨answered, sent⟩, by rw [left, sent]⟩
  · obtain ⟨-, sent, left⟩ := against_send_first fails 0
    exact ⟨.inr ⟨i, sql, e, fails, sent⟩, by rw [left, sent]⟩

private theorem against_send_withRows (server : Server σ) (alter : σ → String → List Row → List Row)
    (t : σ) (index : Nat) (queue : List String) :
    let r := against server (send index queue) t
    let r' := against (server.withRows alter) (send index queue) t
    r'.result = r.result ∧ r'.asked = r.asked ∧ r'.state = r.state := by
  intro r r'
  rcases Server.answersAll_or_failsFirst server t queue with answered | ⟨i, sql, e, fails⟩
  · obtain ⟨done, sent, left⟩ := against_send_all answered index
    obtain ⟨done', sent', left'⟩ := against_send_all (answered.withRows alter) index
    exact ⟨done'.trans done.symm, sent'.trans sent.symm, left'.trans left.symm⟩
  · obtain ⟨failed, sent, left⟩ := against_send_first fails index
    obtain ⟨failed', sent', left'⟩ := against_send_first (fails.withRows alter) index
    exact ⟨failed'.trans failed.symm, sent'.trans sent.symm, left'.trans left.symm⟩

end Send

section Execute

variable {name : String} {current : Option Int}

def lookUpQueries (name : String) : Option Int → List String
  | none => [existsQuery name]
  | some _ => [existsQuery name, versionQuery name]

/-- A look-up asks for the database, and perhaps for its version; it opens no session. -/
structure LookUpCourse (server : Server σ) (t : σ) (name : String)
    (r : Run (Except Failure (Option Int)) σ) : Prop where
  asks : r.asked = [existsQuery name] ∨ r.asked = [existsQuery name, versionQuery name]
  finds : ∀ current, r.result = .ok current → r.asked = lookUpQueries name current
  opened : r.opened = 0
  state : r.state = server.after t r.asked

theorem lookUp_course (server : Server σ) (t : σ) (name : String) :
    LookUpCourse server t name (against server (lookUp name) t) := by
  rcases existence : server.answer (existsQuery name) t with ⟨e | rows, u⟩
  · rw [against_lookUp_unanswered existence]
    exact ⟨.inl rfl, (fun _ found => nomatch found), rfl, (congrArg Prod.snd existence).symm⟩
  by_cases listed : Listed name rows
  · rcases version : server.answer (versionQuery name) u with ⟨stored, v⟩
    have both : v = server.after t [existsQuery name, versionQuery name] := by
      change v = (server.answer (versionQuery name) (server.answer (existsQuery name) t).2).2
      rw [existence, version]
    rcases stored with e | answer
    · rw [against_lookUp_unread existence listed version]
      exact ⟨.inr rfl, (fun _ found => nomatch found), rfl, both⟩
    cases reads : Gate.readVersion name answer with
    | error e =>
      rw [against_lookUp_malformed existence listed version reads]
      exact ⟨.inr rfl, (fun _ found => nomatch found), rfl, both⟩
    | ok stored =>
      rw [against_lookUp_read existence listed version reads]
      refine ⟨.inr rfl, fun current found => ?_, rfl, both⟩
      obtain rfl := Except.ok.inj found
      rfl
  · rw [against_lookUp_unlisted existence listed]
    refine ⟨.inl rfl, fun current found => ?_, rfl, (congrArg Prod.snd existence).symm⟩
    obtain rfl := Except.ok.inj found
    rfl

theorem against_lookUp_of_ok (found : (against server (lookUp name) t).result = .ok current) :
    ∃ notes, against server (lookUp name) t =
      ⟨.ok current, notes, lookUpQueries name current, 0,
        server.after t (lookUpQueries name current)⟩ := by
  obtain ⟨-, finds, opened, state⟩ := lookUp_course server t name
  rw [finds current found] at state
  refine ⟨(against server (lookUp name) t).notes, ?_⟩
  rw [← found, ← opened, ← state, ← finds current found]

/-- The course of an execution: what came of it, what it asked, the sessions it opened and the state
it left, but not what it told. -/
structure SameCourse (r r' : Run (Except Failure Outcome) σ) : Prop where
  result : r'.result = r.result
  asked : r'.asked = r.asked
  opened : r'.opened = r.opened
  state : r'.state = r.state

variable {s : Script} {d : Schema.Database} {start : σ} {events : List Event}

theorem execute_stops (increase : Bool) (selected : s.database = some d)
    (acquired : server.acquire s.target start = (.ok events, t)) {e : Failure}
    (failed : (against server (lookUp d.name) t).result = .error e) :
    let r := against server (s.execute increase) start
    r.result = .error e ∧
      r.notes = events.map .event ++ (against server (lookUp d.name) t).notes ∧
      r.asked = (against server (lookUp d.name) t).asked ∧
      r.state = (against server (lookUp d.name) t).state := by
  intro r
  have split : r = _ := against_execute selected acquired
  rw [split]
  simp only [Run.andOnward_ok]
  generalize against server (lookUp d.name) t = lookup at failed ⊢
  obtain ⟨result, notes, asked, opened, u⟩ := lookup
  obtain rfl : result = .error e := failed
  rw [Run.andOnward_error]
  exact ⟨rfl, rfl, rfl, rfl⟩

private theorem execute_declines (increase : Bool) (selected : s.database = some d)
    (acquired : server.acquire s.target start = (.ok events, t))
    (found : (against server (lookUp d.name) t).result = .ok current)
    (decides : Gate.Decision.ofVersions s.version current = .skip) :
    let r := against server (s.execute increase) start
    r.asked = (against server (lookUp d.name) t).asked ∧
      r.state = (against server (lookUp d.name) t).state := by
  intro r
  obtain ⟨notes, lookup⟩ := against_lookUp_of_ok found
  have decided : Decided server s current _ _ r := decided_of_lookUp selected acquired lookup
  rw [lookup]
  rcases current with _ | c
  · exact nomatch decides
  · by_cases reached : c ≤ s.version
    · exact (decided.skips c rfl reached).2
    · have runs : Gate.Decision.ofVersions s.version (some c) = .run := if_neg reached
      exact nomatch decides.symm.trans runs

private theorem execute_sends (increase : Bool) (selected : s.database = some d)
    (acquired : server.acquire s.target start = (.ok events, t))
    (found : (against server (lookUp d.name) t).result = .ok current)
    (decides : Gate.Decision.ofVersions s.version current = .run) :
    let left := server.after t (lookUpQueries d.name current)
    let sent := against server (send 0 s.queue) left
    let r := against server (s.execute increase) start
    r.opened = 1 ∧
      r.result = sent.result.map (fun _ => .applied current s.version s.queue.length) ∧
      r.asked = lookUpQueries d.name current ++ sent.asked ∧ r.state = sent.state := by
  intro left sent r
  obtain ⟨notes, lookup⟩ := against_lookUp_of_ok found
  have decided : Decided server s current _ _ r := decided_of_lookUp selected acquired lookup
  have below : ∀ c, current = some c → s.version < c := by
    rintro c rfl
    apply Int.not_le.mp
    intro reached
    have skips : Gate.Decision.ofVersions s.version (some c) = .skip := if_pos reached
    rw [skips] at decides
    exact nomatch decides
  exact ⟨decided.opened, decided.sends below⟩

/-- What is sent of some statements to a server in state `t` once the look-up of their database came
to this: nothing if it failed or the gate declines, and else the statements up to the first that
fails. -/
inductive SentBehind (server : Server σ) (t : σ) (version : Int) (statements : List String) :
    Except Failure (Option Int) → List String → Prop where
  | failed (e : Failure) : SentBehind server t version statements (.error e) []
  | skipped {current : Option Int}
      (skips : Gate.Decision.ofVersions version current = .skip) :
      SentBehind server t version statements (.ok current) []
  | whole {current : Option Int} (runs : Gate.Decision.ofVersions version current = .run)
      (answered : server.AnswersAll t statements) :
      SentBehind server t version statements (.ok current) statements
  | upTo {current : Option Int} {i : Nat} {sql : String} {e : Failure}
      (runs : Gate.Decision.ofVersions version current = .run)
      (fails : server.FailsFirst t statements i sql e) :
      SentBehind server t version statements (.ok current) (statements.take (i + 1))

/-- What was asked of a server whose session was open in state `t`, and the state it was left in:
one or two queries of a look-up, and what is sent behind it. -/
structure AsksGated (server : Server σ) (t : σ) (name : String) (version : Int)
    (statements asked : List String) (left : σ) : Prop where
  looks : (against server (lookUp name) t).asked = [existsQuery name] ∨
    (against server (lookUp name) t).asked = [existsQuery name, versionQuery name]
  sends : ∃ sent, asked = (against server (lookUp name) t).asked ++ sent ∧
    SentBehind server (against server (lookUp name) t).state version statements
      (against server (lookUp name) t).result sent
  state : left = server.after t asked

theorem SentBehind.eq_take {version : Int} {statements sent : List String}
    {found : Except Failure (Option Int)}
    (behind : SentBehind server t version statements found sent) :
    ∃ n, sent = statements.take n := by
  cases behind with
  | failed | skipped => exact ⟨0, rfl⟩
  | whole => exact ⟨statements.length, List.take_length.symm⟩
  | @upTo _ i => exact ⟨i + 1, rfl⟩

theorem asksGated_execute (increase : Bool) (selected : s.database = some d)
    (acquired : server.acquire s.target start = (.ok events, t)) :
    let r := against server (s.execute increase) start
    AsksGated server t d.name s.version s.queue r.asked r.state := by
  intro r
  obtain ⟨looks, -, -, looked⟩ := lookUp_course server t d.name
  cases found : (against server (lookUp d.name) t).result with
  | error e =>
    obtain ⟨-, -, asked, state⟩ := execute_stops increase selected acquired found
    refine ⟨looks, ⟨[], by rw [asked, List.append_nil], ?_⟩, by rw [state, asked, looked]⟩
    rw [found]
    exact .failed e
  | ok current =>
    cases decides : Gate.Decision.ofVersions s.version current with
    | skip =>
      obtain ⟨asked, state⟩ := execute_declines increase selected acquired found decides
      refine ⟨looks, ⟨[], by rw [asked, List.append_nil], ?_⟩, by rw [state, asked, looked]⟩
      rw [found]
      exact .skipped decides
    | run =>
      obtain ⟨-, -, asked, state⟩ := execute_sends increase selected acquired found decides
      obtain ⟨notes, lookup⟩ := against_lookUp_of_ok found
      obtain ⟨course, stopped⟩ :=
        send_course server (server.after t (lookUpQueries d.name current)) s.queue
      refine ⟨looks, ⟨_, by rw [asked, lookup], ?_⟩, ?_⟩
      · rw [lookup]
        rcases course with ⟨answered, sent⟩ | ⟨i, sql, e, fails, sent⟩
        · rw [sent]
          exact .whole decides answered
        · rw [sent]
          exact .upTo decides fails
      · rw [state, stopped, asked, Server.after_append]

/-- Once the gate lets a script through, its statements are sent in the order of the queue on the
one session that was opened. If some statement fails, the first that does is the last one sent, and
the failure holds its index, its text and the message; else the whole queue is sent and applied.
One of the two is the case. Other rows in the answers that leave the look-up as it is change
nothing. -/
theorem execute_runs_queue (increase : Bool) (selected : s.database = some d)
    (acquired : server.acquire s.target start = (.ok events, t))
    (found : (against server (lookUp d.name) t).result = .ok current)
    (decides : Gate.Decision.ofVersions s.version current = .run) :
    let looked := lookUpQueries d.name current
    let left := server.after t looked
    let r := against server (s.execute increase) start
    r.opened = 1 ∧
    (∀ i sql e, server.FailsFirst left s.queue i sql e →
      r.result = .error (.statement i sql e.message) ∧
        r.asked = looked ++ s.queue.take (i + 1) ∧
        r.state = server.after left (s.queue.take (i + 1))) ∧
    (server.AnswersAll left s.queue →
      r.result = .ok (.applied current s.version s.queue.length) ∧
        r.asked = looked ++ s.queue ∧ r.state = server.after left s.queue) ∧
    (server.AnswersAll left s.queue ∨ ∃ i sql e, server.FailsFirst left s.queue i sql e) ∧
    ∀ alter, (against (server.withRows alter) (lookUp d.name) t).result = .ok current →
      SameCourse r (against (server.withRows alter) (s.execute increase) start) := by
  intro looked left r
  obtain ⟨opened, result, asked, state⟩ := execute_sends increase selected acquired found decides
  have first (i : Nat) (sql : String) (e : Failure)
      (fails : server.FailsFirst left s.queue i sql e) :
      r.result = .error (.statement i sql e.message) ∧
        r.asked = looked ++ s.queue.take (i + 1) ∧
        r.state = server.after left (s.queue.take (i + 1)) := by
    obtain ⟨failed, sent, stopped⟩ := against_send_first fails 0
    rw [Nat.zero_add] at failed
    exact ⟨by rw [result, failed]; rfl, by rw [asked, sent], state.trans stopped⟩
  have all (answered : server.AnswersAll left s.queue) :
      r.result = .ok (.applied current s.version s.queue.length) ∧
        r.asked = looked ++ s.queue ∧ r.state = server.after left s.queue := by
    obtain ⟨done, sent, stopped⟩ := against_send_all answered 0
    exact ⟨by rw [result, done]; rfl, by rw [asked, sent], state.trans stopped⟩
  refine ⟨opened, first, all, Server.answersAll_or_failsFirst server left s.queue, ?_⟩
  intro alter found'
  have acquired' : (server.withRows alter).acquire s.target start = (.ok events, t) := acquired
  obtain ⟨opened', result', asked', state'⟩ :=
    execute_sends increase selected acquired' found' decides
  obtain ⟨sameResult, sameAsked, sameState⟩ := against_send_withRows server alter left 0 s.queue
  rw [Server.after_withRows] at result' asked' state'
  refine ⟨?_, ?_, opened'.trans opened.symm, ?_⟩
  · rw [result', sameResult, result]
  · rw [asked', sameAsked, asked]
  · rw [state', sameState, state]

/-- Of four equal statements the third fails, because of what was asked before it, and the fourth is
not sent. -/
theorem execute_stops_at_third :
    let server : Server (List String) := .ofHistory (fun _ => .ok ()) fun history _ =>
      match history.length with
      | 0 => .ok [⟨[("Database (shop)", .text "shop")]⟩]
      | 1 => .ok [⟨[("value", .int 5)]⟩]
      | 4 => .error (.sql .closed)
      | _ => .ok [⟨[("n", .int 1)]⟩]
    let s : Script := ⟨.ofUrl "", 3, ["DO 1", "DO 1", "DO 1", "DO 1"], some (.named "shop"), none⟩
    let looked := [existsQuery "shop", versionQuery "shop"]
    let r := against server (s.execute true) []
    server.acquire s.target [] = (.ok [], []) ∧
      (against server (lookUp "shop") []).result = .ok (some 5) ∧
      Gate.Decision.ofVersions s.version (some 5) = .run ∧
      server.FailsFirst (server.after [] looked) s.queue 2 "DO 1" (.sql .closed) ∧
      r.result = .error (.statement 2 "DO 1" (Failure.sql .closed).message) ∧
      r.asked = looked ++ ["DO 1", "DO 1", "DO 1"] := by
  intro server s looked r
  have found : (against server (lookUp "shop") []).result = .ok (some 5) := rfl
  have fails : server.FailsFirst (server.after [] looked) s.queue 2 "DO 1" (.sql .closed) := by
    refine Server.failsFirst_succ_iff.mpr ⟨⟨_, rfl⟩, ?_⟩
    refine Server.failsFirst_succ_iff.mpr ⟨⟨_, rfl⟩, ?_⟩
    exact Server.failsFirst_zero_iff.mpr ⟨rfl, rfl⟩
  have run := @execute_runs_queue _ server [] (some 5) s _ [] [] true rfl rfl found rfl
  obtain ⟨result, asked, -⟩ := run.2.1 2 "DO 1" _ fails
  exact ⟨rfl, found, rfl, fails, result, asked⟩

end Execute

end Script

end SchemaGate
