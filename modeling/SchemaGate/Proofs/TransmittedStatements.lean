import SchemaGate.Proofs.ExecutionMessages
import SchemaGate.Proofs.MemoryUses
/-!
The statements that the server in memory shows. It keeps one record of all queries and shows those
that do not start like a look-up of the gate, so a queued statement that starts like one is not
shown either. Main statement: what an execution adds to the record and to what is shown of it, and
when that is exactly what it sent of its queue.
-/

set_option autoImplicit false

namespace SchemaGate

open Exchange (against)
open Gate (existsQuery versionQuery)

variable {σ : Type}

namespace Script

/-- How many statements of its queue a script has sent when it comes to this end: those that were
applied, or those up to the one that failed. -/
def sentCount : Except Failure Outcome → Nat
  | .ok outcome => outcome.statementsSent
  | .error (.statement index _ _) => index + 1
  | .error _ => 0

/-- What a script asks in front of its queue: nothing, or one or both look-ups of its database. -/
def LooksUp (s : Script) (looked : List String) : Prop :=
  looked = [] ∨ ∃ d, s.database = some d ∧
    (looked = [existsQuery d.name] ∨ looked = [existsQuery d.name, versionQuery d.name])

/-- A run asks look-ups and then as many statements of the queue as its result says. -/
structure Transmits (s : Script) (r : Run (Except Failure Outcome) σ) : Prop where
  counted : sentCount r.result ≤ s.queue.length
  asked : ∃ looked, s.LooksUp looked ∧ r.asked = looked ++ s.queue.take (sentCount r.result)

section Execute

variable {server : Server σ} {s : Script} {d : Schema.Database} {start t : σ} {events : List Event}

private theorem transmits_of_unsent {r : Run (Except Failure Outcome) σ}
    (unsent : sentCount r.result = 0)
    (looks : s.LooksUp r.asked) : Transmits s r := by
  refine ⟨unsent ▸ Nat.zero_le _, r.asked, looks, ?_⟩
  rw [unsent, List.take_zero, List.append_nil]

private theorem asked_send (server : Server σ) (t : σ) (queue : List String) (current : Option Int)
    (version : Int) :
    let r := against server (send 0 queue) t
    let n := sentCount (r.result.map fun _ => .applied current version queue.length)
    n ≤ queue.length ∧ r.asked = queue.take n := by
  intro r n
  rcases Server.answersAll_or_failsFirst server t queue with answered | ⟨i, sql, e, fails⟩
  · obtain ⟨done, sent, -⟩ := against_send_all answered 0
    have count : n = queue.length := by
      simp only [n, r, done]
      rfl
    rw [count, List.take_length]
    exact ⟨Nat.le_refl _, sent⟩
  · obtain ⟨failed, sent, -⟩ := against_send_first fails 0
    have count : n = i + 1 := by
      simp only [n, r, failed, Nat.zero_add]
      rfl
    obtain ⟨inside, -⟩ := List.getElem?_eq_some_iff.mp fails.found
    rw [count]
    exact ⟨inside, sent⟩

private theorem transmits_of_acquired (increase : Bool) (selected : s.database = some d)
    (acquired : server.acquire s.target start = (.ok events, t)) :
    Transmits s (against server (s.execute increase) start) := by
  obtain ⟨asks, -, -, -⟩ := lookUp_course server t d.name
  have looks : s.LooksUp (against server (lookUp d.name) t).asked := .inr ⟨d, selected, asks⟩
  cases found : (against server (lookUp d.name) t).result with
  | error e =>
    obtain ⟨fault, rfl⟩ := lookUp_fails_as_query found
    obtain ⟨result, -, asked, -⟩ := execute_stops increase selected acquired found
    apply transmits_of_unsent
    · rw [result]
      rfl
    · rw [asked]
      exact looks
  | ok current =>
    obtain ⟨notes, lookup⟩ := against_lookUp_of_ok found
    rw [lookup] at looks
    have decided : Decided server s current _ _ (against server (s.execute increase) start) :=
      decided_of_lookUp selected acquired lookup
    rcases reached_or_below s.version current with ⟨c, rfl, reached⟩ | below
    · obtain ⟨result, asked, -⟩ := decided.skips c rfl reached
      apply transmits_of_unsent
      · rw [result]
        rfl
      · rw [asked]
        exact looks
    · obtain ⟨result, asked, -⟩ := decided.sends below
      obtain ⟨counted, sent⟩ := asked_send server (server.after t (lookUpQueries d.name current))
        s.queue current s.version
      rw [← result] at counted sent
      exact ⟨counted, _, looks, by rw [asked, sent]⟩

end Execute

end Script

namespace MemoryServer

open Script (sentCount Transmits)

section Record

variable {α : Type}

private theorem queries_run (d : Dialogue α) (m : MemoryServer) :
    (d.run server m).state.queries = m.queries ++ (d.run server m).asked := by
  induction d generalizing m with
  | done a => exact (List.append_nil _).symm
  | tell n next ih => exact ih m
  | acquire target next ih =>
    cases refusing : m.refusing with
    | true =>
      have refused := acquire_of_refusing refusing target
      simp only [Dialogue.run, refused]
      exact ih _ m
    | false =>
      have admitted := acquire_of_admitting refusing target
      simp only [Dialogue.run, admitted]
      exact ih _ m.entered
  | ask sql next ih =>
    have recorded : (answer sql m).2.queries = m.queries ++ [sql] := (answered m sql).queries
    change ((next (answer sql m).1).run server (answer sql m).2).state.queries =
      m.queries ++ sql :: ((next (answer sql m).1).run server (answer sql m).2).asked
    rw [ih, recorded, List.append_assoc, List.singleton_append]

private theorem statements_against (x : Exchange α) (m : MemoryServer) :
    let r := against server x m
    r.state.statements = m.statements ++ r.asked.filter fun sql => !isLookup sql := by
  intro r
  have recorded : r.state.queries = m.queries ++ r.asked := queries_run x.run m
  rw [statements, recorded, List.filter_append]
  rfl

end Record

section LookUps

def LikeLookUp (sql : String) : Prop :=
  showLead.toList <+: sql.toList ∨ versionLead.toList <+: sql.toList

private theorem isLookup_iff {sql : String} : isLookup sql = true ↔ LikeLookUp sql := by
  have start (lead : String) :
      Text.startsWith lead.toList sql.toList = true ↔ lead.toList <+: sql.toList := by
    rw [Text.startsWith_iff]
    exact exists_congr fun rest => eq_comm
  rw [isLookup, Bool.or_eq_true, start, start]
  rfl

private theorem prefix_of_quotedAfter? {sql lead : String} {close : Char} {body : List Char}
    (found : quotedAfter? sql lead close = some body) : lead.toList <+: sql.toList := by
  obtain ⟨rest, behind, -⟩ := Option.bind_eq_some_iff.mp found
  exact ⟨rest, (Text.eq_append_of_after? behind).symm⟩

private theorem versionQuery_closes (name : String) :
    "\";".toList <:+ (versionQuery name).toList := by
  unfold versionQuery
  rw [String.toList_append]
  exact List.suffix_append _ _

private theorem likeLookUp_of_looksUp {s : Script} {looked : List String}
    (looks : s.LooksUp looked) :
    ∀ sql ∈ looked, LikeLookUp sql := by
  have existence (name : String) : LikeLookUp (existsQuery name) :=
    .inl (prefix_of_quotedAfter? (quotedAfter?_existsQuery name))
  have version (name : String) : LikeLookUp (versionQuery name) :=
    .inr (prefix_of_quotedAfter? (quotedAfter?_versionQuery name))
  rcases looks with rfl | ⟨d, -, rfl | rfl⟩
  · simp
  · simp [existence]
  · simp [existence, version]

end LookUps

private theorem transmits_execute (s : Script) (increase : Bool) (m : MemoryServer) :
    Transmits s (against server (s.execute increase) m) := by
  cases selected : s.database with
  | none =>
    rw [Script.against_execute_unselected selected]
    exact Script.transmits_of_unsent rfl (.inl rfl)
  | some d =>
    cases refusing : m.refusing with
    | true =>
      rw [Script.against_execute_refused selected (acquire_of_refusing refusing s.target)]
      exact Script.transmits_of_unsent rfl (.inl rfl)
    | false =>
      exact Script.transmits_of_acquired increase selected (acquire_of_admitting refusing s.target)

/-- An execution asks the look-ups of its database and then a first part of its queue, as long as
its result says. What the server shows grows by that part without the statements that start like a
look-up; so it grows by the statements that were sent, or by as many of them, exactly if none of
them starts like one. -/
theorem statements_grow_by_sent_iff (s : Script) (increase : Bool) (m : MemoryServer) :
    let r := against server (s.execute increase) m
    let sent := s.queue.take (sentCount r.result)
    sent.length = sentCount r.result ∧
    (∃ looked, s.LooksUp looked ∧ r.state.queries = m.queries ++ (looked ++ sent)) ∧
    r.state.statements = m.statements ++ sent.filter (fun sql => !isLookup sql) ∧
    (r.state.statements = m.statements ++ sent ↔ ∀ sql ∈ sent, ¬ LikeLookUp sql) ∧
    (r.state.statements.length = m.statements.length + sentCount r.result ↔
      ∀ sql ∈ sent, ¬ LikeLookUp sql) := by
  intro r sent
  obtain ⟨counted, looked, looks, split⟩ := transmits_execute s increase m
  have asked : r.asked = looked ++ sent := split
  have count : sent.length = sentCount r.result := List.length_take_of_le counted
  have recorded : r.state.queries = m.queries ++ r.asked := queries_run (s.execute increase).run m
  have grown : r.state.statements = m.statements ++ r.asked.filter fun sql => !isLookup sql :=
    statements_against (s.execute increase) m
  have hidden : looked.filter (fun sql => !isLookup sql) = [] := by
    rw [List.filter_eq_nil_iff]
    intro sql member
    simp [isLookup_iff.mpr (likeLookUp_of_looksUp looks sql member)]
  have plain : (∀ sql ∈ sent, (!isLookup sql) = true) ↔ ∀ sql ∈ sent, ¬ LikeLookUp sql := by
    simp only [Bool.not_eq_true', ← Bool.not_eq_true, isLookup_iff]
  rw [asked] at recorded
  rw [asked, List.filter_append, hidden, List.nil_append] at grown
  refine ⟨count, ⟨looked, looks, recorded⟩, grown, ?_, ?_⟩
  · rw [grown, List.append_cancel_left_eq, List.filter_eq_self, plain]
  · rw [grown, List.length_append, ← count, Nat.add_left_cancel_iff,
      List.length_filter_eq_length_iff, plain]

/-- A queued statement that is no look-up but starts like one is sent and answered, yet nothing more
is shown. -/
theorem statement_like_lookUp_hidden :
    let m := empty.withDatabase "shop" (some 5)
    let sql := "SELECT `value` FROM `shop`.`prices`;"
    let s : Script := ⟨.ofUrl "", 3, [sql], some ((Schema.Database.named "shop").withExisting true),
      none⟩
    let r := against server (s.execute false) m
    (∀ name, sql ≠ existsQuery name ∧ sql ≠ versionQuery name) ∧
      r.result = .ok (.applied (some 5) 3 1) ∧
      r.state.queries = [existsQuery "shop", versionQuery "shop", sql] ∧
      s.queue.take (sentCount r.result) = [sql] ∧ r.state.statements = m.statements := by
  intro m sql s r
  have other (name : String) : sql ≠ existsQuery name := by
    intro same
    have start : showLead.toList <+: sql.toList :=
      same ▸ prefix_of_quotedAfter? (quotedAfter?_existsQuery name)
    exact absurd start (by decide)
  have other' (name : String) : sql ≠ versionQuery name := by
    intro same
    have close : "\";".toList <:+ sql.toList := same ▸ versionQuery_closes name
    exact absurd close (by decide)
  have result : r.result = .ok (.applied (some 5) 3 1) := by decide +kernel
  have sent : s.queue.take (sentCount r.result) = [sql] := by
    rw [result]
    rfl
  have recorded : r.state.queries = [existsQuery "shop", versionQuery "shop", sql] := by
    decide +kernel
  have shown : r.state.statements = m.statements := by decide +kernel
  exact ⟨fun name => ⟨other name, other' name⟩, result, recorded, sent, shown⟩

end MemoryServer

end SchemaGate
