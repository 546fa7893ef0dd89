import SchemaGate.Proofs.BuilderCalls
import SchemaGate.Proofs.ExecutionMessages
import SchemaGate.Proofs.MemoryGrowth
import SchemaGate.Proofs.MemoryLookUps
/-!
One script executed again and again on a server in memory. A skipped execution leaves the databases
as they are, so it is skipped again; one that is applied to a new database has created it without a
version. Main statement: after either of them every further execution is skipped.
-/

set_option autoImplicit false

namespace SchemaGate

variable {σ : Type}

open Exchange (against)
open Gate (existsQuery versionQuery missingVersion)

namespace Script

/-- Executions of one script, each from the state that the one before it left. The flags say whether
an increase of the version is asked for. -/
def repeated (server : Server σ) (s : Script) :
    List Bool → σ → List (Run (Except Failure Outcome) σ)
  | [], _ => []
  | increase :: flags, t =>
    let r := against server (s.execute increase) t
    r :: repeated server s flags r.state

section Applied

variable {server : Server σ} {s : Script} {d : Schema.Database} {start t : σ} {events : List Event}

private theorem settled_course (selected : s.database = some d)
    (acquired : server.acquire s.target start = (.ok events, t)) {increase : Bool}
    (settled : Settled (against server (s.execute increase) start).result) :
    ∃ current, (against server (lookUp d.name) t).result = .ok current ∧
      Decided server s current (lookUpQueries d.name current)
        (server.after t (lookUpQueries d.name current))
        (against server (s.execute increase) start) := by
  obtain ⟨current, found⟩ := (settled_iff selected acquired increase).mp settled
  obtain ⟨notes, lookup⟩ := against_lookUp_of_ok found
  exact ⟨current, found, decided_of_lookUp selected acquired lookup⟩

private theorem applied_course (selected : s.database = some d)
    (acquired : server.acquire s.target start = (.ok events, t)) {increase : Bool}
    {current : Option Int} {target : Int} {n : Nat}
    (applied : (against server (s.execute increase) start).result =
      .ok (.applied current target n)) :
    let left := server.after t (lookUpQueries d.name current)
    (against server (lookUp d.name) t).result = .ok current ∧ target = s.version ∧
      (against server (s.execute increase) start).state = server.after left s.queue := by
  have settled : Settled (against server (s.execute increase) start).result :=
    .inl ⟨_, applied⟩
  obtain ⟨version, found, decided⟩ := settled_course selected acquired settled
  rcases reached_or_below s.version version with ⟨c, rfl, reached⟩ | below
  · have skipped := (decided.skips c rfl reached).1
    rw [applied] at skipped
    exact nomatch skipped
  · obtain ⟨result, -, state⟩ := decided.sends below
    rcases Server.answersAll_or_failsFirst server
      (server.after t (lookUpQueries d.name version)) s.queue with answered | ⟨i, sql, e, fails⟩
    · obtain ⟨done, -, stopped⟩ := against_send_all answered 0
      rw [applied, done] at result
      obtain ⟨rfl, rfl, -⟩ := Outcome.applied.inj (Except.ok.inj result)
      exact ⟨found, rfl, state.trans stopped⟩
    · obtain ⟨failed, -⟩ := against_send_first fails 0
      rw [applied, failed] at result
      exact nomatch result

end Applied

private theorem render_mem_statements {calls : List Call} {d : Schema.Database}
    (selected : selection calls = some d) (created : d.existing = false) :
    d.render ∈ statements calls := by
  obtain ⟨c, member, named⟩ := List.mem_filterMap.mp (List.mem_of_getLast? selected)
  obtain rfl : c = .useDatabase d := by
    cases c with
    | useDatabase d' => exact congrArg _ (Option.some.inj named)
    | createTable | raw | attach => exact nomatch named
  obtain ⟨before, after, split⟩ := List.append_of_mem member
  have turn := mem_inTurn.mpr ⟨after, split⟩
  refine List.mem_flatMap.mpr ⟨_, turn, ?_⟩
  simp [Call.statements, created]

end Script

namespace MemoryServer

open Schema (backtick)
open Script (repeated lookUpQueries)

section Skipped

variable {s : Script} {d : Schema.Database} {m : MemoryServer} {c : Int}

private theorem after_lookUpQueries (m : MemoryServer) (name : String) (c : Int) :
    server.after m (lookUpQueries name (some c)) =
      (m.received (existsQuery name)).received (versionQuery name) := by
  change (answer (versionQuery name) (answer (existsQuery name) m).2).2 = _
  rw [state_existsQuery, state_versionQuery]

private theorem execute_skips (selected : s.database = some d) (admits : m.refusing = false)
    (found : m.found d.name = .ok (some c)) (reached : c ≤ s.version) (increase : Bool) :
    let r := against server (s.execute increase) m
    r.result = .ok (.skipped c s.version) ∧ r.asked = lookUpQueries d.name (some c) ∧
      r.state = (m.entered.received (existsQuery d.name)).received (versionQuery d.name) := by
  intro r
  have finds := lookUp_finds m.entered d.name
  rw [found_entered, found] at finds
  obtain ⟨notes, lookup⟩ := Script.against_lookUp_of_ok finds
  have acquired := acquire_of_admitting admits s.target
  have decided : Script.Decided server s (some c) _ _ r :=
    Script.decided_of_lookUp selected acquired lookup
  obtain ⟨result, asked, state⟩ := decided.skips c rfl reached
  rw [after_lookUpQueries] at state
  exact ⟨result, asked, state⟩

private theorem of_settled {increase : Bool} (selected : s.database = some d)
    (settled : Script.Settled (against server (s.execute increase) m).result) :
    m.refusing = false ∧ ∃ current, m.found d.name = .ok current ∧
      Script.Decided server s current (lookUpQueries d.name current)
        (server.after m.entered (lookUpQueries d.name current))
        (against server (s.execute increase) m) := by
  cases refusing : m.refusing with
  | true =>
    rw [Script.against_execute_refused selected (acquire_of_refusing refusing s.target)] at settled
    rcases settled with ⟨_, failed⟩ | ⟨_, _, _, failed⟩ <;> exact nomatch failed
  | false =>
    obtain ⟨current, found, decided⟩ :=
      Script.settled_course selected (acquire_of_admitting refusing s.target) settled
    rw [lookUp_finds, found_entered] at found
    exact ⟨rfl, current, found, decided⟩

private theorem skipped_iff {increase : Bool} {target : Int} :
    (against server (s.execute increase) m).result = .ok (.skipped c target) ↔
      ∃ d, s.database = some d ∧ m.refusing = false ∧ m.found d.name = .ok (some c) ∧
        c ≤ s.version ∧ target = s.version := by
  constructor
  · intro skipped
    cases selected : s.database with
    | none =>
      rw [Script.against_execute_unselected selected] at skipped
      exact nomatch skipped
    | some d =>
      have settled : Script.Settled (against server (s.execute increase) m).result :=
        .inl ⟨_, skipped⟩
      obtain ⟨admits, current, found, decided⟩ := of_settled selected settled
      obtain ⟨rfl, reached, same⟩ := (decided.skipped_iff c target).mp skipped
      exact ⟨d, rfl, admits, found, reached, same⟩
  · rintro ⟨d, selected, admits, found, reached, rfl⟩
    exact (execute_skips selected admits found reached increase).1

private theorem repeated_skips (selected : s.database = some d) (admits : m.refusing = false)
    (found : m.found d.name = .ok (some c)) (reached : c ≤ s.version) (flags : List Bool) :
    ∀ r ∈ repeated server s flags m, r.result = .ok (.skipped c s.version) ∧
      r.asked = lookUpQueries d.name (some c) ∧ r.state.databases = m.databases := by
  induction flags generalizing m with
  | nil => exact fun _ member => (List.not_mem_nil member).elim
  | cons increase flags ih =>
    obtain ⟨result, asked, state⟩ := execute_skips selected admits found reached increase
    intro r member
    rcases List.mem_cons.mp member with rfl | later
    · exact ⟨result, asked, by rw [state]; rfl⟩
    · rw [state] at later
      have admits' : ((m.entered.received (existsQuery d.name)).received
          (versionQuery d.name)).refusing = false := admits
      exact ih admits' found r later

end Skipped

section Created

variable {m : MemoryServer} {d : Schema.Database} {queue : List String}

private theorem grows_after (m : MemoryServer) (queue : List String) :
    Grows m (server.after m queue) := by
  induction queue generalizing m with
  | nil => exact .refl m
  | cons sql queue ih => exact (grows_answer m sql).trans (ih (answer sql m).2)

private theorem has_after (working : m.failing = []) (plain : backtick ∉ d.name.toList)
    (queued : d.render ∈ queue) :
    ∃ version, (server.after m queue).version? d.name = some version := by
  induction queue generalizing m with
  | nil => exact (List.not_mem_nil queued).elim
  | cons sql queue ih =>
    have later : server.after m (sql :: queue) = server.after (answer sql m).2 queue := rfl
    rw [later]
    rcases List.mem_cons.mp queued with rfl | queued
    · have made := version?_create (m.received d.render) (asWritten d.name) d.name
      rw [asWritten_eq_self_iff.mpr plain] at made
      have created : ∃ version, (answer d.render m).2.version? d.name = some version := by
        rw [answer_render working, asWritten_eq_self_iff.mpr plain, made]
        cases (m.received d.render).version? d.name <;> simp
      obtain ⟨version, stored⟩ := created
      exact ⟨version, (grows_after _ queue).stored stored⟩
    · exact ih ((grows_answer m sql).failing.trans working) queued

private theorem fails_of_working (working : m.failing = []) (sql : String) :
    m.fails sql = false := by
  simp [fails, working]

private theorem absent_of_found_none (working : m.failing = []) {name : String}
    (found : m.found name = .ok none) : m.version? name = none := by
  rw [← has_eq_false_iff]
  cases present : m.has name with
  | false => rfl
  | true =>
    simp only [MemoryServer.found, fails_of_working working, present, if_true, Bool.false_eq_true,
      if_false] at found
    cases stored : m.version? (asWritten name) <;> simp [stored] at found

private theorem found_of_unversioned (working : m.failing = []) {name : String}
    (plain : backtick ∉ name.toList) (stored : m.version? name = some none) :
    m.found name = .ok (some missingVersion) := by
  have present : m.has name = true := by simp [has, stored]
  simp only [MemoryServer.found, fails_of_working working, present, if_true, Bool.false_eq_true,
    if_false, asWritten_eq_self_iff.mpr plain, stored]
  rfl

end Created

/-- If an execution is skipped, so is every further one, with the same versions; each asks its two
look-ups only and leaves the databases as they are. If nothing is told to fail, and an execution is
applied to a database that did not exist and that the script creates itself, under a name without
backticks and for a target of at least -1, every further one is skipped at version -1 and asks its
two look-ups only. -/
theorem repeated_execution_safe (s : Script) (m : MemoryServer) (increase : Bool) :
    let first := against server (s.execute increase) m
    (∀ c target, first.result = .ok (.skipped c target) →
      ∃ d, s.database = some d ∧ first.state.databases = m.databases ∧
        ∀ flags, ∀ r ∈ repeated server s flags first.state,
          r.result = .ok (.skipped c target) ∧ r.asked = [existsQuery d.name, versionQuery d.name] ∧
            r.state.databases = m.databases) ∧
    ∀ address version calls d target n,
      (against server ((Script.empty address version).build calls) m).result = .ok s →
      m.failing = [] → s.database = some d → backtick ∉ d.name.toList → d.existing = false →
      -1 ≤ s.version → first.result = .ok (.applied none target n) →
        ∀ flags, ∀ r ∈ repeated server s flags first.state,
          r.result = .ok (.skipped (-1) target) ∧
            r.asked = [existsQuery d.name, versionQuery d.name] ∧
            r.state.databases = first.state.databases := by
  intro first
  refine ⟨?_, ?_⟩
  · intro c target skipped
    obtain ⟨d, selected, admits, found, reached, rfl⟩ := skipped_iff.mp skipped
    obtain ⟨-, -, state⟩ := execute_skips selected admits found reached increase
    have kept : first.state.databases = m.databases := by
      rw [state]
      rfl
    refine ⟨d, selected, kept, fun flags => ?_⟩
    have again := repeated_skips (m := first.state) (c := c) selected
    rw [state] at again kept ⊢
    rw [kept] at again
    exact again admits found reached flags
  · intro address version calls d target n built working selected plain created low applied flags
    have settled : Script.Settled first.result := .inl ⟨_, applied⟩
    obtain ⟨admits, -⟩ := of_settled selected settled
    obtain ⟨looked, rfl, state⟩ :=
      Script.applied_course selected (acquire_of_admitting admits s.target) applied
    rw [lookUp_finds, found_entered] at looked
    have absent := absent_of_found_none working looked
    -- The queue creates the database, and nothing in it can store a version.
    have queued : d.render ∈ s.queue := by
      obtain ⟨notes, run⟩ := Script.against_build server (Script.empty address version) calls m
      rw [run] at built
      have b := Script.builtBy_of_built built
      rw [b.queue]
      exact Script.render_mem_statements (b.database.symm.trans selected) created
    have grows : Grows m first.state := by
      have entered : Grows m m.entered := ⟨rfl, rfl, fun _ => .inl rfl⟩
      rw [state]
      exact (entered.trans (grows_after _ _)).trans (grows_after _ _)
    obtain ⟨stored, present⟩ : ∃ v, first.state.version? d.name = some v := by
      rw [state]
      exact has_after ((grows_after m.entered _).failing.trans working) plain queued
    obtain rfl := grows.unversioned absent present
    have found := found_of_unversioned (grows.failing.trans working) plain present
    exact repeated_skips selected (grows.refusing.trans admits) found low flags

/-- A script that creates its database is applied once; where the database stores the target, it is
not applied at all. -/
theorem repeated_after_creation :
    let calls : List Script.Call := [.useDatabase (.named "shop"), .raw "DO 1"]
    let s : Script := ⟨.ofUrl "", 0, [(Schema.Database.named "shop").render, "DO 1"],
      some (.named "shop"), none⟩
    let stored := empty.withDatabase "shop" (some 0)
    let first := against server (s.execute true) empty
    let skipped := against server (s.execute false) stored
    (against server ((Script.empty (.ofUrl "") 0).build calls) empty).result = .ok s ∧
      empty.failing = [] ∧ backtick ∉ "shop".toList ∧ (-1 : Int) ≤ s.version ∧
      first.result = .ok (.applied none 0 2) ∧ skipped.result = .ok (.skipped 0 0) ∧
      ∀ flags, (∀ r ∈ repeated server s flags first.state, r.result = .ok (.skipped (-1) 0)) ∧
        ∀ r ∈ repeated server s flags skipped.state,
          r.result = .ok (.skipped 0 0) ∧ r.state.databases = stored.databases := by
  intro calls s stored first skipped
  have built : (against server ((Script.empty (.ofUrl "") 0).build calls) empty).result = .ok s :=
    rfl
  have plain : backtick ∉ "shop".toList := by decide
  have low : (-1 : Int) ≤ s.version := by decide
  have applied : first.result = .ok (.applied none 0 2) := by decide +kernel
  have declined : skipped.result = .ok (.skipped 0 0) := by decide +kernel
  refine ⟨built, rfl, plain, low, applied, declined, fun flags => ⟨?_, ?_⟩⟩
  · intro r member
    have again := (repeated_execution_safe s empty true).2 _ _ calls _ 0 2 built rfl rfl plain rfl
      low applied flags r member
    exact again.1
  · intro r member
    obtain ⟨_, -, -, again⟩ := (repeated_execution_safe s stored false).1 0 0 declined
    obtain ⟨result, -, kept⟩ := again flags r member
    exact ⟨result, kept⟩

end MemoryServer

end SchemaGate
