import SchemaGate.Proofs.ExecutionMessages
import SchemaGate.Proofs.MemoryGrowth
import SchemaGate.Proofs.MemoryLookUps
import SchemaGate.Proofs.Schedules
/-!
Scripts that share a server in memory. Whatever the others ask between its two look-ups, a script
finds a database as it was at the start if it was there at the start. Main statement: the gate of
such a script comes to the same under every schedule as it does alone.
-/

set_option autoImplicit false

namespace SchemaGate

variable {σ ι : Type}

open Exchange (against)
open Gate (existsQuery versionQuery)

namespace Script

/-- The gate of a script by itself: its decision, with the version that it decided by. -/
def gate (s : Script) : Exchange (Gate.Decision × Option Int) := do
  match s.database with
  | none => throw (.usage .noDatabase)
  | some d =>
    Exchange.acquire s.target
    let current ← lookUp d.name
    return (Gate.Decision.ofVersions s.version current, current)

/-- How an execution ends after its gate came to `g`: a failure of the gate is its failure, a script
that is skipped is skipped at that version, and one that is sent is applied from that version unless
a statement fails. -/
def EndsBy (s : Script) (g : Except Failure (Gate.Decision × Option Int))
    (r : Except Failure Outcome) : Prop :=
  match g with
  | .error e => r = .error e
  | .ok (.skip, current) => ∃ c, current = some c ∧ r = .ok (.skipped c s.version)
  | .ok (.run, current) => r = .ok (.applied current s.version s.queue.length) ∨
      ∃ i sql inner, r = .error (.statement i sql inner)

section Gate

variable {server : Server σ} {s : Script} {d : Schema.Database} {t : σ}

private theorem execute_eq_gate (selected : s.database = some d) (increase : Bool) :
    s.execute increase = s.gate >>= fun g => proceed s d.name increase g.2 := by
  have lawful : LawfulMonad Dialogue := Dialogue.lawfulMonad
  rw [execute_eq selected, gate, selected]
  simp only [bind_assoc, pure_bind]

private theorem proceed_endsBy (server : Server σ) (t : σ) (s : Script) (name : String)
    (increase : Bool) (current : Option Int) :
    s.EndsBy (.ok (Gate.Decision.ofVersions s.version current, current))
      (against server (proceed s name increase current) t).result := by
  rcases reached_or_below s.version current with ⟨c, rfl, reached⟩ | below
  · have decision : Gate.Decision.ofVersions s.version (some c) = .skip := if_pos reached
    rw [against_proceed_skip reached, decision]
    exact ⟨c, rfl, rfl⟩
  · have decision : Gate.Decision.ofVersions s.version current = .run := by
      cases current with
      | none => rfl
      | some c => exact if_neg (Int.not_le.mpr (below c rfl))
    rw [against_proceed_run below, Run.andOnward_ok, decision]
    exact result_runPhase server t s current

private theorem asked_lookUp {name sql : String}
    (asked : sql ∈ (against server (lookUp name) t).asked) :
    sql = existsQuery name ∨ sql = versionQuery name := by
  rcases (lookUp_course server t name).asks with listing | both
  · rw [listing, List.mem_singleton] at asked
    exact .inl asked
  · rw [both, List.mem_pair] at asked
    exact asked

private theorem against_gate (selected : s.database = some d) (t : σ) :
    let r := against server s.gate t
    (∀ sql ∈ r.asked, sql = existsQuery d.name ∨ sql = versionQuery d.name) ∧
      ∀ decision current, r.result = .ok (decision, current) →
        decision = Gate.Decision.ofVersions s.version current := by
  intro r
  have split : r = against server (do
      Exchange.acquire s.target
      let current ← lookUp d.name
      return (Gate.Decision.ofVersions s.version current, current)) t := by
    simp only [r, gate, selected]
  rcases acquired : server.acquire s.target t with ⟨_ | events, u⟩
  · rw [split, Exchange.against_bind, Exchange.against_acquire_error server t acquired, Run.still,
      Run.andOnward_error]
    refine ⟨fun _ member => (List.not_mem_nil member).elim, ?_⟩
    intro decision current found
    cases found
  · have asked := fun sql => @asked_lookUp σ server u d.name sql
    rw [split, Exchange.against_bind, Exchange.against_acquire_ok server t acquired,
      Run.andOnward_ok, Exchange.against_bind]
    generalize against server (lookUp d.name) u = looked at asked
    obtain ⟨_ | current, notes, queries, opened, v⟩ := looked
    · simp only [Run.andOnward_error, List.nil_append]
      refine ⟨asked, ?_⟩
      intro decision current found
      cases found
    · simp only [Run.andOnward_ok, Exchange.against_pure, Run.still, List.nil_append,
        List.append_nil]
      refine ⟨asked, ?_⟩
      intro decision found same
      obtain ⟨rfl, rfl⟩ := Prod.mk.inj (Except.ok.inj same)
      rfl

private theorem execute_endsBy (server : Server σ) (selected : s.database = some d)
    (increase : Bool) (t : σ) :
    s.EndsBy (against server s.gate t).result (against server (s.execute increase) t).result := by
  have decided := (@against_gate σ server s d selected t).2
  rw [execute_eq_gate selected, Exchange.against_bind]
  generalize against server s.gate t = came at decided
  obtain ⟨_ | ⟨decision, current⟩, notes, asked, opened, u⟩ := came
  · rw [Run.andOnward_error]
    rfl
  · rw [Run.andOnward_ok, decided decision current rfl]
    exact proceed_endsBy server u s d.name increase current

def afterGate (s : Script) (name : String) (increase : Bool) :
    Except Failure (Gate.Decision × Option Int) → Dialogue (Except Failure Outcome) :=
  ExceptT.bindCont fun g => proceed s name increase g.2

private theorem run_execute (selected : s.database = some d) (increase : Bool) :
    (s.execute increase).run = s.gate.run.bind (s.afterGate d.name increase) := by
  rw [execute_eq_gate selected]
  rfl

private theorem endsBy_of_afterGate {g : Except Failure (Gate.Decision × Option Int)}
    {increase : Bool}
    {name : String} {later : List Reply} {r : Except Failure Outcome}
    (decided : ∀ decision current, g = .ok (decision, current) →
      decision = Gate.Decision.ofVersions s.version current)
    (ends : (s.afterGate name increase g).outcome? later = some r) : s.EndsBy g r := by
  rw [← Server.result_recorded ends]
  cases g with
  | error e => rfl
  | ok g =>
    obtain ⟨decision, current⟩ := g
    rw [decided decision current rfl]
    exact proceed_endsBy .recorded later s name increase current

end Gate

end Script

namespace MemoryServer

open Schema (backtick)

section Steady

variable {m m' : MemoryServer} {name : String}

private theorem has_of_grows (grows : Grows m m') (present : m.has name = true) :
    m'.has name = true := by
  obtain ⟨version, stored⟩ := Option.isSome_iff_exists.mp present
  simp [has, grows.stored stored]

private theorem existsQuery_steady (present : m.has name = true) (grows : Grows m m') :
    (answer (existsQuery name) m').1 = (answer (existsQuery name) m).1 := by
  have same := grows.fails (existsQuery name)
  cases fails : m.fails (existsQuery name) with
  | true => rw [answer_of_fails fails, answer_of_fails (same.trans fails)]
  | false =>
    rw [answer_existsQuery fails, answer_existsQuery (same.trans fails)]
    simp only [listed, present, has_of_grows grows present]

private theorem versionQuery_steady (plain : backtick ∉ name.toList) (present : m.has name = true)
    (grows : Grows m m') :
    (answer (versionQuery name) m').1 = (answer (versionQuery name) m).1 := by
  have same := grows.fails (versionQuery name)
  obtain ⟨version, stored⟩ := Option.isSome_iff_exists.mp present
  cases fails : m.fails (versionQuery name) with
  | true => rw [answer_of_fails fails, answer_of_fails (same.trans fails)]
  | false =>
    rw [answer_versionQuery_of_fine fails, answer_versionQuery_of_fine (same.trans fails),
      asWritten_eq_self_iff.mpr plain]
    simp only [storedVersion, stored, grows.stored stored]

private theorem opening_steady (target : Config.Connection) (grows : Grows m m') :
    server.opening target m' = server.opening target m := by
  unfold Server.opening
  cases refusing : m.refusing with
  | true =>
    rw [acquire_of_refusing refusing, acquire_of_refusing (grows.refusing.trans refusing)]
  | false =>
    rw [acquire_of_admitting refusing, acquire_of_admitting (grows.refusing.trans refusing)]

private theorem gate_settled {s : Script} {d : Schema.Database} (selected : s.database = some d)
    (plain : backtick ∉ d.name.toList) (present : m.has d.name = true) :
    ∃ n, Settled server (Grows m) n s.gate.run (against server s.gate m).result := by
  refine Settled.of_steady (keeps_grows m) (fun target t => opening_steady target) (Grows.refl m) ?_
  intro sql asked
  refine ⟨(answer sql m).1, ?_⟩
  intro t grows
  change (answer sql t).1 = _
  rcases (Script.against_gate selected m).1 sql asked with rfl | rfl
  · exact existsQuery_steady present grows
  · exact versionQuery_steady plain present grows

private theorem gate_finds {s : Script} {d : Schema.Database} (selected : s.database = some d)
    (admits : m.refusing = false) :
    (against server s.gate m).result = (m.found d.name).map fun current =>
      (Gate.Decision.ofVersions s.version current, current) := by
  have finds := lookUp_finds m.entered d.name
  simp only [Script.gate, selected, Exchange.against_bind,
    Exchange.against_acquire_ok server m (acquire_of_admitting admits s.target), Run.andOnward_ok]
  rw [found_entered] at finds
  rw [← finds]
  generalize against server (Script.lookUp d.name) m.entered = looked
  obtain ⟨_ | current, notes, asked, opened, t⟩ := looked <;> rfl

end Steady

/-- Any number of scripts are executed on one server, in turns. The gate of a script whose database
has no backtick in its name and is there at the start comes to the same as when the script is
executed alone from the start: it never comes to anything else, it has come to it after a number of
turns that does not depend on the schedule, and if the script has finished, it has ended by that. -/
theorem gate_same_under_every_schedule [DecidableEq ι] (scripts : ι → Script)
    (increase : ι → Bool) (m : MemoryServer) (i : ι) {d : Schema.Database}
    (selected : (scripts i).database = some d) (plain : backtick ∉ d.name.toList)
    (present : m.has d.name = true) :
    let s := scripts i
    let alone := (against server s.gate m).result
    s.EndsBy alone (against server (s.execute (increase i)) m).result ∧
    ∃ turns, ∀ schedule : List ι,
      let parties := fun j => Party.start ((scripts j).execute (increase j)).run
      let p := (interleave server schedule parties m).1 i
      let came := s.gate.run.outcome? p.heard
      (∀ g, came = some g → g = alone) ∧ (turns ≤ schedule.count i → came = some alone) ∧
        ∀ r, p.rest = .done r → came = some alone ∧ s.EndsBy alone r := by
  intro s alone
  have decided := (@Script.against_gate _ server _ _ selected m).2
  have run := Script.run_execute selected (increase i)
  obtain ⟨turns, settled⟩ := gate_settled selected plain present
  refine ⟨Script.execute_endsBy server selected (increase i) m, turns, ?_⟩
  intro schedule parties p came
  have starts : parties i = .start (s.gate.run.bind (s.afterGate d.name (increase i))) :=
    congrArg Party.start run
  obtain ⟨only, enough, finished⟩ :=
    outcome?_of_settled (keeps_grows m) schedule (Grows.refl m) settled starts
  refine ⟨only, enough, ?_⟩
  intro r done
  obtain ⟨reached, later, ends⟩ := finished r done
  exact ⟨reached, Script.endsBy_of_afterGate decided ends⟩

/-- A database at version 5 lets a script for version 3 through, also beside one that creates the
database again. -/
theorem gate_same_beside_creation :
    let scripts : Bool → Script
      | true => ⟨.ofUrl "", 3, ["DO 1"], some (.named "shop"), none⟩
      | false => ⟨.ofUrl "", 0, [(Schema.Database.named "shop").render], some (.named "o"), none⟩
    let m := empty.withDatabase "shop" (some 5)
    (scripts true).database = some (.named "shop") ∧ backtick ∉ "shop".toList ∧
      m.has "shop" = true ∧ ∃ turns, ∀ schedule : List Bool, turns ≤ schedule.count true →
        let parties := fun j => Party.start ((scripts j).execute false).run
        (scripts true).gate.run.outcome?
          ((interleave server schedule parties m).1 true).heard = some (.ok (.run, some 5)) := by
  intro scripts m
  have plain : backtick ∉ "shop".toList := by decide
  have present : m.has "shop" = true := by decide
  have alone : (against server (scripts true).gate m).result = .ok (.run, some 5) := by
    rw [@gate_finds m (scripts true) (.named "shop") rfl rfl]
    rfl
  obtain ⟨-, turns, same⟩ :=
    gate_same_under_every_schedule scripts (fun _ => false) m true rfl plain present
  refine ⟨rfl, plain, present, turns, ?_⟩
  intro schedule enough
  rw [← alone]
  exact (same schedule).2.1 enough

end MemoryServer

end SchemaGate
