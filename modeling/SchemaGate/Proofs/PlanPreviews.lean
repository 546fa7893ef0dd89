import SchemaGate.MySql.Session
import SchemaGate.Proofs.CommandReports
import SchemaGate.Proofs.ExecutionMessages
import SchemaGate.Proofs.PlanScripts
import SchemaGate.Proofs.RunPhase
/-!
The preview of a plan and its application. Both make the plan's script, the one for no server and
the other for the configured one. Main statement: the preview fails exactly if there is no script,
and then the application fails in the same way before it meets a server; else it prints statement by
statement what the application sends once the gate lets it through.
-/

set_option autoImplicit false

namespace SchemaGate

variable {σ : Type}

open Exchange (against)
open Gate (existsQuery versionQuery)

def Note.Silent (notes : List Note) : Prop := notes.filterMap Note.printed? = []

open Note (Silent)

private theorem Note.silent_append {first rest : List Note} (h : Silent first) (h' : Silent rest) :
    Silent (first ++ rest) := by
  rw [Silent, List.filterMap_append, h, h']
  rfl

namespace Plan

section Silence

variable {α : Type} {step : α → Script → Except Failure (Told Script)}

private theorem silent_next {m : Made} (silent : Silent m.notes) {a : α}
    (steps : ∀ s t, step a s = .ok t → Silent t.notes) : Silent (next m (step a)).notes := by
  unfold next
  cases same : m.value with
  | error e => simpa only [same] using silent
  | ok s =>
    cases took : step a s with
    | error e => simpa only [took] using silent
    | ok t => simpa only [took] using Note.silent_append silent (steps s t took)

private theorem silent_foldl_next (steps : ∀ a s t, step a s = .ok t → Silent t.notes) (l : List α)
    {m : Made} (silent : Silent m.notes) :
    Silent (l.foldl (fun m a => next m (step a)) m).notes := by
  induction l generalizing m with
  | nil => exact silent
  | cons a l ih => exact ih (silent_next silent (steps a))

private theorem silent_useDatabase (s : Script) (d : Schema.Database) :
    Silent (s.useDatabase d).notes := by
  unfold Script.useDatabase
  cases d.existing <;> rfl

private theorem silent_addTable (t : TablePlan) (s : Script) (told : Told Script)
    (added : addTable t s = .ok told) : Silent told.notes := by
  unfold addTable Script.createTable at added
  cases made : t.toTable with
  | error fault =>
    rw [made] at added
    exact nomatch added
  | ok table =>
    cases selected : s.database with
    | none =>
      simp only [made, selected] at added
      exact nomatch added
    | some d =>
      simp only [made, selected] at added
      obtain rfl := Except.ok.inj added
      have key : Silent (Script.keyNotes table) := by
        unfold Script.keyNotes
        cases table.keyIsDeclared <;> rfl
      exact Note.silent_append key rfl

private theorem silent_toScript (p : Plan) (target : Config.Connection) :
    Silent (p.toScript target).notes := by
  have raw (sql : String) (s : Script) (told : Told Script)
      (queued : (Except.ok (s.raw sql) : Except Failure _) = .ok told) : Silent told.notes := by
    obtain rfl := Except.ok.inj queued
    rfl
  refine silent_foldl_next raw p.rawSql (silent_foldl_next silent_addTable p.tables ?_)
  exact silent_useDatabase (.empty target p.version) p.database.toDatabase

end Silence

def script (p : Plan) (address : Config.Connection) : Script :=
  ⟨address, p.version, p.statements, some p.database.toDatabase, none⟩

private theorem makes_script_or_fails (p : Plan) :
    (∀ address, (p.toScript address).value = .ok (p.script address)) ∨
      ∃ e, ∀ address, (p.toScript address).value = .error e := by
  cases made : p.tables.mapM TablePlan.toTable with
  | error fault =>
    refine .inr ⟨.plan fault, fun address => ?_⟩
    rw [toScript_eq, made]
  | ok tables =>
    refine .inl fun address => ?_
    rw [toScript_eq, made]
    rfl

end Plan

namespace Command

/-- Why no script comes of the plan at a path: the plan cannot be read, or not be made a script. -/
inductive Unscripted (files : Files) (path : String) : Failure → Prop where
  | unread {fault : PlanFault} (failed : Plan.load files path = .error fault) :
      Unscripted files path (.plan fault)
  | unmade {p : Plan} {e : Failure} (loaded : Plan.load files path = .ok p)
      (failed : (p.toScript (.ofUrl "")).value = .error e) : Unscripted files path e

/-- Makes the script of the plan at a path and goes on with both. -/
def withScript {α : Type} (files : Files) (path : String) (target : Config.Connection)
    (next : Plan → Script → Exchange α) : Exchange α := do
  let p ← loadPlan files path
  let s ← makeScript p target
  next p s

section Scripting

variable {α : Type} {server : Server σ} {t : σ} {files : Files} {path : String} {p : Plan}
  {e : Failure}

private theorem against_makeScript (server : Server σ) (t : σ) (p : Plan)
    (target : Config.Connection) :
    against server (makeScript p target) t =
      ⟨(p.toScript target).value, (p.toScript target).notes, [], 0, t⟩ := by
  simp [makeScript, Exchange.against_bind, Script.against_tellAll, Run.andOnward_ok,
    Exchange.against_mk_done, Run.still]

private theorem against_withScript (loaded : Plan.load files path = .ok p)
    (target : Config.Connection) (next : Plan → Script → Exchange α) :
    against server (withScript files path target next) t =
      (⟨(p.toScript target).value, (p.toScript target).notes, [], 0, t⟩ :
        Run (Except Failure Script) σ).andOnward fun s u => against server (next p s) u := by
  have read : against server (loadPlan files path) t = .still (.ok p) t := by
    rw [loadPlan, Exchange.against_mk_done, loaded]
    rfl
  rw [withScript, Exchange.against_bind, read, Run.andOnward, Run.still_andThen]
  change against server (makeScript p target >>= fun s => next p s) t = _
  rw [Exchange.against_bind, against_makeScript]

private theorem against_withScript_error (server : Server σ) (t : σ)
    (unscripted : Unscripted files path e) (target : Config.Connection)
    (next : Plan → Script → Exchange α) :
    ∃ notes, against server (withScript files path target next) t =
      ⟨.error e, notes, [], 0, t⟩ := by
  cases unscripted with
  | unread failed =>
    refine ⟨[], ?_⟩
    rw [withScript, Exchange.against_bind, loadPlan, failed]
    exact Run.andOnward_error ..
  | @unmade p e loaded failed =>
    -- the failure was met while a script for no server was made
    have failed' : (p.toScript target).value = .error e := by
      rcases p.makes_script_or_fails with makes | ⟨e', fails⟩
      · exact nomatch failed.symm.trans (makes _)
      · rw [fails] at failed ⊢
        exact failed
    refine ⟨(p.toScript target).notes, ?_⟩
    rw [against_withScript loaded, failed', Run.andOnward_error]

private theorem against_withScript_ok (loaded : Plan.load files path = .ok p)
    {target : Config.Connection} {s : Script} (made : (p.toScript target).value = .ok s)
    (next : Plan → Script → Exchange α) :
    against server (withScript files path target next) t =
      let r := against server (next p s) t
      { r with notes := (p.toScript target).notes ++ r.notes } := by
  rw [against_withScript loaded, made, Run.andOnward_ok]
  simp only [List.nil_append, Nat.zero_add]

end Scripting

def carryOut (path : String) (increase verbose : Bool) (p : Plan) (s : Script) : Exchange Unit := do
  let attached := listening verbose s
  Script.tellAll attached.notes
  Exchange.print (applyHeading path p)
  let outcome ← attached.value.execute increase
  Exchange.print (outcomeText p.database.name outcome)
  Exchange.print "\n"

section Commands

private theorem renderPlan_eq (files : Files) (path : String) :
    renderPlan files path = withScript files path (.ofUrl "") fun _ s =>
      s.queue.forM fun sql => Exchange.print (sql ++ "\n") := rfl

private theorem applyPlan_eq (files : Files) (path : String) (increase verbose : Bool)
    (target : Config.Connection) :
    applyPlan files path increase verbose target =
      withScript files path target (carryOut path increase verbose) := rfl

private theorem against_printAll (server : Server σ) (t : σ) (queue : List String) :
    against server (queue.forM fun sql => Exchange.print (sql ++ "\n")) t =
      ⟨.ok (), queue.map fun sql => .printed (sql ++ "\n"), [], 0, t⟩ := by
  induction queue with
  | nil => rfl
  | cons sql queue ih =>
    change against server (Exchange.print (sql ++ "\n") >>= fun _ =>
      queue.forM fun sql => Exchange.print (sql ++ "\n")) t = _
    rw [Exchange.against_bind, Exchange.against_print, Run.andOnward_ok, ih]
    rfl

private theorem against_carryOut (server : Server σ) (t : σ) (path : String)
    (increase verbose : Bool) (p : Plan) (s : Script) :
    let r := against server (carryOut path increase verbose p s) t
    let execution := against server ((listening verbose s).value.execute increase) t
    r.asked = execution.asked ∧ r.state = execution.state := by
  intro r execution
  simp only [r, execution, carryOut, Exchange.against_bind, Script.against_tellAll,
    Exchange.against_print, Run.andOnward_ok, List.nil_append]
  generalize against server ((listening verbose s).value.execute increase) t = ran
  obtain ⟨_ | outcome, notes, asked, opened, u⟩ := ran
  · simp only [Run.andOnward_error, and_self]
  · simp only [Run.andOnward_ok, List.append_nil, and_self]

private theorem listening_script (verbose : Bool) (p : Plan) (address : Config.Connection) :
    let heard := (listening verbose (p.script address)).value
    heard.target = address ∧ heard.version = p.version ∧ heard.queue = p.statements ∧
      heard.database = some p.database.toDatabase := by
  cases verbose <;> exact ⟨rfl, rfl, rfl, rfl⟩

private theorem unscripted_or_scripted (files : Files) (path : String) :
    (∃ e, Unscripted files path e) ∨ ∃ p, Plan.load files path = .ok p ∧
      ∀ address, (p.toScript address).value = .ok (p.script address) := by
  cases loaded : Plan.load files path with
  | error fault => exact .inl ⟨_, .unread loaded⟩
  | ok p =>
    rcases p.makes_script_or_fails with makes | ⟨e, fails⟩
    · exact .inr ⟨p, rfl, makes⟩
    · exact .inl ⟨e, .unmade loaded (fails _)⟩

end Commands

structure Report.Unmet (r : Report σ) (fault : Fault) (start : σ) : Prop where
  fault : r.fault = some fault
  asked : r.asked = []
  state : r.state = start

section Reports

variable {server : Server σ} {start t : σ} {env : Config.Environment} {files : Files}
  {path config : String} {settings : Config.Settings} {p : Plan} {e : Failure}

private theorem render_unscripted (server : Server σ) (start : σ) (env : Config.Environment)
    (unscripted : Unscripted files path e) :
    (run (.render path) server env files start).fault = some (.failure e) := by
  obtain ⟨notes, failed⟩ := against_withScript_error server start unscripted (.ofUrl "")
    fun _ s => s.queue.forM fun sql => Exchange.print (sql ++ "\n")
  change (Report.ofRun none false (against server (renderPlan files path) start)).fault = _
  rw [renderPlan_eq, failed]
  rfl

private theorem render_scripted (server : Server σ) (start : σ) (env : Config.Environment)
    (loaded : Plan.load files path = .ok p)
    (makes : ∀ address, (p.toScript address).value = .ok (p.script address)) :
    let rendered := run (.render path) server env files start
    rendered.fault = none ∧ rendered.prints = p.statements.map (· ++ "\n") ∧
      rendered.output = String.join rendered.prints := by
  intro rendered
  have met : rendered = Report.ofRun none false _ :=
    congrArg (Report.ofRun none false) (against_withScript_ok loaded (makes (.ofUrl "")) _)
  have silent := p.silent_toScript (.ofUrl "")
  have statements : (p.statements.map fun sql => Note.printed (sql ++ "\n")).filterMap
      Note.printed? = p.statements.map (· ++ "\n") := by
    rw [List.filterMap_map]
    exact congrFun List.filterMap_eq_map _
  rw [met, Report.output_ofRun, Report.prints_ofRun, against_printAll]
  refine ⟨rfl, ?_, rfl⟩
  rw [List.filterMap_append, silent, List.nil_append]
  exact statements

private theorem apply_usable (server : Server σ) (start : σ) (path : String)
    (increase verbose : Bool) (usable : Usable env files config settings) :
    run (.apply path config increase verbose) server env files start =
      .ofRun (inEffect (Config.EnvFile.load env files) settings).logging verbose
        (against server (applyPlan files path increase verbose settings.connection) start) := by
  simp only [run, prepare_of_usable usable]
  rfl

private theorem apply_unusable (server : Server σ) (start : σ) (path : String)
    (increase verbose : Bool) {fault : Fault} (unusable : Unusable env files config fault) :
    (run (.apply path config increase verbose) server env files start).Unmet fault start := by
  simp only [run, prepare_of_unusable unusable]
  exact ⟨rfl, rfl, rfl⟩

private theorem apply_unscripted (server : Server σ) (start : σ) (increase verbose : Bool)
    (usable : Usable env files config settings) (unscripted : Unscripted files path e) :
    (run (.apply path config increase verbose) server env files start).Unmet (.failure e) start ∧
      (against server (applyPlan files path increase verbose settings.connection) start).opened =
        0 := by
  obtain ⟨notes, failed⟩ := against_withScript_error server start unscripted settings.connection
    (carryOut path increase verbose)
  rw [apply_usable server start path increase verbose usable, applyPlan_eq, failed]
  exact ⟨⟨rfl, rfl, rfl⟩, rfl⟩

private theorem apply_scripted (server : Server σ) (start : σ) (increase verbose : Bool)
    (usable : Usable env files config settings) (loaded : Plan.load files path = .ok p)
    (makes : ∀ address, (p.toScript address).value = .ok (p.script address)) :
    let applied := run (.apply path config increase verbose) server env files start
    let heard := (listening verbose (p.script settings.connection)).value
    let execution := against server (heard.execute increase) start
    applied.asked = execution.asked ∧ applied.state = execution.state := by
  intro applied heard execution
  have met : applied = _ := apply_usable server start path increase verbose usable
  rw [met, applyPlan_eq, against_withScript_ok loaded (makes settings.connection),
    Report.asked_ofRun, Report.state_ofRun]
  exact against_carryOut ..

private theorem apply_refused (increase verbose : Bool) (usable : Usable env files config settings)
    (refused : server.acquire settings.connection start = (.error e, t)) :
    (run (.apply path config increase verbose) server env files start).asked = [] := by
  rcases unscripted_or_scripted files path with ⟨e', unscripted⟩ | ⟨p, loaded, makes⟩
  · exact (apply_unscripted server start increase verbose usable unscripted).1.asked
  · obtain ⟨target, -, -, database⟩ := listening_script verbose p settings.connection
    rw [← target] at refused
    rw [(apply_scripted server start increase verbose usable loaded makes).1,
      Script.against_execute_refused database refused]
    rfl

private theorem apply_gated (increase verbose : Bool) (usable : Usable env files config settings)
    (loaded : Plan.load files path = .ok p)
    (makes : ∀ address, (p.toScript address).value = .ok (p.script address)) {events : List Event}
    (acquired : server.acquire settings.connection start = (.ok events, t)) :
    let applied := run (.apply path config increase verbose) server env files start
    Script.AsksGated server t p.database.name p.version p.statements applied.asked
      applied.state := by
  intro applied
  obtain ⟨target, version, queue, database⟩ := listening_script verbose p settings.connection
  obtain ⟨asked, state⟩ := apply_scripted server start increase verbose usable loaded makes
  rw [← target] at acquired
  have gated := Script.asksGated_execute increase database acquired
  rw [version, queue] at gated
  rw [asked, state]
  exact gated

end Reports

/-- The preview of a plan and its application with a configuration that can be used. The preview
fails exactly if the plan cannot be read or makes no script, and then the application fails in the
same way and no session is opened. Else the preview prints the statements of the script, each for
itself, and they are what the application sends: nothing if no session can be opened, and else the
look-up of the plan's database and behind it, if the gate lets them through, the statements up to
the first that fails. Without such a configuration the application never meets a server, and a URL
that says no address leaves a MySQL server without queries. -/
theorem render_foretells_apply (server : Server σ) (env : Config.Environment) (files : Files)
    (path config : String) (increase verbose : Bool) (start : σ) :
    let rendered := run (.render path) server env files start
    let applied := run (.apply path config increase verbose) server env files start
    (∀ fault, rendered.fault = some fault ↔
      ∃ e, Unscripted files path e ∧ fault = .failure e) ∧
    (∀ settings, Usable env files config settings →
      (∀ fault, rendered.fault = some fault → applied.Unmet fault start ∧
        (against server (applyPlan files path increase verbose settings.connection) start).opened =
          0) ∧
      (rendered.fault = none → ∃ p s, Plan.load files path = .ok p ∧
        (p.toScript (.ofUrl "")).value = .ok s ∧
        rendered.prints = s.queue.map (· ++ "\n") ∧
        rendered.output = String.join rendered.prints ∧
        (∀ e t, server.acquire settings.connection start = (.error e, t) → applied.asked = []) ∧
        ∀ events t, server.acquire settings.connection start = (.ok events, t) →
          Script.AsksGated server t p.database.name p.version s.queue applied.asked
            applied.state)) ∧
    (∀ fault, Unusable env files config fault → applied.Unmet fault start) ∧
    ∀ m, (∀ settings address, Usable env files config settings →
        settings.connection.address ≠ .ok address) →
      (run (.apply path config increase verbose) MySql.Session.server env files m).asked = [] := by
  intro rendered applied
  have failed (fault : Fault) : rendered.fault = some fault ↔
      ∃ e, Unscripted files path e ∧ fault = .failure e := by
    constructor
    · intro failed
      rcases unscripted_or_scripted files path with ⟨e, unscripted⟩ | ⟨p, loaded, makes⟩
      · have same := failed.symm.trans (render_unscripted server start env unscripted)
        exact ⟨e, unscripted, Option.some.inj same⟩
      · have fine := (render_scripted server start env loaded makes).1
        exact nomatch failed.symm.trans fine
    · rintro ⟨e, unscripted, rfl⟩
      exact render_unscripted server start env unscripted
  refine ⟨failed, ?_, fun fault => apply_unusable server start path increase verbose, ?_⟩
  · intro settings usable
    constructor
    · intro fault unmade
      obtain ⟨e, unscripted, rfl⟩ := (failed fault).mp unmade
      exact apply_unscripted server start increase verbose usable unscripted
    · intro fine
      rcases unscripted_or_scripted files path with ⟨e, unscripted⟩ | ⟨p, loaded, makes⟩
      · exact nomatch fine.symm.trans (render_unscripted server start env unscripted)
      · obtain ⟨-, prints, output⟩ := render_scripted server start env loaded makes
        refine ⟨p, _, loaded, makes _, prints, output, ?_, ?_⟩
        · intro e t refused
          exact apply_refused increase verbose usable refused
        · intro events t acquired
          exact apply_gated increase verbose usable loaded makes acquired
  · intro m nowhere
    rcases usable_or_unusable env files config with ⟨settings, usable⟩ | ⟨fault, unusable⟩
    · have refused : ∃ fault, settings.connection.address = .error fault := by
        cases address : settings.connection.address with
        | error fault => exact ⟨fault, rfl⟩
        | ok address' => exact absurd address (nowhere settings address' usable)
      obtain ⟨fault, refused⟩ := refused
      have acquire : MySql.Session.server.acquire settings.connection m =
          (.error (.config fault), m) := by
        change MySql.Session.acquire settings.connection m = _
        rw [MySql.Session.acquire, refused]
      exact apply_refused increase verbose usable acquire
    · exact (apply_unusable _ m path increase verbose unusable).asked

/-- Of three statements that are printed the second fails, and the third is not sent. The
environment file lies above the working directory, where a directory has its name. -/
theorem preview_of_shop :
    let files : Files := ⟨["home"],
      [([".env"], .file (Text.utf8 "DB=mysql://db\n")), (["home", ".env"], .directory),
        (["home", "plan.toml"], .file (Text.utf8
          ("schema_version = 1\nraw_sql = [\"DO 1\", \"DO 2\", \"DO 3\"]\n" ++
            "[database]\nname = \"shop\"\nexisting = true\n"))),
        (["home", "sqlgate.toml"], .file (Text.utf8 "[database]\nurl = \"$\x7bDB\x7d\"\n"))]⟩
    let statements := ["DO 1", "DO 2", "DO 3"]
    let server := Server.prepared
      [.ok [⟨[("Database (shop)", .text "shop")]⟩], .ok [⟨[("value", .int 5)]⟩], .ok [],
        .error (.sql .closed)]
    let rendered := run (.render "plan.toml") server .empty files []
    let applied := run (.apply "plan.toml" "sqlgate.toml" true true) server .empty files []
    Usable .empty files "sqlgate.toml" (.ofUrl "mysql://db") ∧ rendered.fault = none ∧
      rendered.output = "DO 1\nDO 2\nDO 3\n" ∧
      (∃ t, Script.AsksGated server t "shop" 1 statements applied.asked applied.state) ∧
      applied.asked = [existsQuery "shop", versionQuery "shop", "DO 1", "DO 2"] := by
  intro files statements server rendered applied
  let plan : Plan := ⟨1, ⟨"shop", none, true⟩, [], statements⟩
  have usable : Usable .empty files "sqlgate.toml" (.ofUrl "mysql://db") :=
    ⟨by decide +kernel, by decide +kernel, by decide +kernel⟩
  have read : Plan.load files "plan.toml" = .ok plan := by decide +kernel
  have makes : ∀ address, (plan.toScript address).value = .ok (plan.script address) := fun _ => rfl
  have fine : rendered.fault = none := (render_scripted server [] .empty read makes).1
  have asked : applied.asked = [existsQuery "shop", versionQuery "shop", "DO 1", "DO 2"] :=
    (apply_scripted server [] true true usable read makes).1.trans (by decide)
  obtain ⟨-, foretold, -⟩ :=
    render_foretells_apply server .empty files "plan.toml" "sqlgate.toml" true true []
  obtain ⟨p, s, loaded, made, prints, output, -, gated⟩ := (foretold _ usable).2 fine
  obtain rfl : plan = p := Except.ok.inj (read.symm.trans loaded)
  obtain rfl : s = plan.script (.ofUrl "") := Except.ok.inj (made.symm.trans (makes _))
  refine ⟨usable, fine, ?_, ⟨_, gated [] _ rfl⟩, asked⟩
  rw [output, prints]
  decide

end Command

end SchemaGate
