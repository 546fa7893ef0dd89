import SchemaGate.Proofs.BuilderCalls
import SchemaGate.Proofs.RunPhase
/-!
Listeners at work. While a script is built and run, each message is handed to its listeners one
after the other, and a listener may break down over it; a breakdown that nobody catches would end
the run on the spot. Main statement: it never does, and nothing that is queued, asked or answered
depends on who listens, or on whether an increase of the version is asked for.
-/

set_option autoImplicit false

namespace SchemaGate

variable {α β σ : Type}

namespace Log

/-- What calling listeners comes to, and whether a breakdown is still on its way to the caller. -/
structure Hearing where
  seen : List Observation
  broken : Bool

namespace Hearing

def silence : Hearing := ⟨[], false⟩

/-- One call and then another, which a breakdown of the first prevents. -/
def andThen (x y : Hearing) : Hearing := if x.broken then x else ⟨x.seen ++ y.seen, y.broken⟩

def caught (report : Event) (x : Hearing) : Hearing :=
  if x.broken then ⟨x.seen ++ [.event report], false⟩ else x

end Hearing

/-- Calls a listener; it receives the message and then may break down over it. -/
def Sink.hear (s : Sink) (text : String) : Hearing := ⟨[.delivered s.label text], s.breaks text⟩

/-- Calls listeners in turn, and catches each breakdown before the next is called. -/
def hearIn (c : Channel) (text : String) : List Sink → Hearing
  | [] => .silence
  | s :: rest => ((s.hear text).caught (Emitter.broken c)).andThen (hearIn c text rest)

def hear (e : Option Emitter) : Note → Hearing
  | .event ev => ⟨[.event ev], false⟩
  | .message c text => hearIn c text ((e.getD .empty).sinks c)
  | .printed text => ⟨[.printed text], false⟩

def hearAll (e : Option Emitter) : List Note → Hearing
  | [] => .silence
  | n :: rest => (hear e n).andThen (hearAll e rest)

theorem hearIn_eq (c : Channel) (text : String) (sinks : List Sink) :
    hearIn c text sinks = ⟨sinks.flatMap (Emitter.deliver c text), false⟩ := by
  induction sinks with
  | nil => rfl
  | cons s rest ih =>
    rw [hearIn, ih, List.flatMap_cons, Emitter.deliver]
    cases breaks : s.breaks text <;> simp [Sink.hear, Hearing.caught, Hearing.andThen, breaks]

private theorem hear_eq (e : Option Emitter) (n : Note) : hear e n = ⟨observe e n, false⟩ := by
  cases n with
  | event ev => rfl
  | message c text => exact hearIn_eq c text ((e.getD .empty).sinks c)
  | printed text => rfl

theorem hearAll_eq (e : Option Emitter) (notes : List Note) :
    hearAll e notes = ⟨notes.flatMap (observe e), false⟩ := by
  induction notes with
  | nil => rfl
  | cons n rest ih =>
    rw [hearAll, hear_eq, ih]
    rfl

end Log

structure LiveRun (α σ : Type) where
  /-- None if a breakdown of a listener came through and ended the run. -/
  result : Option α
  seen : List Observation
  asked : List String
  opened : Nat
  state : σ

namespace LiveRun

/-- A run that goes on once its listeners were called, unless a breakdown of theirs ends it. -/
def following (x : Log.Hearing) (s : σ) (r : LiveRun α σ) : LiveRun α σ :=
  if x.broken then ⟨none, x.seen, [], 0, s⟩ else { r with seen := x.seen ++ r.seen }

def ofRun (e : Option Log.Emitter) (r : Run α σ) : LiveRun α σ :=
  ⟨some r.result, r.notes.flatMap (Log.observe e), r.asked, r.opened, r.state⟩

end LiveRun

namespace Dialogue

def live (server : Server σ) (e : Option Log.Emitter) : Dialogue α → σ → LiveRun α σ
  | done a, s => ⟨some a, [], [], 0, s⟩
  | tell n next, s => (live server e next s).following (Log.hear e n) s
  | acquire target next, s =>
    match server.acquire target s with
    | (.ok events, s) =>
      let r := (live server e (next (.ok ())) s).following (Log.hearAll e (events.map .event)) s
      { r with opened := r.opened + 1 }
    | (.error f, s) => live server e (next (.error f)) s
  | ask sql next, s =>
    let (reply, s) := server.answer sql s
    let r := live server e (next reply) s
    { r with asked := sql :: r.asked }

theorem live_eq (server : Server σ) (e : Option Log.Emitter) (d : Dialogue α) (s : σ) :
    live server e d s = .ofRun e (run server d s) := by
  induction d generalizing s with
  | done a => rfl
  | tell n next ih =>
    rw [live, ih, Log.hear_eq]
    rfl
  | acquire target next ih =>
    rcases reply : server.acquire target s with ⟨outcome, t⟩
    cases outcome with
    | ok events => simp [live, run, reply, ih, Log.hearAll_eq, LiveRun.following, LiveRun.ofRun]
    | error f => simp only [live, run, reply, ih]
  | ask sql next ih =>
    simp only [live, run, ih]
    rfl

end Dialogue

namespace Run

def untold (r : Run α σ) : Run α σ := { r with notes := [] }

private theorem untold_andOnward_congr {next next' : α → σ → Run (Except Failure β) σ}
    (same : ∀ a s, (next a s).untold = (next' a s).untold) (r : Run (Except Failure α) σ) :
    (r.andOnward next).untold = (r.andOnward next').untold := by
  rcases r with ⟨result, notes, asked, opened, s⟩
  cases result with
  | error e => simp only [andOnward_error]
  | ok a =>
    have parts := same a s
    simp only [untold, Run.mk.injEq, true_and] at parts
    obtain ⟨results, queries, sessions, states⟩ := parts
    simp only [andOnward_ok, untold, results, queries, sessions, states]

end Run

namespace Script

open Exchange (against)

variable {server : Server σ}

def migrateLive (server : Server σ) (increase : Bool) :
    Script → List Call → σ → LiveRun (Except Failure Outcome) σ
  | s, [], t => Dialogue.live server s.emitter (s.execute increase).run t
  | s, c :: rest, t =>
    match s.make c with
    | .error e => ⟨some (.error e), [], [], 0, t⟩
    | .ok made =>
      (migrateLive server increase made.value rest t).following
        (Log.hearAll made.value.emitter made.notes) t

def withoutListeners (calls : List Call) : List Call :=
  calls.filter fun c => c.attachment?.isNone

def unheard (s : Script) : Script := { s with emitter := none }

private theorem against_migrate_nil (s : Script) (increase : Bool) (t : σ) :
    against server (s.migrate [] increase) t = against server (s.execute increase) t := by
  rw [migrate, Exchange.against_bind]
  exact Run.still_andThen ..

private theorem against_migrate_refused {s : Script} {c : Call} {rest : List Call} {e : Failure}
    (refused : s.make c = .error e) (increase : Bool) (t : σ) :
    against server (s.migrate (c :: rest) increase) t = .still (.error e) t := by
  simp only [migrate, build, Exchange.against_bind, Exchange.against_mk_done, refused, Run.still,
    Run.andOnward_error]

private theorem against_migrate_made {s : Script} {c : Call} {rest : List Call} {made : Told Script}
    (step : s.make c = .ok made) (increase : Bool) (t : σ) :
    let r := against server (made.value.migrate rest increase) t
    against server (s.migrate (c :: rest) increase) t =
      { r with notes := made.notes ++ r.notes } := by
  simp only [migrate, build, Exchange.against_bind, Exchange.against_mk_done, step, Run.still,
    Run.andOnward_ok, against_tellAll, List.nil_append, Nat.zero_add]
  rcases against server (made.value.build rest) t with ⟨result, notes, asked, opened, u⟩
  cases result with
  | error e => simp only [Run.andOnward_error]
  | ok built => simp only [Run.andOnward_ok, List.append_assoc]

/-- A live run comes to the end that the run without listeners comes to. -/
private theorem migrateLive_course (server : Server σ) (increase : Bool) (s : Script)
    (calls : List Call) (t : σ) :
    let live := migrateLive server increase s calls t
    let r := against server (s.migrate calls increase) t
    live.result = some r.result ∧ live.asked = r.asked ∧ live.opened = r.opened ∧
      live.state = r.state := by
  induction calls generalizing s with
  | nil =>
    rw [against_migrate_nil, migrateLive, Dialogue.live_eq]
    exact ⟨rfl, rfl, rfl, rfl⟩
  | cons c rest ih =>
    cases step : s.make c with
    | error e =>
      rw [against_migrate_refused step]
      simp only [migrateLive, step]
      exact ⟨rfl, rfl, rfl, rfl⟩
    | ok made =>
      rw [against_migrate_made step]
      simp only [migrateLive, step, Log.hearAll_eq, LiveRun.following]
      exact ih made.value

private theorem execute_unheard (s : Script) (increase : Bool) :
    s.unheard.execute increase = s.execute increase := rfl

private theorem untold_proceed (s : Script) (name : String) (increase : Bool) (current : Option Int)
    (t : σ) :
    (against server (proceed s name increase current) t).untold =
      (against server (proceed s name false current) t).untold := by
  rcases reached_or_below s.version current with ⟨c, rfl, reached⟩ | below
  · simp only [against_proceed_skip reached]
    rfl
  · simp only [against_proceed_run below, Run.andOnward_ok]
    rfl

private theorem untold_execute (s : Script) (increase increase' : Bool) (t : σ) :
    (against server (s.execute increase) t).untold =
      (against server (s.execute increase') t).untold := by
  cases selected : s.database with
  | none =>
    unfold execute
    simp only [selected]
  | some d =>
    simp only [execute_eq selected, Exchange.against_bind]
    apply Run.untold_andOnward_congr
    intro _ t
    apply Run.untold_andOnward_congr
    intro current u
    rw [untold_proceed, ← untold_proceed s d.name increase']

private theorem make_unheard (s : Script) {c : Call} (acts : c.attachment? = none) :
    s.unheard.make c =
      (s.make c).map fun made => ⟨made.value.unheard, made.notes⟩ := by
  cases c with
  | useDatabase d =>
    simp only [make, useDatabase]
    cases d.existing <;> rfl
  | createTable t =>
    simp only [make, createTable, unheard]
    cases s.database <;> rfl
  | raw sql => rfl
  | attach t sink => cases acts

private theorem make_attached (s : Script) {c : Call} {a : Log.Target × Log.Sink}
    (attaches : c.attachment? = some a) :
    ∃ made, s.make c = .ok made ∧ made.value.unheard = s.unheard := by
  cases c with
  | attach t sink => exact ⟨_, rfl, rfl⟩
  | useDatabase | createTable | raw => cases attaches

private theorem withoutListeners_cons (c : Call) (rest : List Call) :
    withoutListeners (c :: rest) =
      if c.attachment? = none then c :: withoutListeners rest else withoutListeners rest := by
  cases attached : c.attachment? <;> simp [withoutListeners, attached]

private theorem untold_migrate (s : Script) (calls : List Call) (increase increase' : Bool)
    (t : σ) :
    (against server (s.unheard.migrate (withoutListeners calls) increase') t).untold =
      (against server (s.migrate calls increase) t).untold := by
  induction calls generalizing s with
  | nil =>
    change (against server (s.unheard.migrate [] increase') t).untold = _
    rw [against_migrate_nil, against_migrate_nil, execute_unheard, untold_execute]
  | cons c rest ih =>
    rw [withoutListeners_cons]
    cases attached : c.attachment? with
    | some a =>
      -- The call is gone on one side; on the other it leaves the same script but for its listener.
      obtain ⟨made, step, same⟩ := make_attached s attached
      rw [if_neg (by simp), against_migrate_made step, ← same]
      exact ih made.value
    | none =>
      have unheard := make_unheard s attached
      rw [if_pos rfl]
      cases step : s.make c with
      | error e =>
        rw [step] at unheard
        rw [against_migrate_refused step, against_migrate_refused unheard]
      | ok made =>
        rw [step] at unheard
        rw [against_migrate_made step, against_migrate_made unheard]
        exact ih made.value

private theorem built_unheard (s : Script) (calls : List Call) :
    s.unheard.built (withoutListeners calls) = (s.built calls).map unheard := by
  induction calls generalizing s with
  | nil => rfl
  | cons c rest ih =>
    rw [withoutListeners_cons]
    cases attached : c.attachment? with
    | some a =>
      obtain ⟨made, step, same⟩ := make_attached s attached
      rw [if_neg (by simp), built_cons_ok step, ← same]
      exact ih made.value
    | none =>
      have unheard := make_unheard s attached
      rw [if_pos rfl]
      cases step : s.make c with
      | error e =>
        rw [step] at unheard
        rw [built_cons_error step, built_cons_error unheard]
        rfl
      | ok made =>
        rw [step] at unheard
        rw [built_cons_ok step, built_cons_ok unheard]
        exact ih made.value

/-- Listeners are told, and that is all. However many of them a chain of calls attaches, to whatever
they listen and whatever they break down over, the chain builds the same queue or fails alike, and
its execution asks the same and ends in the same way as without any of them, and so it does whether
an increase of the version is asked for or not. -/
theorem listeners_without_influence (server : Server σ) (s : Script) (calls : List Call)
    (increase increase' : Bool) (start : σ) :
    let live := migrateLive server increase s calls start
    let r := against server (s.unheard.migrate (withoutListeners calls) increase') start
    live.result = some r.result ∧ live.asked = r.asked ∧ live.opened = r.opened ∧
      live.state = r.state ∧
      (s.built calls).map queue = (s.unheard.built (withoutListeners calls)).map queue := by
  intro live r
  obtain ⟨result, asked, opened, state⟩ := migrateLive_course server increase s calls start
  have course := @untold_migrate σ server s calls increase increase' start
  simp only [Run.untold, Run.mk.injEq, true_and] at course
  obtain ⟨sameResult, sameAsked, sameOpened, sameState⟩ := course
  refine ⟨?_, asked.trans sameAsked.symm, opened.trans sameOpened.symm,
    state.trans sameState.symm, ?_⟩
  · rw [result, ← sameResult]
  · rw [built_unheard]
    cases s.built calls <;> rfl

end Script

end SchemaGate
