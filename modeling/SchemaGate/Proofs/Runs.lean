import SchemaGate.Dialogue
/-!
Runs one after another. Running a dialogue and then the one that its result calls for is a single
run: what the first told and asked comes first, and the second starts in the state that the first
left. Every step of an exchange has an equation of its own, so no later proof opens a dialogue.
-/

set_option autoImplicit false

namespace SchemaGate

variable {α β σ : Type}

namespace Run

def still (a : α) (s : σ) : Run α σ := ⟨a, [], [], 0, s⟩

def andThen (r : Run α σ) (next : α → σ → Run β σ) : Run β σ where
  result := (next r.result r.state).result
  notes := r.notes ++ (next r.result r.state).notes
  asked := r.asked ++ (next r.result r.state).asked
  opened := r.opened + (next r.result r.state).opened
  state := (next r.result r.state).state

@[simp] theorem still_andThen (a : α) (s : σ) (next : α → σ → Run β σ) :
    (still a s).andThen next = next a s := by
  simp [andThen, still]

def andOnward (r : Run (Except Failure α) σ) (next : α → σ → Run (Except Failure β) σ) :
    Run (Except Failure β) σ :=
  r.andThen fun a s =>
    match a with
    | .ok a => next a s
    | .error e => still (.error e) s

section

variable (next : α → σ → Run (Except Failure β) σ) (notes : List Note) (asked : List String)
  (opened : Nat) (s : σ)

theorem andOnward_ok (a : α) :
    andOnward ⟨.ok a, notes, asked, opened, s⟩ next =
      ⟨(next a s).result, notes ++ (next a s).notes, asked ++ (next a s).asked,
        opened + (next a s).opened, (next a s).state⟩ := rfl

theorem andOnward_error (e : Failure) :
    andOnward ⟨.error e, notes, asked, opened, s⟩ next = ⟨.error e, notes, asked, opened, s⟩ := by
  simp [andOnward, andThen, still]

end

theorem mapError_ok (f : Failure → Failure) (a : α) :
    (Except.ok a : Except Failure α).mapError f = .ok a := rfl

theorem mapError_error (f : Failure → Failure) (e : Failure) :
    (Except.error e : Except Failure α).mapError f = .error (f e) := rfl

end Run

namespace Dialogue

private theorem run_bind (server : Server σ) (d : Dialogue α) (f : α → Dialogue β) (s : σ) :
    run server (bind d f) s = (run server d s).andThen fun a t => run server (f a) t := by
  induction d generalizing s with
  | done a => simp [bind, run, Run.andThen]
  | tell n next ih => simp [bind, run, ih, Run.andThen]
  | acquire target next ih =>
    rcases reply : server.acquire target s with ⟨outcome, t⟩
    cases outcome with
    | ok events =>
      simp only [bind, run, reply, ih, Run.andThen, List.append_assoc]
      congr 1
      omega
    | error e => simp only [bind, run, reply, ih, Run.andThen]
  | ask sql next ih => simp only [bind, run, ih, Run.andThen, List.cons_append]

end Dialogue

namespace Server

/-- Neither a query nor a new session ends a property of the state. -/
structure Keeps (server : Server σ) (P : σ → Prop) : Prop where
  acquire : ∀ target s, P s → P (server.acquire target s).2
  answer : ∀ sql s, P s → P (server.answer sql s).2

end Server

namespace Exchange

def against (server : Server σ) (x : Exchange α) (s : σ) : Run (Except Failure α) σ :=
  Dialogue.run server (ExceptT.run x) s

variable (server : Server σ) (s : σ)

theorem against_pure (a : α) : against server (pure a : Exchange α) s = .still (.ok a) s := rfl

theorem against_throw (e : Failure) :
    against server (throw e : Exchange α) s = .still (.error e) s := rfl

theorem against_bind (x : Exchange α) (f : α → Exchange β) :
    against server (x >>= f) s =
      (against server x s).andOnward fun a t => against server (f a) t := by
  change Dialogue.run server (Dialogue.bind x.run _) s = _
  rw [Dialogue.run_bind]
  congr 1
  funext r t
  cases r <;> rfl

theorem against_tell (n : Note) :
    against server (tell n) s = ⟨.ok (), [n], [], 0, s⟩ := rfl

theorem against_event (level : Level) (message : String) (fields : List (String × String)) :
    against server (event level message fields) s =
      ⟨.ok (), [.event ⟨level, message, fields⟩], [], 0, s⟩ := rfl

theorem against_ask (sql : String) :
    against server (ask sql) s = ⟨(server.answer sql s).1, [], [sql], 0, (server.answer sql s).2⟩ :=
  rfl

theorem against_mk_done (r : Except Failure α) :
    against server (ExceptT.mk (.done r)) s = .still r s := rfl

theorem against_acquire_ok {target : Config.Connection} {events : List Event} {t : σ}
    (h : server.acquire target s = (.ok events, t)) :
    against server (acquire target) s = ⟨.ok (), events.map .event, [], 1, t⟩ := by
  change Dialogue.run server (.acquire target fun r => .done r) s = _
  simp [Dialogue.run, h]

theorem against_acquire_error {target : Config.Connection} {e : Failure} {t : σ}
    (h : server.acquire target s = (.error e, t)) :
    against server (acquire target) s = .still (.error e) t := by
  change Dialogue.run server (.acquire target fun r => .done r) s = _
  simp [Dialogue.run, h, Run.still]

theorem against_orFail (x : Exchange α) (f : Failure → Failure) :
    against server (x.orFail f) s =
      { against server x s with result := (against server x s).result.mapError f } := by
  change Dialogue.run server (Dialogue.bind x.run _) s = _
  rw [Dialogue.run_bind]
  simp [Run.andThen, Dialogue.run, against]

end Exchange

end SchemaGate
