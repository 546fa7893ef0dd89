import Mathlib.Logic.Function.Basic
import SchemaGate.Proofs.Runs
/-!
Several dialogues with one server. A schedule says whose turn it is; a turn is one step of a
dialogue, and a query and its answer are one step. Main statement: if the replies to a dialogue are
the same in all states that the others can bring about, then under every schedule it comes to what
it comes to alone, once it has had turns enough.
-/

set_option autoImplicit false

namespace SchemaGate

variable {α β σ ι : Type}

inductive Reply where
  | opening (r : Except Failure Unit)
  | answer (r : Except Failure (List Row))

/-- A dialogue under way: what is left of it, and what it has heard so far. -/
structure Party (α : Type) where
  rest : Dialogue α
  heard : List Reply

namespace Server

def opening (server : Server σ) (target : Config.Connection) (s : σ) : Except Failure Unit :=
  (server.acquire target s).1.map fun _ => ()

end Server

namespace Party

def start (d : Dialogue α) : Party α := ⟨d, []⟩

def step (server : Server σ) (p : Party α) (s : σ) : Party α × σ :=
  match p.rest with
  | .done _ => (p, s)
  | .tell _ next => (⟨next, p.heard⟩, s)
  | .acquire target next =>
    let r := server.opening target s
    (⟨next r, p.heard ++ [.opening r]⟩, (server.acquire target s).2)
  | .ask sql next =>
    let (r, s) := server.answer sql s
    (⟨next r, p.heard ++ [.answer r]⟩, s)

end Party

/-- Gives the parties their turns in the order of a schedule. -/
def interleave [DecidableEq ι] (server : Server σ) :
    List ι → (ι → Party α) → σ → (ι → Party α) × σ
  | [], parties, s => (parties, s)
  | i :: schedule, parties, s =>
    let (p, s) := (parties i).step server s
    interleave server schedule (Function.update parties i p) s

namespace Dialogue

/-- What a dialogue comes to on replies, if they are enough for it to end. -/
def outcome? : Dialogue α → List Reply → Option α
  | done a, _ => some a
  | tell _ next, heard => outcome? next heard
  | acquire _ next, .opening r :: heard => outcome? (next r) heard
  | ask _ next, .answer r :: heard => outcome? (next r) heard
  | acquire .., _ => none
  | ask .., _ => none

theorem lawfulMonad : LawfulMonad Dialogue :=
  .mk' Dialogue
    (by
      intro α d
      change bind d done = d
      induction d with
      | done a => rfl
      | tell n next ih => exact congrArg (tell n) ih
      | acquire target next ih => exact congrArg (acquire target) (funext ih)
      | ask sql next ih => exact congrArg (ask sql) (funext ih))
    (by
      intro α β a f
      rfl)
    (by
      intro α β γ d f g
      change bind (bind d f) g = bind d fun a => bind (f a) g
      induction d with
      | done a => rfl
      | tell n next ih => exact congrArg (tell n) ih
      | acquire target next ih => exact congrArg (acquire target) (funext ih)
      | ask sql next ih => exact congrArg (ask sql) (funext ih))

private theorem outcome?_bind {d : Dialogue α} {f : α → Dialogue β} {heard : List Reply} {a : α}
    (ends : d.outcome? heard = some a) :
    ∃ later, (bind d f).outcome? heard = (f a).outcome? later := by
  induction d generalizing heard with
  | done b =>
    obtain rfl : b = a := Option.some.inj ends
    exact ⟨heard, rfl⟩
  | tell n next ih => exact ih ends
  | acquire target next ih =>
    match heard, ends with
    | .opening r :: heard, ends => exact ih r ends
  | ask sql next ih =>
    match heard, ends with
    | .answer r :: heard, ends => exact ih r ends

end Dialogue

namespace Server

def recorded : Server (List Reply) where
  acquire _
    | .opening r :: rest => (r.map fun _ => [], rest)
    | heard => (.ok [], heard)
  answer _
    | .answer r :: rest => (r, rest)
    | heard => (.ok [], heard)

theorem result_recorded {d : Dialogue α} {heard : List Reply} {a : α}
    (ends : d.outcome? heard = some a) : (Dialogue.run recorded d heard).result = a := by
  induction d generalizing heard with
  | done b => exact Option.some.inj ends
  | tell n next ih => exact ih ends
  | acquire target next ih =>
    match heard, ends with
    | .opening (.ok ()) :: heard, ends => exact ih (.ok ()) ends
    | .opening (.error e) :: heard, ends => exact ih (.error e) ends
  | ask sql next ih =>
    match heard, ends with
    | .answer r :: heard, ends => exact ih r ends

end Server

/-- From every state with property `P`, the dialogue hears the same replies, and it ends with `a`
after `n` steps. -/
inductive Settled (server : Server σ) (P : σ → Prop) : Nat → Dialogue α → α → Prop
  | done (a : α) : Settled server P 0 (.done a) a
  | tell {n : Nat} {note : Note} {next : Dialogue α} {a : α} :
      Settled server P n next a → Settled server P (n + 1) (.tell note next) a
  | acquire {n : Nat} {target : Config.Connection} {next : Except Failure Unit → Dialogue α}
      {r : Except Failure Unit} {a : α} : (∀ s, P s → server.opening target s = r) →
      Settled server P n (next r) a → Settled server P (n + 1) (.acquire target next) a
  | ask {n : Nat} {sql : String} {next : Except Failure (List Row) → Dialogue α}
      {r : Except Failure (List Row)} {a : α} : (∀ s, P s → (server.answer sql s).1 = r) →
      Settled server P n (next r) a → Settled server P (n + 1) (.ask sql next) a

namespace Settled

variable {server : Server σ} {P : σ → Prop} {n : Nat} {d : Dialogue α} {a : α}

private theorem outcome?_nil (settled : Settled server P n d a) {b : α}
    (ends : d.outcome? [] = some b) :
    b = a := by
  induction settled with
  | done a => exact (Option.some.inj ends).symm
  | tell _ ih => exact ih ends
  | acquire _ _ _ => exact nomatch ends
  | ask _ _ _ => exact nomatch ends

/-- A dialogue is settled if the answers to the queries that it asks are the same in all states. -/
theorem of_steady (keeps : server.Keeps P) {opens : Config.Connection → Except Failure Unit}
    (opening : ∀ target s, P s → server.opening target s = opens target) {s : σ} (holds : P s)
    (steady : ∀ sql ∈ (d.run server s).asked, ∃ r, ∀ t, P t → (server.answer sql t).1 = r) :
    ∃ n, Settled server P n d (d.run server s).result := by
  induction d generalizing s with
  | done a => exact ⟨0, .done a⟩
  | tell note next ih =>
    obtain ⟨n, settled⟩ := ih holds steady
    exact ⟨n + 1, .tell settled⟩
  | acquire target next ih =>
    have kept := keeps.acquire target s holds
    have opened := opening target s holds
    rcases reply : server.acquire target s with ⟨outcome, t⟩
    simp only [Server.opening, reply] at kept opened
    cases outcome with
    | ok events =>
      simp only [Dialogue.run, reply] at steady ⊢
      obtain ⟨n, settled⟩ := ih (.ok ()) kept steady
      refine ⟨n + 1, .acquire (r := .ok ()) ?_ settled⟩
      intro u holds
      exact (opening target u holds).trans opened.symm
    | error e =>
      simp only [Dialogue.run, reply] at steady ⊢
      obtain ⟨n, settled⟩ := ih (.error e) kept steady
      refine ⟨n + 1, .acquire (r := .error e) ?_ settled⟩
      intro u holds
      exact (opening target u holds).trans opened.symm
  | ask sql next ih =>
    -- The answer at `s` is the answer everywhere, so the rest may be followed from there.
    obtain ⟨r, same⟩ := steady sql List.mem_cons_self
    have later := fun q member => steady q (List.mem_cons_of_mem sql member)
    obtain ⟨n, settled⟩ := ih _ (keeps.answer sql s holds) later
    rw [same s holds] at settled
    simp only [Dialogue.run, same s holds]
    exact ⟨n + 1, .ask same settled⟩

private theorem step (settled : Settled server P n d a) {f : α → Dialogue β} {p : Party β} {s : σ}
    (within : p.rest = d.bind f) (holds : P s) :
    d = .done a ∨ ∃ k d' more, n = k + 1 ∧ (p.step server s).1 = ⟨d'.bind f, p.heard ++ more⟩ ∧
      Settled server P k d' a ∧ ∀ later, d.outcome? (more ++ later) = d'.outcome? later := by
  obtain ⟨rest, heard⟩ := p
  obtain rfl : rest = d.bind f := within
  cases settled with
  | done => exact .inl rfl
  | @tell k note next _ settled =>
    exact .inr ⟨k, next, [], rfl, by simp [Party.step, Dialogue.bind], settled, fun _ => rfl⟩
  | @acquire k target next r _ same settled =>
    have heard := same s holds
    exact .inr ⟨k, next r, [.opening r], rfl, by simp [Party.step, Dialogue.bind, heard],
      settled, fun _ => rfl⟩
  | @ask k sql next r _ same settled =>
    have heard := same s holds
    exact .inr ⟨k, next r, [.answer r], rfl, by simp [Party.step, Dialogue.bind, heard],
      settled, fun _ => rfl⟩

end Settled

section Turns

variable {server : Server σ} {P : σ → Prop}

private theorem Server.Keeps.step (keeps : server.Keeps P) (p : Party α) {s : σ} (holds : P s) :
    P (p.step server s).2 := by
  unfold Party.step
  split
  · exact holds
  · exact holds
  · exact keeps.acquire _ s holds
  · exact keeps.answer _ s holds

private theorem outcome?_step (server : Server σ) (p : Party α) (s : σ) :
    ∃ more, (p.step server s).1.heard = p.heard ++ more ∧
      ∀ later, p.rest.outcome? (more ++ later) = (p.step server s).1.rest.outcome? later := by
  obtain ⟨rest, heard⟩ := p
  cases rest with
  | done a => exact ⟨[], by simp [Party.step], fun _ => rfl⟩
  | tell n next => exact ⟨[], by simp [Party.step], fun _ => rfl⟩
  | acquire target next => exact ⟨[_], rfl, fun _ => rfl⟩
  | ask sql next => exact ⟨[_], rfl, fun _ => rfl⟩

end Turns

section Schedules

variable [DecidableEq ι] {server : Server σ} {P : σ → Prop}

private theorem outcome?_interleave (server : Server σ) (schedule : List ι) (parties : ι → Party α)
    (s : σ) (i : ι) :
    let p := (interleave server schedule parties s).1 i
    ∃ more, p.heard = (parties i).heard ++ more ∧
      ∀ later, (parties i).rest.outcome? (more ++ later) = p.rest.outcome? later := by
  induction schedule generalizing parties s with
  | nil => exact ⟨[], by simp [interleave], fun _ => rfl⟩
  | cons j schedule ih =>
    obtain ⟨after, told, goes⟩ := ih (Function.update parties j ((parties j).step server s).1)
      ((parties j).step server s).2
    by_cases same : j = i
    · subst same
      obtain ⟨first, heard, leads⟩ := outcome?_step server (parties j) s
      rw [Function.update_self] at told goes
      refine ⟨first ++ after, ?_, fun later => ?_⟩
      · rw [← List.append_assoc, ← heard]
        exact told
      · rw [List.append_assoc, leads]
        exact goes later
    · rw [Function.update_of_ne (Ne.symm same)] at told goes
      exact ⟨after, told, goes⟩

/-- Under every schedule, a party is either past a settled dialogue or as far into it as it had
turns. -/
private theorem interleave_settled (keeps : server.Keeps P) (schedule : List ι)
    {parties : ι → Party β} {i : ι} {s : σ} (holds : P s) {n : Nat} {d : Dialogue α} {a : α}
    (settled : Settled server P n d a) {f : α → Dialogue β} (within : (parties i).rest = d.bind f) :
    let p := (interleave server schedule parties s).1 i
    ∃ more, p.heard = (parties i).heard ++ more ∧
      (d.outcome? more = some a ∨ ∃ k d', p.rest = d'.bind f ∧ Settled server P k d' a ∧
        k + schedule.count i = n ∧ ∀ later, d.outcome? (more ++ later) = d'.outcome? later) := by
  -- Each turn of `i` is one step of its dialogue; a turn of another only keeps `P`.
  induction schedule generalizing parties s n d with
  | nil => exact ⟨[], by simp [interleave], .inr ⟨n, d, within, settled, rfl, fun _ => rfl⟩⟩
  | cons j schedule ih =>
    have kept := keeps.step (parties j) holds
    by_cases same : j = i
    · subst same
      rcases settled.step within holds with rfl | ⟨k, d', first, rfl, stepped, settled', leads⟩
      · obtain ⟨more, told, -⟩ := outcome?_interleave server (j :: schedule) parties s j
        exact ⟨more, told, .inl rfl⟩
      · have within' : (Function.update parties j ((parties j).step server s).1 j).rest =
            d'.bind f := by
          rw [Function.update_self, stepped]
        have heard : ((parties j).step server s).1.heard = (parties j).heard ++ first := by
          rw [stepped]
        obtain ⟨after, told, arrives⟩ := ih kept settled' within'
        rw [Function.update_self, heard] at told
        refine ⟨first ++ after, by rw [← List.append_assoc]; exact told, ?_⟩
        rcases arrives with ends | ⟨l, d'', rest, left, turns, goes⟩
        · exact .inl ((leads after).trans ends)
        · refine .inr ⟨l, d'', rest, left, ?_, fun later => ?_⟩
          · rw [List.count_cons_self]
            omega
          · rw [List.append_assoc, leads, goes]
    · have within' : (Function.update parties j ((parties j).step server s).1 i).rest =
          d.bind f := by
        rw [Function.update_of_ne (Ne.symm same), within]
      obtain ⟨more, told, arrives⟩ := ih kept settled within'
      rw [Function.update_of_ne (Ne.symm same)] at told
      rw [List.count_cons_of_ne same]
      exact ⟨more, told, arrives⟩

/-- A settled dialogue comes to the same under every schedule: whenever the replies so far are
enough for it to end, it ends with `a`; after `n` turns they are enough, and so they are for a party
that has finished. -/
theorem outcome?_of_settled (keeps : server.Keeps P) (schedule : List ι) {parties : ι → Party β}
    {i : ι} {s : σ} (holds : P s) {n : Nat} {d : Dialogue α} {a : α}
    (settled : Settled server P n d a) {f : α → Dialogue β}
    (starts : parties i = .start (d.bind f)) :
    let p := (interleave server schedule parties s).1 i
    (∀ b, d.outcome? p.heard = some b → b = a) ∧
      (n ≤ schedule.count i → d.outcome? p.heard = some a) ∧
      ∀ r, p.rest = .done r →
        d.outcome? p.heard = some a ∧ ∃ later, (f a).outcome? later = some r := by
  intro p
  have within : (parties i).rest = d.bind f := congrArg Party.rest starts
  obtain ⟨more, told, arrives⟩ := interleave_settled keeps schedule holds settled within
  obtain ⟨more', told', goes⟩ := outcome?_interleave server schedule parties s i
  rw [starts] at told told' goes
  obtain rfl : p.heard = more := told
  obtain rfl : p.heard = more' := told'
  rcases arrives with ends | ⟨k, d', rest, left, turns, leads⟩
  · refine ⟨fun b other => Option.some.inj (other.symm.trans ends), fun _ => ends, ?_⟩
    intro r finished
    obtain ⟨later, continues⟩ := Dialogue.outcome?_bind (f := f) ends
    have whole := goes []
    rw [List.append_nil] at whole
    change (d.bind f).outcome? p.heard = p.rest.outcome? [] at whole
    rw [continues, finished] at whole
    exact ⟨ends, later, whole⟩
  · have now := leads []
    rw [List.append_nil] at now
    have reached (ended : d' = .done a) : d.outcome? p.heard = some a := by
      rw [now, ended]
      rfl
    refine ⟨?_, ?_, ?_⟩
    · intro b ends
      exact left.outcome?_nil (now.symm.trans ends)
    · intro enough
      obtain rfl : k = 0 := by omega
      cases left
      exact reached rfl
    · intro r finished
      cases left with
      | done =>
        refine ⟨reached rfl, [], ?_⟩
        have last : f a = .done r := rest.symm.trans finished
        rw [last]
        rfl
      -- A dialogue with steps left is not where a finished party is.
      | tell => exact nomatch rest.symm.trans finished
      | acquire => exact nomatch rest.symm.trans finished
      | ask => exact nomatch rest.symm.trans finished

end Schedules

end SchemaGate
