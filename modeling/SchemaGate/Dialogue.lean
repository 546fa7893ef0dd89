import SchemaGate.Config.Connection
import SchemaGate.Failure
import SchemaGate.Journal
import SchemaGate.Row
/-!
Dialogues with a server. A dialogue opens sessions, asks queries on the last session opened, and
tells what happens; what it does next depends on the answers. A server is anything that answers:
its state may depend on everything it was asked before. Running a dialogue against a server gives
the result together with all that was told and asked, in order.
-/

set_option autoImplicit false

namespace SchemaGate

/-- A course of action against a server. -/
inductive Dialogue (α : Type) where
  | done (a : α)
  | tell (n : Note) (next : Dialogue α)
  | acquire (target : Config.Connection) (next : Except Failure Unit → Dialogue α)
  | ask (sql : String) (next : Except Failure (List Row) → Dialogue α)

namespace Dialogue

def bind {α β : Type} : Dialogue α → (α → Dialogue β) → Dialogue β
  | done a, f => f a
  | tell n next, f => tell n (bind next f)
  | acquire target next, f => acquire target fun r => bind (next r) f
  | ask sql next, f => ask sql fun r => bind (next r) f

instance : Monad Dialogue where
  pure := done
  bind := bind

end Dialogue

/-- A dialogue that may fail. -/
abbrev Exchange := ExceptT Failure Dialogue

namespace Exchange

def tell (n : Note) : Exchange Unit := ExceptT.mk (.tell n (.done (.ok ())))

def event (level : Level) (message : String) (fields : List (String × String)) : Exchange Unit :=
  tell (.event ⟨level, message, fields⟩)

def print (text : String) : Exchange Unit := tell (.printed text)

def acquire (target : Config.Connection) : Exchange Unit :=
  ExceptT.mk (.acquire target fun r => .done r)

/-- Asks a query on the session opened last. -/
def ask (sql : String) : Exchange (List Row) := ExceptT.mk (.ask sql fun r => .done r)

def orFail {α : Type} (x : Exchange α) (f : Failure → Failure) : Exchange α :=
  ExceptT.mk (Dialogue.bind x.run fun r => .done (r.mapError f))

end Exchange

/-- Something that opens sessions and answers queries. An opened session may come with events. -/
structure Server (σ : Type) where
  acquire : Config.Connection → σ → Except Failure (List Event) × σ
  answer : String → σ → Except Failure (List Row) × σ

structure Run (α σ : Type) where
  result : α
  /-- All that was told, in order. -/
  notes : List Note
  /-- The queries asked, in order. -/
  asked : List String
  /-- How many sessions were opened. -/
  opened : Nat
  /-- The state the server was left in. -/
  state : σ

namespace Dialogue

def run {α σ : Type} (server : Server σ) : Dialogue α → σ → Run α σ
  | done a, s => ⟨a, [], [], 0, s⟩
  | tell n next, s =>
    let r := run server next s
    { r with notes := n :: r.notes }
  | acquire target next, s =>
    match server.acquire target s with
    | (.ok events, s) =>
      let r := run server (next (.ok ())) s
      { r with notes := events.map Note.event ++ r.notes, opened := r.opened + 1 }
    | (.error e, s) => run server (next (.error e)) s
  | ask sql next, s =>
    let (reply, s) := server.answer sql s
    let r := run server (next reply) s
    { r with asked := sql :: r.asked }

end Dialogue

namespace Server

/-- The server whose answers are a function of the queries asked before and of the query itself. -/
def ofHistory (acquire : Config.Connection → Except Failure Unit)
    (answer : List String → String → Except Failure (List Row)) : Server (List String) where
  acquire target history := ((acquire target).map fun _ => [], history)
  answer sql history := (answer history sql, history ++ [sql])

/-- The server that gives one prepared answer to each query of a session, and no rows once they are
used up. -/
def prepared (answers : List (Except Failure (List Row))) :
    Server (List (Except Failure (List Row))) where
  acquire _ _ := (.ok [], answers)
  answer _
    | reply :: rest => (reply, rest)
    | [] => (.ok [], [])

end Server

end SchemaGate
