import Mathlib.Data.List.Basic
import SchemaGate.Proofs.ExecutionMessages
import SchemaGate.Proofs.LiveListeners
/-!
What each listener hears. A message goes to the listeners that are attached by then and listen to
its channel, in the order in which they were attached. Main statement: so it does over a whole chain
of calls and the execution behind it, whichever listeners break down, and a listener hears exactly
the messages of its channels from its own welcome on.
-/

set_option autoImplicit false

namespace SchemaGate

variable {σ : Type}

namespace Log

def hearers (attached : List (Target × Sink)) (c : Channel) : List Sink :=
  (attached.filter fun a => decide (c ∈ a.1.channels)).map Prod.snd

/-- What a message comes to for the listeners attached: who receives it, and its text. -/
def delivered (attached : List (Target × Sink)) (m : Channel × String) : List (String × String) :=
  (hearers attached m.1).map fun s => (s.label, m.2)

private theorem sinks_add (e : Emitter) (c c' : Channel) (s : Sink) :
    (e.add c s).sinks c' = e.sinks c' ++ if c' = c then [s] else [] := by
  cases c <;> cases c' <;> simp [Emitter.add, Emitter.sinks]

private theorem sinks_subscribe (e : Emitter) (t : Target) (s : Sink) (c : Channel) :
    (e.subscribe t s).sinks c = e.sinks c ++ if c ∈ t.channels then [s] else [] := by
  cases t with
  | only d => simp [Emitter.subscribe, Target.channels, sinks_add]
  | every =>
    cases c <;> simp [Emitter.subscribe, Target.channels, Channel.all, sinks_add]

theorem sinks_foldl_subscribe (attached : List (Target × Sink)) (e : Emitter) (c : Channel) :
    (attached.foldl (fun e a => e.subscribe a.1 a.2) e).sinks c =
      e.sinks c ++ hearers attached c := by
  induction attached generalizing e with
  | nil => simp [hearers]
  | cons a attached ih =>
    rw [List.foldl_cons, ih, sinks_subscribe, List.append_assoc]
    by_cases listens : c ∈ a.1.channels <;> simp [hearers, listens]

theorem deliveries_emit (e : Emitter) (c : Channel) (text : String) :
    (e.emit c text).filterMap Observation.delivery? =
      (e.sinks c).map fun s => (s.label, text) := by
  have one (s : Sink) :
      (Emitter.deliver c text s).filterMap Observation.delivery? = [(s.label, text)] := by
    unfold Emitter.deliver
    cases s.breaks text <;> rfl
  rw [Emitter.emit, List.filterMap_flatMap]
  simp only [one]
  exact List.map_eq_flatMap.symm

private theorem deliveries_notes {e : Option Emitter} {attached : List (Target × Sink)}
    (sinks : ∀ c, (e.getD .empty).sinks c = hearers attached c) (notes : List Note) :
    (notes.flatMap (observe e)).filterMap Observation.delivery? =
      (notes.filterMap Note.message?).flatMap (delivered attached) := by
  induction notes with
  | nil => rfl
  | cons n notes ih =>
    rw [List.flatMap_cons, List.filterMap_append, ih]
    cases n with
    | event ev => rfl
    | message c text =>
      change ((e.getD .empty).emit c text).filterMap _ ++ _ = _
      rw [deliveries_emit, sinks]
      rfl
    | printed text => rfl

/-- The texts of the messages on the channels that a listener asks for. -/
def wanted (t : Target) (told : List (Channel × String)) : List String :=
  (told.filter fun m => decide (m.1 ∈ t.channels)).map Prod.snd

private theorem wanted_append (t : Target) (told later : List (Channel × String)) :
    wanted t (told ++ later) = wanted t told ++ wanted t later := by
  simp only [wanted, List.filter_append, List.map_append]

private theorem wanted_flatMap {α : Type} (t : Target) (l : List α)
    (f : α → List (Channel × String)) :
    wanted t (l.flatMap f) = l.flatMap fun a => wanted t (f a) := by
  simp only [wanted, List.filter_flatMap, List.map_flatMap]

def heardBy (label : String) (deliveries : List (String × String)) : List String :=
  deliveries.filterMap fun d => if d.1 = label then some d.2 else none

section HeardBy

variable {attached before after : List (Target × Sink)} {t : Target} {sink : Sink} {label : String}

private theorem heardBy_append (d d' : List (String × String)) :
    heardBy label (d ++ d') = heardBy label d ++ heardBy label d' :=
  List.filterMap_append

private theorem heardBy_flatMap {α : Type} (l : List α) (f : α → List (String × String)) :
    heardBy label (l.flatMap f) = l.flatMap fun a => heardBy label (f a) :=
  List.filterMap_flatMap

private theorem delivered_append (m : Channel × String) :
    delivered (before ++ after) m = delivered before m ++ delivered after m := by
  simp [delivered, hearers]

private theorem heardBy_delivered_of_absent (absent : ∀ a ∈ attached, a.2.label ≠ label)
    (m : Channel × String) : heardBy label (delivered attached m) = [] := by
  simp only [heardBy, delivered, hearers, List.filterMap_eq_nil_iff, List.mem_map, List.mem_filter]
  rintro _ ⟨s, ⟨a, ⟨member, -⟩, rfl⟩, rfl⟩
  exact if_neg (absent a member)

private theorem heardBy_delivered (alone : ∀ a ∈ before ++ after, a.2.label ≠ sink.label)
    (m : Channel × String) :
    heardBy sink.label (delivered (before ++ (t, sink) :: after) m) = wanted t [m] := by
  have one : heardBy sink.label (delivered [(t, sink)] m) = wanted t [m] := by
    by_cases listens : m.1 ∈ t.channels <;> simp [heardBy, delivered, hearers, wanted, listens]
  have split : before ++ (t, sink) :: after = before ++ ([(t, sink)] ++ after) := rfl
  rw [split, delivered_append, delivered_append, heardBy_append, heardBy_append, one,
    heardBy_delivered_of_absent fun a member => alone a (List.mem_append_left _ member),
    heardBy_delivered_of_absent fun a member => alone a (List.mem_append_right _ member),
    List.nil_append, List.append_nil]

private theorem heardBy_flatMap_delivered (alone : ∀ a ∈ before ++ after, a.2.label ≠ sink.label)
    (told : List (Channel × String)) :
    heardBy sink.label (told.flatMap (delivered (before ++ (t, sink) :: after))) =
      wanted t told := by
  have each : told.flatMap (fun m => wanted t [m]) = wanted t told := by
    rw [← wanted_flatMap, List.flatMap_singleton']
  rw [heardBy_flatMap, ← each]
  apply List.flatMap_congr
  intro m _
  exact heardBy_delivered alone m

end HeardBy

end Log

namespace Script

open Exchange (against)
open Log (delivered heardBy)

def messagesFrom (before calls : List Call) : List (Log.Channel × String) :=
  (inTurn calls).flatMap fun p => p.2.messages (selection (before ++ p.1))

/-- The deliveries of calls that come after others: each message goes to the listeners attached up
to the call that tells it, its own included. -/
def deliveriesFrom (before calls : List Call) : List (String × String) :=
  (inTurn calls).flatMap fun p =>
    (p.2.messages (selection (before ++ p.1))).flatMap
      (delivered (attachments (before ++ (p.1 ++ [p.2]))))

/-- What is seen of a chain of calls and of messages told behind it, as the listeners hear it. -/
structure HeardInFull (calls : List Call) (told : List (Log.Channel × String))
    (seen : List Observation) : Prop where
  /-- Every message reaches each listener of its channel once, in the order of attachment. -/
  all : seen.filterMap Observation.delivery? =
    deliveriesFrom [] calls ++ told.flatMap (delivered (attachments calls))
  /-- A listener with a label of its own hears the messages of its channels from its welcome on. -/
  each : ∀ before t sink after, calls = before ++ .attach t sink :: after →
    (∀ a ∈ attachments (before ++ after), a.2.label ≠ sink.label) →
    heardBy sink.label (seen.filterMap Observation.delivery?) =
      Log.wanted t (messagesFrom before (.attach t sink :: after) ++ told)

section Heard

variable {calls before after : List Call} {t : Log.Target} {sink : Log.Sink}

private theorem deliveriesFrom_append (before calls later : List Call) :
    deliveriesFrom before (calls ++ later) =
      deliveriesFrom before calls ++ deliveriesFrom (before ++ calls) later := by
  simp only [deliveriesFrom, inTurn_append, List.flatMap_append, List.flatMap_map,
    List.append_assoc]

private theorem attachments_split :
    attachments (before ++ .attach t sink :: after) =
      attachments before ++ (t, sink) :: attachments after := by
  rw [attachments_append]
  rfl

private theorem heardBy_deliveriesFrom_before {label : String}
    (absent : ∀ a ∈ attachments before, a.2.label ≠ label) :
    heardBy label (deliveriesFrom [] before) = [] := by
  rw [deliveriesFrom, Log.heardBy_flatMap, List.flatMap_eq_nil_iff]
  rintro ⟨earlier, c⟩ member
  obtain ⟨rest, rfl⟩ := mem_inTurn.mp member
  have absentYet : ∀ a ∈ attachments (earlier ++ [c]), a.2.label ≠ label := by
    intro a attached
    apply absent
    rw [List.append_cons, attachments_append]
    exact List.mem_append_left _ attached
  rw [Log.heardBy_flatMap, List.flatMap_eq_nil_iff]
  intro m _
  exact Log.heardBy_delivered_of_absent absentYet m

private theorem heardBy_deliveriesFrom_after
    (alone : ∀ a ∈ attachments (before ++ after), a.2.label ≠ sink.label) :
    heardBy sink.label (deliveriesFrom before (.attach t sink :: after)) =
      Log.wanted t (messagesFrom before (.attach t sink :: after)) := by
  rw [deliveriesFrom, messagesFrom, Log.heardBy_flatMap, Log.wanted_flatMap]
  apply List.flatMap_congr
  rintro ⟨earlier, c⟩ member
  obtain ⟨rest, split⟩ := mem_inTurn.mp member
  -- The listener is itself among the calls up to this one, whether it is this one or came before.
  obtain ⟨since, upTo, rfl⟩ : ∃ since, earlier ++ [c] = .attach t sink :: since ∧
      after = since ++ rest := by
    cases earlier with
    | nil =>
      obtain ⟨rfl, rfl⟩ := List.cons_eq_cons.mp split
      exact ⟨[], rfl, rfl⟩
    | cons first earlier =>
      obtain ⟨rfl, rfl⟩ := List.cons_eq_cons.mp split
      exact ⟨earlier ++ [c], rfl, by simp⟩
  have aloneYet : ∀ a ∈ attachments before ++ attachments since, a.2.label ≠ sink.label := by
    intro a attached
    apply alone
    rw [← List.append_assoc, attachments_append, attachments_append]
    exact List.mem_append_left _ attached
  rw [upTo, attachments_split]
  exact Log.heardBy_flatMap_delivered aloneYet _

private theorem heardInFull_of_all {told : List (Log.Channel × String)} {seen : List Observation}
    (all : seen.filterMap Observation.delivery? =
      deliveriesFrom [] calls ++ told.flatMap (delivered (attachments calls))) :
    HeardInFull calls told seen := by
  refine ⟨all, ?_⟩
  rintro before t sink after rfl alone
  have absent : ∀ a ∈ attachments before, a.2.label ≠ sink.label := by
    intro a member
    apply alone
    rw [attachments_append]
    exact List.mem_append_left _ member
  rw [all, deliveriesFrom_append, Log.heardBy_append, Log.heardBy_append,
    heardBy_deliveriesFrom_before absent, List.nil_append, List.nil_append,
    heardBy_deliveriesFrom_after alone, attachments_split,
    Log.heardBy_flatMap_delivered (attachments_append before after ▸ alone), Log.wanted_append]

end Heard

section Course

variable {target : Config.Connection} {version : Int} {done calls : List Call} {s s' : Script}

private theorem deliveriesFrom_cons (done : List Call) (c : Call) (calls : List Call) :
    deliveriesFrom done (c :: calls) =
      (c.messages (selection done)).flatMap (delivered (attachments (done ++ [c]))) ++
        deliveriesFrom (done ++ [c]) calls := by
  simp only [deliveriesFrom, inTurn_cons, List.flatMap_cons, List.flatMap_map, List.append_nil,
    List.nil_append, List.append_assoc, List.cons_append]

private theorem BuiltBy.sinks (b : BuiltBy target version calls s) (c : Log.Channel) :
    (s.emitter.getD .empty).sinks c = Log.hearers (attachments calls) c := by
  rw [b.emitter, Log.sinks_foldl_subscribe]
  cases c <;> rfl

private theorem BuiltBy.deliveries_make {c : Call} {made : Told Script}
    (b : BuiltBy target version done s) (m : Makes s c made) :
    (made.notes.flatMap (Log.observe made.value.emitter)).filterMap Observation.delivery? =
      (c.messages (selection done)).flatMap (delivered (attachments (done ++ [c]))) := by
  rw [Log.deliveries_notes (b.make m).sinks, m.messages, b.database]

private theorem migrateLive_append (server : Server σ) (increase : Bool) (rest : List Call)
    (start : σ) (b : BuiltBy target version done s) (ok : s.built calls = .ok s') :
    ∃ seen, migrateLive server increase s (calls ++ rest) start =
        (migrateLive server increase s' rest start).following ⟨seen, false⟩ start ∧
      seen.filterMap Observation.delivery? = deliveriesFrom done calls := by
  induction calls generalizing done s with
  | nil =>
    obtain rfl := Except.ok.inj ok
    exact ⟨[], rfl, rfl⟩
  | cons c calls ih =>
    rcases make_cases s c with ⟨made, step, m⟩ | ⟨t, -, -, step⟩
    · rw [built_cons_ok step] at ok
      obtain ⟨seen, run, heard⟩ := ih (b.make m) ok
      refine ⟨made.notes.flatMap (Log.observe made.value.emitter) ++ seen, ?_, ?_⟩
      · rw [List.cons_append, migrateLive, step]
        simp only [run, Log.hearAll_eq, LiveRun.following, Bool.false_eq_true, if_false,
          List.append_assoc]
      · rw [List.filterMap_append, b.deliveries_make m, heard, deliveriesFrom_cons]
    · rw [built_cons_error step] at ok
      cases ok

/-- The whole stream of a chain of calls on a new script, and of its execution: every message goes
to the listeners of its channel that are attached by then, each once and in order. A call that
queues a statement tells it, and a listener that is attached hears of it. The execution tells the
answer on the existence of the database if there is one, the version if one was read, then its
decision, which it comes to exactly if nothing failed before, and then the rows that came back for
statements. A chain that is refused is heard up to there. -/
theorem messages_heard_in_full (server : Server σ) (start : σ) (target : Config.Connection)
    (version : Int) (calls : List Call) (increase : Bool) :
    let live := migrateLive server increase (empty target version) calls start
    (∀ s, (empty target version).built calls = .ok s →
      let r := against server (s.execute increase) start
      live.result = some r.result ∧
      HeardInFull calls (executionMessages server s start r.result r.asked) live.seen ∧
      ∀ d events t, s.database = some d → server.acquire s.target start = (.ok events, t) →
        (Settled r.result ↔ ∃ current, (against server (lookUp d.name) t).result = .ok current)) ∧
    ∀ before t, FirstRefused calls before t →
      live.result = some (.error (.usage (.noDatabaseForTable t.name))) ∧
      HeardInFull before [] live.seen := by
  intro live
  constructor
  · intro s ok r
    have b := builtBy_of_built ok
    obtain ⟨seen, run, heard⟩ := migrateLive_append server increase [] start builtBy_empty ok
    rw [List.append_nil, migrateLive, Dialogue.live_eq] at run
    change live = _ at run
    refine ⟨congrArg LiveRun.result run, heardInFull_of_all ?_, ?_⟩
    · have told : r.messages = executionMessages server s start r.result r.asked :=
        messages_execute server s increase start
      have deliveries := Log.deliveries_notes b.sinks r.notes
      rw [← told, Run.messages, ← deliveries, ← heard, run]
      exact List.filterMap_append
    · intro d events t selected acquired
      exact settled_iff selected acquired increase
  · rintro before t ⟨⟨after, rfl⟩, supported, unselected⟩
    obtain ⟨s, ok, b⟩ := @built_of_supported target version before supported
    have none : s.database = none := b.database.trans (selection_eq_none_iff.mpr unselected)
    have refused : s.make (.createTable t) = .error (.usage (.noDatabaseForTable t.name)) := by
      simp only [make, createTable, none]
    obtain ⟨seen, run, heard⟩ :=
      migrateLive_append server increase (.createTable t :: after) start builtBy_empty ok
    rw [migrateLive, refused] at run
    change live = _ at run
    refine ⟨congrArg LiveRun.result run, heardInFull_of_all ?_⟩
    rw [run, ← heard]
    exact List.filterMap_append.trans (by simp)

end Course

/-- A listener that breaks down over everything keeps no message from the other. -/
theorem messages_heard_past_breakdown :
    let frail : Log.Sink := ⟨"frail", fun _ => true⟩
    let late : Log.Sink := ⟨"late", fun _ => false⟩
    let calls : List Call := [.attach (.only .debug) frail,
      .useDatabase ((Schema.Database.named "shop").withExisting true), .raw "DO 1",
      .attach .every late, .raw "DO 2"]
    let answers : List (Except Failure (List Row)) :=
      [.ok [⟨[("Database (shop)", .text "shop")]⟩], .ok [⟨[("value", .int 5)]⟩], .ok [],
        .ok [⟨[("n", .int 1)]⟩, ⟨[("n", .int 2)]⟩]]
    let live := migrateLive (.prepared answers) true (empty (.ofUrl "") 3) calls []
    let heard := live.seen.filterMap Observation.delivery?
    live.result = some (.ok (.applied (some 5) 3 2)) ∧
    heardBy "frail" heard = ["Logging debug events to custom logger.",
      "Logging all events to custom logger.",
      "Starting database migration of 'shop' from version '5' to version '3'."] ∧
    heardBy "late" heard = ["Logging all events to custom logger.",
      "Adding SQL statement to queue: DO 2", "Database 'shop' exists: true",
      "Stored schema version of 'shop': 5",
      "Starting database migration of 'shop' from version '5' to version '3'.",
      "Statement 1 returned 2 row(s)"] := by
  intro frail late calls answers live heard
  have whole := messages_heard_in_full (.prepared answers) [] (.ofUrl "") 3 calls true
  obtain ⟨result, stream, -⟩ := whole.1 _ rfl
  have first := stream.each [] (.only .debug) frail _ rfl (by decide)
  have second := stream.each (calls.take 3) .every late [.raw "DO 2"] rfl (by decide)
  exact ⟨result, first.trans (by decide +kernel), second.trans (by decide +kernel)⟩

end Script

end SchemaGate
