import SchemaGate.Proofs.MessageStream
/-!
Subscriptions and emissions in any order. A listener may break down over a message while others
still wait for it; a breakdown that nobody caught would end the program, with all that was to come.
Main statement: each message goes to those who subscribed to its channel before it, once for each
subscription and in their order, each breakdown is reported, and nothing later is affected.
-/

set_option autoImplicit false

namespace SchemaGate.Log

inductive Act where
  | subscribe (t : Target) (s : Sink)
  | emit (c : Channel) (text : String)

def Act.subscription? : Act → Option (Target × Sink)
  | subscribe t s => some (t, s)
  | emit _ _ => none

def subscriptions (acts : List Act) : List (Target × Sink) := acts.filterMap Act.subscription?

/-- Acts in turn, with what is heard of each and the emitter they leave. A breakdown that comes
through prevents the acts after it. -/
def live (e : Emitter) : List Act → List Hearing × Emitter
  | [] => ([], e)
  | .subscribe t s :: rest =>
    let r := live (e.subscribe t s) rest
    (.silence :: r.1, r.2)
  | .emit c text :: rest =>
    let h := hearIn c text (e.sinks c)
    if h.broken then ([h], e)
    else
      let r := live e rest
      (h :: r.1, r.2)

def breakdownReport : Channel → Event
  | .debug => ⟨.warn, "log callback panicked", [("channel", "debug")]⟩
  | .trace => ⟨.warn, "log callback panicked", [("channel", "trace")]⟩

structure Reaches (sinks : List Sink) (c : Channel) (text : String) (h : Hearing) : Prop where
  contained : h.broken = false
  deliveries : h.seen.filterMap Observation.delivery? = sinks.map fun s => (s.label, text)
  reports : h.seen.filterMap Observation.event? =
    List.replicate (sinks.countP fun s => s.breaks text) (breakdownReport c)
  /-- A report stands right behind the delivery that it is about. -/
  order : h.seen = sinks.flatMap fun s =>
    .delivered s.label text :: if s.breaks text then [.event (breakdownReport c)] else []

section Steps

variable {e : Emitter} {c : Channel} {text : String}

private theorem live_subscribe (t : Target) (s : Sink) (rest : List Act) :
    live e (.subscribe t s :: rest) =
      (.silence :: (live (e.subscribe t s) rest).1, (live (e.subscribe t s) rest).2) := rfl

private theorem live_emit (rest : List Act) :
    live e (.emit c text :: rest) =
      (⟨e.emit c text, false⟩ :: (live e rest).1, (live e rest).2) := by
  rw [live, hearIn_eq]
  rfl

private theorem deliver_eq (c : Channel) (text : String) (s : Sink) :
    Emitter.deliver c text s = .delivered s.label text ::
      if s.breaks text then [.event (breakdownReport c)] else [] := by
  cases c <;> rfl

private theorem reports_emit (sinks : List Sink) :
    (sinks.flatMap (Emitter.deliver c text)).filterMap Observation.event? =
      List.replicate (sinks.countP fun s => s.breaks text) (breakdownReport c) := by
  induction sinks with
  | nil => rfl
  | cons s rest ih =>
    rw [List.flatMap_cons, List.filterMap_append, ih, List.countP_cons, deliver_eq]
    cases breaks : s.breaks text with
    | false => rfl
    | true => rw [if_pos rfl, if_pos rfl, List.replicate_succ]; rfl

private theorem reaches_emit (e : Emitter) (c : Channel) (text : String) :
    Reaches (e.sinks c) c text ⟨e.emit c text, false⟩ := by
  refine ⟨rfl, deliveries_emit e c text, reports_emit (e.sinks c), ?_⟩
  exact List.flatMap_congr fun s _ => deliver_eq c text s

end Steps

section Runs

variable {e : Emitter}

private theorem live_append (before after : List Act) :
    live e (before ++ after) =
      ((live e before).1 ++ (live (live e before).2 after).1,
        (live (live e before).2 after).2) := by
  induction before generalizing e with
  | nil => rfl
  | cons act before ih =>
    cases act with
    | subscribe t s =>
      rw [List.cons_append, live_subscribe, live_subscribe, ih]
      rfl
    | emit c text =>
      rw [List.cons_append, live_emit, live_emit, ih]
      rfl

private theorem length_live (acts : List Act) : (live e acts).1.length = acts.length := by
  induction acts generalizing e with
  | nil => rfl
  | cons act acts ih =>
    cases act with
    | subscribe t s => rw [live_subscribe, List.length_cons, List.length_cons, ih]
    | emit c text => rw [live_emit, List.length_cons, List.length_cons, ih]

private theorem emitter_live (acts : List Act) :
    (live e acts).2 = (subscriptions acts).foldl (fun e a => e.subscribe a.1 a.2) e := by
  induction acts generalizing e with
  | nil => rfl
  | cons act acts ih =>
    cases act with
    | subscribe t s =>
      rw [live_subscribe, ih]
      rfl
    | emit c text =>
      rw [live_emit, ih]
      rfl

private theorem sinks_live (acts : List Act) (c : Channel) :
    (live .empty acts).2.sinks c = hearers (subscriptions acts) c := by
  rw [emitter_live, sinks_foldl_subscribe]
  cases c <;> rfl

/-- What is heard of an act among others is what is heard of it first thing, with the emitter that
the acts before it leave. -/
private theorem live_getElem? (before after : List Act) (act : Act) :
    (live e (before ++ act :: after)).1[before.length]? =
      (live (live e before).2 (act :: after)).1[0]? := by
  rw [live_append, List.getElem?_append_right (Nat.le_of_eq (length_live before)), length_live,
    Nat.sub_self]

private theorem listenerCount_live (acts : List Act) (c : Channel) :
    (live .empty acts).2.listenerCount c =
      (subscriptions acts).countP fun a => decide (c ∈ a.1.channels) := by
  rw [Emitter.listenerCount, sinks_live, hearers, List.length_map, List.countP_eq_length_filter]

end Runs

/-- Subscriptions and emissions in any order and number. Every act is carried out. Each message goes
to the listeners that subscribed to its channel before it, once for each such subscription, in the
order of subscription, whichever of them break down; each breakdown is reported and none comes
through. The listeners of a channel are as many as the subscriptions to it so far. -/
theorem emissions_reach_subscribers (acts : List Act) :
    (live .empty acts).1.length = acts.length ∧
    (∀ before c text after, acts = before ++ .emit c text :: after →
      ∃ h, (live .empty acts).1[before.length]? = some h ∧
        h.seen = (live .empty before).2.emit c text ∧
        Reaches (hearers (subscriptions before) c) c text h) ∧
    (∀ before t s after, acts = before ++ .subscribe t s :: after →
      (live .empty acts).1[before.length]? = some .silence) ∧
    ∀ before after c, acts = before ++ after →
      (live .empty before).2.listenerCount c =
        (subscriptions before).countP fun a => decide (c ∈ a.1.channels) := by
  refine ⟨length_live acts, ?_, ?_, ?_⟩
  · rintro before c text after rfl
    have reached := reaches_emit (live .empty before).2 c text
    rw [sinks_live] at reached
    refine ⟨_, ?_, rfl, reached⟩
    rw [live_getElem?, live_emit]
    rfl
  · rintro before t s after rfl
    rw [live_getElem?, live_subscribe]
    rfl
  · exact fun before _ c _ => listenerCount_live before c

/-- A listener to everything that always breaks down, subscribed twice, and one behind it. -/
theorem emission_past_breakdowns :
    let frail : Sink := ⟨"frail", fun _ => true⟩
    let calm : Sink := ⟨"calm", fun _ => false⟩
    let acts : List Act := [.subscribe .every frail, .subscribe (.only .trace) calm,
      .emit .debug "one", .subscribe .every frail, .subscribe .every calm, .emit .debug "two"]
    ∃ h, (live .empty acts).1[5]? = some h ∧
      h.seen.filterMap Observation.delivery? =
        [("frail", "two"), ("frail", "two"), ("calm", "two")] ∧
      h.seen.filterMap Observation.event? =
        [⟨.warn, "log callback panicked", [("channel", "debug")]⟩,
          ⟨.warn, "log callback panicked", [("channel", "debug")]⟩] := by
  intro frail calm acts
  obtain ⟨-, emissions, -, -⟩ := emissions_reach_subscribers acts
  obtain ⟨h, heard, -, reached⟩ := emissions (acts.take 5) .debug "two" [] rfl
  exact ⟨h, heard, reached.deliveries, reached.reports⟩

end SchemaGate.Log
