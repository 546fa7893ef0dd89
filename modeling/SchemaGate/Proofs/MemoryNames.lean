import SchemaGate.MemoryServer
import SchemaGate.Proofs.QuotedNames
/-!
Names on their way through the server in memory. A statement writes each backtick of a name twice;
the server finds where the name ends, but looks up and creates the name as it is written. Main
statement: for which names on which servers a statement reaches the database that it names.
-/

set_option autoImplicit false

namespace SchemaGate

namespace Text

private theorem length_doubled (q : Char) (s : List Char) :
    (doubled q s).length = s.length + s.count q := by
  induction s with
  | nil => rfl
  | cons c s ih =>
    rw [doubled_cons, List.length_append, ih, List.length_cons, List.count_cons]
    by_cases same : c = q
    · simp only [same, if_true, List.length_cons, List.length_nil, beq_self_eq_true]
      omega
    · simp only [if_neg same, List.length_cons, List.length_nil, beq_iff_eq]
      omega

private theorem doubled_eq_self_iff {q : Char} {s : List Char} : doubled q s = s ↔ q ∉ s := by
  constructor
  · intro same
    have length := length_doubled q s
    rw [same] at length
    apply List.count_eq_zero.mp
    omega
  · intro absent
    induction s with
    | nil => rfl
    | cons c s ih =>
      have other : ¬ q = c := fun same => absent (same ▸ List.mem_cons_self)
      have absent : q ∉ s := fun member => absent (List.mem_cons_of_mem c member)
      rw [doubled_cons, if_neg (Ne.symm other), ih absent, List.singleton_append]

/-- Two texts of which neither starts with the other part before either ends. -/
private theorem after?_append_eq_none {lead start : List Char} (rest : List Char)
    (later : after? lead start = none) (sooner : after? start lead = none) :
    after? lead (start ++ rest) = none := by
  induction lead generalizing start with
  | nil => simp [after?] at later
  | cons a lead ih =>
    cases start with
    | nil => simp [after?] at sooner
    | cons c start =>
      by_cases same : a = c
      · subst same
        simp only [after?, if_true] at later sooner
        rw [List.cons_append, after?, if_pos rfl]
        exact ih later sooner
      · rw [List.cons_append, after?, if_neg same]

end Text

namespace MemoryServer

open Schema (backtick)

/-- Texts in which the closing mark stands only in pairs. -/
inductive Paired (close : Char) : List Char → Prop
  | nil : Paired close []
  | plain {c : Char} {s : List Char} : c ≠ close → Paired close s → Paired close (c :: s)
  | pair {s : List Char} : Paired close s → Paired close (close :: close :: s)

theorem paired_doubled (close : Char) (s : List Char) : Paired close (Text.doubled close s) := by
  induction s with
  | nil => exact .nil
  | cons c s ih =>
    rw [Text.doubled_cons]
    by_cases same : c = close
    · rw [if_pos same]
      exact .pair ih
    · rw [if_neg same]
      exact .plain same ih

theorem upToClose_of_paired {close : Char} {body rest : List Char} (paired : Paired close body)
    (alone : rest.head? ≠ some close) : upToClose close (body ++ close :: rest) = some body := by
  induction paired with
  | nil =>
    cases rest with
    | nil => simp [upToClose]
    | cons d rest =>
      have other : d ≠ close := by simpa using alone
      simp [upToClose, other]
  | plain other _ ih =>
    rw [List.cons_append, upToClose.eq_def]
    simp [other, ih]
  | pair _ ih =>
    rw [List.cons_append, List.cons_append, upToClose.eq_def]
    simp [ih]

/-- What the server takes for the name in a statement. -/
def asWritten (name : String) : String := String.ofList (Text.doubled backtick name.toList)

theorem asWritten_eq_self_iff {name : String} : asWritten name = name ↔ backtick ∉ name.toList := by
  rw [← Text.doubled_eq_self_iff, ← String.toList_inj, asWritten, String.toList_ofList]

private theorem quotedAfter?_quote (before name rest : String) {lead : String}
    (opens : lead.toList = before.toList ++ [backtick])
    (alone : rest.toList.head? ≠ some backtick) :
    quotedAfter? (before ++ (Schema.Identifier.quote name ++ rest)) lead backtick =
      some (Text.doubled backtick name.toList) := by
  have chars : (before ++ (Schema.Identifier.quote name ++ rest)).toList = lead.toList ++
      (Text.doubled backtick name.toList ++ backtick :: rest.toList) := by
    rw [opens]
    simp only [String.toList_append, Schema.Identifier.toList_quote, Schema.Identifier.quoteChars,
      List.append_assoc, List.cons_append, List.nil_append]
  rw [quotedAfter?, chars, Text.after?_append, Option.bind_some]
  exact upToClose_of_paired (paired_doubled backtick name.toList) alone

theorem quotedAfter?_versionQuery (name : String) :
    quotedAfter? (Gate.versionQuery name) versionLead backtick =
      some (Text.doubled backtick name.toList) := by
  unfold Gate.versionQuery
  simp only [String.append_assoc]
  apply quotedAfter?_quote
  · decide
  · simp [backtick]

private theorem quotedAfter?_render (d : Schema.Database) :
    quotedAfter? d.render createLead backtick = some (Text.doubled backtick d.name.toList) := by
  unfold Schema.Database.render
  simp only [String.append_assoc]
  apply quotedAfter?_quote
  · decide
  · simp [backtick]

private theorem quotedAfter?_eq_none {lead start : String} (close : Char) (rest : String)
    (later : Text.after? lead.toList start.toList = none)
    (sooner : Text.after? start.toList lead.toList = none) :
    quotedAfter? (start ++ rest) lead close = none := by
  rw [quotedAfter?, String.toList_append, Text.after?_append_eq_none rest.toList later sooner,
    Option.bind_none]

theorem quotedAfter?_versionQuery_show (name : String) :
    quotedAfter? (Gate.versionQuery name) showLead '\x27' = none := by
  unfold Gate.versionQuery
  simp only [String.append_assoc]
  apply quotedAfter?_eq_none <;> decide

private theorem quotedAfter?_render_show (d : Schema.Database) :
    quotedAfter? d.render showLead '\x27' = none := by
  unfold Schema.Database.render
  simp only [String.append_assoc]
  apply quotedAfter?_eq_none <;> decide

private theorem quotedAfter?_render_version (d : Schema.Database) :
    quotedAfter? d.render versionLead '\x60' = none := by
  unfold Schema.Database.render
  simp only [String.append_assoc]
  apply quotedAfter?_eq_none <;> decide

def received (m : MemoryServer) (sql : String) : MemoryServer :=
  { m with queries := m.queries ++ [sql] }

section Answers

variable {m : MemoryServer} (working : m.failing = [])

include working

private theorem answer_versionQuery (name : String) :
    answer (Gate.versionQuery name) m =
      (m.storedVersion (asWritten name), m.received (Gate.versionQuery name)) := by
  have fine : (m.received (Gate.versionQuery name)).fails (Gate.versionQuery name) = false := by
    simp [fails, received, working]
  have found : quotedAfter? (Gate.versionQuery name) versionLead '\x60' = _ :=
    quotedAfter?_versionQuery name
  rw [received] at fine
  simp only [answer, fine, quotedAfter?_versionQuery_show, found]
  rfl

theorem answer_render (d : Schema.Database) :
    answer d.render m = (.ok [], (m.received d.render).create (asWritten d.name)) := by
  have fine : (m.received d.render).fails d.render = false := by
    simp [fails, received, working]
  have found : quotedAfter? d.render createLead '\x60' = _ := quotedAfter?_render d
  rw [received] at fine
  simp only [answer, fine, quotedAfter?_render_show, quotedAfter?_render_version, found]
  rfl

end Answers

section Stored

variable (m : MemoryServer) (name other : String)

theorem version?_withDatabase (version : Option Int) :
    (m.withDatabase name version).version? other =
      if other = name then some version else m.version? other := by
  unfold version? withDatabase
  by_cases same : other = name
  · simp [same]
  · have kept : ∀ d : String × Option Int,
        ((d.1 != name) = true ∧ (d.1 == other) = true) ↔ (d.1 == other) = true := by
      intro d
      simp only [bne_iff_ne, beq_iff_eq, and_iff_right_iff_imp]
      rintro rfl
      exact same
    have first : (name == other) = false := by simpa using Ne.symm same
    simp only [List.find?_cons, first, List.find?_filter, kept, if_neg same,
      Bool.decide_eq_true]

theorem has_eq_false_iff : m.has name = false ↔ m.version? name = none := by
  simp [has]

theorem version?_create :
    (m.create name).version? other =
      if other = name ∧ m.version? name = none then some none else m.version? other := by
  unfold create
  cases present : m.has name with
  | false =>
    have fresh := (m.has_eq_false_iff name).mp present
    simp [version?_withDatabase, fresh]
  | true =>
    have held : m.version? name ≠ none := by
      intro fresh
      rw [(m.has_eq_false_iff name).mpr fresh] at present
      exact nomatch present
    simp [held]

end Stored

open Exchange (against)

/-- The look-up of a version finds the one that is stored under the name, if one is. -/
def ReadsStored (m : MemoryServer) (name : String) : Prop :=
  ∀ version, m.version? name = some version →
    (against server (Gate.schemaVersion name) m).result = .ok version

/-- The statement that creates a database leaves a server that has it and is otherwise the same. -/
def CreatesNamed (m : MemoryServer) (name : String) : Prop :=
  let r := against server (Exchange.ask (Schema.Database.named name).render) m
  r.result = .ok [] ∧ r.state.has name = true ∧
    ∀ other, other ≠ name → r.state.version? other = m.version? other

section Reached

variable {m : MemoryServer} (working : m.failing = [])

include working

private theorem schemaVersion_result (name : String) :
    (against server (Gate.schemaVersion name) m).result =
      match m.version? (asWritten name) with
      | some version => .ok version
      | none => .error (.sql (.protocol ("Unknown database '" ++ asWritten name ++ "'"))) := by
  have answered := answer_versionQuery working name
  unfold storedVersion at answered
  rcases stored : m.version? (asWritten name) with - | - | v <;>
    simp only [stored] at answered ⊢
  · rw [Gate.against_schemaVersion_error answered]
  · rw [Gate.against_schemaVersion_ok answered]
    rfl
  · rw [Gate.against_schemaVersion_ok answered]
    rfl

private theorem readsStored_iff (name : String) :
    ReadsStored m name ↔
      (m.has name = true → m.version? (asWritten name) = m.version? name) := by
  unfold ReadsStored
  rw [schemaVersion_result working]
  constructor
  · intro reads present
    obtain ⟨version, held⟩ := Option.isSome_iff_exists.mp present
    have read := reads version held
    cases written : m.version? (asWritten name) with
    | none =>
      rw [written] at read
      exact nomatch read
    | some found =>
      rw [written] at read
      rw [held, Except.ok.inj read]
  · intro agrees version held
    have present : m.has name = true := by simp [has, held]
    rw [agrees present, held]

private theorem version?_of_render (d : Schema.Database) (other : String) :
    (against server (Exchange.ask d.render) m).state.version? other =
      if other = asWritten d.name ∧ m.version? (asWritten d.name) = none then some none
      else m.version? other := by
  rw [Exchange.against_ask]
  change (answer d.render m).2.version? other = _
  rw [answer_render working]
  exact version?_create (m.received d.render) (asWritten d.name) other

private theorem result_of_render (d : Schema.Database) :
    (against server (Exchange.ask d.render) m).result = .ok [] := by
  rw [Exchange.against_ask]
  change (answer d.render m).1 = _
  rw [answer_render working]

private theorem createsNamed_iff (name : String) :
    CreatesNamed m name ↔
      asWritten name = name ∨ (m.has name = true ∧ m.has (asWritten name) = true) := by
  unfold CreatesNamed
  simp only [has, result_of_render working, version?_of_render working, Schema.Database.named,
    true_and]
  constructor
  · rintro ⟨reached, kept⟩
    by_cases same : asWritten name = name
    · exact .inl same
    · -- The name as written is another name, so it must have been there before.
      have others := kept (asWritten name) same
      simp only [true_and, Ne.symm same, false_and, if_false] at others reached
      refine .inr ⟨reached, ?_⟩
      cases written : m.version? (asWritten name) with
      | none => simp [written] at others
      | some version => rfl
  · rintro (same | ⟨present, written⟩)
    · rw [same]
      refine ⟨?_, ?_⟩
      · cases held : m.version? name <;> simp
      · intro other different
        simp [different]
    · have held : m.version? (asWritten name) ≠ none := Option.isSome_iff_ne_none.mp written
      simp only [held, and_false, if_false]
      exact ⟨present, fun _ _ => trivial⟩

end Reached

/-- On a server that is told to fail nothing, the look-up of a version and the statement that
creates a database both reach the database of that name exactly if there is no backtick in the name,
or the server has databases both of that name and of the name with its backticks doubled, with the
same version. -/
theorem names_reached_iff (m : MemoryServer) (name : String) (working : m.failing = []) :
    ReadsStored m name ∧ CreatesNamed m name ↔
      backtick ∉ name.toList ∨
        (m.has name = true ∧ m.version? (asWritten name) = m.version? name) := by
  rw [readsStored_iff working, createsNamed_iff working, ← asWritten_eq_self_iff]
  constructor
  · rintro ⟨agrees, same | ⟨present, -⟩⟩
    · exact .inl same
    · exact .inr ⟨present, agrees present⟩
  · rintro (same | ⟨present, agrees⟩)
    · rw [same]
      exact ⟨fun _ => rfl, .inl rfl⟩
    · refine ⟨fun _ => agrees, .inr ⟨present, ?_⟩⟩
      rw [has, agrees]
      exact present

/-- Quotes and backslashes in a name do no harm. -/
theorem quotes_reached :
    let m : MemoryServer := empty.withDatabase "o'bri\x22en\x5c" (some 5)
    m.failing = [] ∧ backtick ∉ "o'bri\x22en\x5c".toList ∧
      ReadsStored m "o'bri\x22en\x5c" ∧ CreatesNamed m "o'bri\x22en\x5c" := by
  intro m
  have plain : backtick ∉ "o'bri\x22en\x5c".toList := by decide
  exact ⟨rfl, plain, (names_reached_iff m _ rfl).mpr (.inl plain)⟩

/-- A name with a backtick is not undone: the version stored for it is not found, and its creation
makes another database. -/
theorem backtick_name_missed :
    let m : MemoryServer := empty.withDatabase "a`b" (some 5)
    let r := against server (Exchange.ask (Schema.Database.named "a`b").render) empty
    m.failing = [] ∧ m.version? "a`b" = some (some 5) ∧
      (against server (Gate.schemaVersion "a`b") m).result =
        .error (.sql (.protocol "Unknown database 'a``b'")) ∧
      r.state.has "a`b" = false ∧ empty.version? "a``b" = none ∧
      r.state.version? "a``b" = some none := by
  intro m r
  have written : asWritten "a`b" = "a``b" := by decide
  have missing : m.version? "a``b" = none := by decide
  have created (other : String) : r.state.version? other =
      if other = "a``b" ∧ empty.version? "a``b" = none then some none
      else empty.version? other := by
    rw [← written]
    exact version?_of_render rfl (Schema.Database.named "a`b") other
  have text : "Unknown database '" ++ "a``b" ++ "'" = "Unknown database 'a``b'" := by decide
  have lookup := @schemaVersion_result m rfl "a`b"
  simp only [written, missing, text] at lookup
  refine ⟨rfl, by decide, lookup, ?_, rfl, ?_⟩
  · rw [has_eq_false_iff, created, if_neg (by decide)]
    rfl
  · rw [created, if_pos ⟨rfl, rfl⟩]

end MemoryServer

end SchemaGate
