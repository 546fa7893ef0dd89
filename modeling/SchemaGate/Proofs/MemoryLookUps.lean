import SchemaGate.Proofs.Execution
import SchemaGate.Proofs.MemoryNames
import SchemaGate.Proofs.PatternListing
/-!
The gate's look-ups on the server in memory. The server reads a pattern by undoing its escaping, so
it lists a database exactly if it has one of that very name. Main statement: what a look-up finds,
in terms of the databases that the server has and the queries that it is told to fail.
-/

set_option autoImplicit false

namespace SchemaGate

namespace Text

variable {q : Char} (n : Nat)

def repeated (n : Nat) (q : Char) (s : List Char) : List Char :=
  s.flatMap fun c => if c = q then List.replicate n q else [c]

private theorem replaceAll_repeated (nonzero : n ≠ 0) (s : List Char) :
    replaceAll (List.replicate n q) [q] (repeated n q s) = s := by
  obtain ⟨k, rfl⟩ := Nat.exists_eq_succ_of_ne_zero nonzero
  induction s with
  | nil => rfl
  | cons c s ih =>
    have split : repeated (k + 1) q (c :: s) =
        (if c = q then List.replicate (k + 1) q else [c]) ++ repeated (k + 1) q s :=
      List.flatMap_cons
    rw [split]
    by_cases same : c = q
    · have nonempty : List.replicate (k + 1) q ≠ [] := by simp
      rw [if_pos same, replaceAll_append [q] _ nonempty, ih, same]
      rfl
    · have other : ∀ r, c :: repeated (k + 1) q s ≠ List.replicate (k + 1) q ++ r := by
        intro r equal
        exact same (List.cons.inj equal).1
      rw [if_neg same, List.singleton_append, replaceAll_cons [q] other, ih]

end Text

namespace Gate

open MySql (backslash quote)

private theorem flatMap_patternChar (name : List Char) :
    name.flatMap patternChar = Text.doubled quote (Text.repeated 4 backslash name) := by
  have char (c : Char) : patternChar c =
      (if c = backslash then List.replicate 4 backslash else [c]).flatMap
        fun c => if c = quote then [quote, quote] else [c] := by
    by_cases escape : c = backslash
    · subst escape
      decide
    by_cases quoted : c = quote
    · subst quoted
      decide
    · have plain : patternChar c = [c] := (if_neg escape).trans (if_neg quoted)
      rw [plain, if_neg escape, List.flatMap_singleton, if_neg quoted]
  rw [Text.doubled, Text.repeated, List.flatMap_assoc]
  exact congrArg name.flatMap (funext char)

end Gate

namespace MemoryServer

open Gate (existsQuery versionQuery patternChar)
open MySql (backslash quote)
open Schema (backtick)

private theorem nameOfPattern_escaped (name : String) :
    nameOfPattern (name.toList.flatMap patternChar) = name := by
  have unquoted : Text.replaceAll [quote, quote] [quote]
      (Text.doubled quote (Text.repeated 4 backslash name.toList)) =
        Text.repeated 4 backslash name.toList :=
    Text.replaceAll_repeated 2 (by decide) _
  have unescaped : Text.replaceAll (List.replicate 4 backslash) [backslash]
      (Text.repeated 4 backslash name.toList) = name.toList :=
    Text.replaceAll_repeated 4 (by decide) _
  rw [Gate.flatMap_patternChar]
  change String.ofList (Text.replaceAll (List.replicate 4 backslash) [backslash]
    (Text.replaceAll [quote, quote] [quote] _)) = name
  rw [unquoted, unescaped, String.ofList_toList]

theorem quotedAfter?_existsQuery (name : String) :
    quotedAfter? (existsQuery name) showLead quote = some (name.toList.flatMap patternChar) := by
  have chars : (existsQuery name).toList =
      showLead.toList ++ (name.toList.flatMap patternChar ++ quote :: []) := by
    have closing : "'".toList = [quote] := by decide
    unfold existsQuery showLead
    simp only [String.toList_append, String.toList_ofList, closing, List.append_assoc]
  have paired : Paired quote (name.toList.flatMap patternChar) := by
    rw [Gate.flatMap_patternChar]
    exact paired_doubled quote _
  rw [quotedAfter?, chars, Text.after?_append, Option.bind_some]
  exact upToClose_of_paired paired (by simp)

def injected (sql : String) : Failure := .sql (.protocol ("mock failure for: " ++ sql))

def unknown (name : String) : Failure := .sql (.protocol ("Unknown database '" ++ name ++ "'"))

section Received

variable (m : MemoryServer) (earlier sql name : String)

@[simp] private theorem fails_received : (m.received earlier).fails sql = m.fails sql := rfl

@[simp] private theorem storedVersion_received :
    (m.received earlier).storedVersion name = m.storedVersion name := rfl

end Received

def entered (m : MemoryServer) : MemoryServer := { m with opened := m.opened + 1 }

section Entered

variable {m : MemoryServer}

theorem acquire_of_admitting (admits : m.refusing = false)
    (target : Config.Connection) : server.acquire target m = (.ok [], m.entered) := by
  change acquire target m = _
  simp only [acquire, admits, Bool.false_eq_true, if_false, entered]

theorem acquire_of_refusing (refusing : m.refusing = true)
    (target : Config.Connection) :
    server.acquire target m = (.error (.connection .refused), m) := by
  change acquire target m = _
  simp only [acquire, refusing, if_true]

end Entered

section Answers

variable {m : MemoryServer} {sql name : String}

theorem answer_of_fails (fails : m.fails sql = true) :
    answer sql m = (.error (injected sql), m.received sql) := by
  have fails : (m.received sql).fails sql = true := fails
  rw [received] at fails
  simp only [answer, fails, if_true]
  rfl

theorem answer_existsQuery (fine : m.fails (existsQuery name) = false) :
    answer (existsQuery name) m = (.ok (m.listed name), m.received (existsQuery name)) := by
  have found : quotedAfter? (existsQuery name) showLead '\x27' = _ := quotedAfter?_existsQuery name
  have fine : (m.received (existsQuery name)).fails (existsQuery name) = false := fine
  rw [received] at fine
  simp only [answer, fine, found, nameOfPattern_escaped]
  rfl

theorem answer_versionQuery_of_fine (fine : m.fails (versionQuery name) = false) :
    answer (versionQuery name) m =
      (m.storedVersion (asWritten name), m.received (versionQuery name)) := by
  have found : quotedAfter? (versionQuery name) versionLead '\x60' = _ :=
    quotedAfter?_versionQuery name
  have fine : (m.received (versionQuery name)).fails (versionQuery name) = false := fine
  rw [received] at fine
  simp only [answer, fine, quotedAfter?_versionQuery_show, found]
  rfl

private theorem listed_iff : Gate.Listed name (m.listed name) ↔ m.has name = true := by
  unfold listed
  cases present : m.has name with
  | false => simp [Gate.Listed]
  | true => simp [Gate.Listed, Row.first?]

theorem state_existsQuery : (answer (existsQuery name) m).2 = m.received (existsQuery name) := by
  cases fails : m.fails (existsQuery name) with
  | true => rw [answer_of_fails fails]
  | false => rw [answer_existsQuery fails]

theorem state_versionQuery : (answer (versionQuery name) m).2 = m.received (versionQuery name) := by
  cases fails : m.fails (versionQuery name) with
  | true => rw [answer_of_fails fails]
  | false => rw [answer_versionQuery_of_fine fails]

end Answers

def found (m : MemoryServer) (name : String) : Except Failure (Option Int) :=
  if m.fails (existsQuery name) then
    .error (.query (.existence name (injected (existsQuery name)).message))
  else if m.has name then
    if m.fails (versionQuery name) then
      .error (.query (.version name (injected (versionQuery name)).message))
    else
      match m.version? (asWritten name) with
      | some version => .ok (some (version.getD Gate.missingVersion))
      | none => .error (.query (.version name (unknown (asWritten name)).message))
  else .ok none

@[simp] theorem found_entered (m : MemoryServer) (name : String) :
    m.entered.found name = m.found name := rfl

open Exchange (against)
open Script (lookUp)

section LookUp

variable {m : MemoryServer} {name : String}

private theorem storedVersion_of_none (absent : m.version? name = none) :
    m.storedVersion name = .error (unknown name) := by
  simp only [storedVersion, absent, unknown]

private theorem storedVersion_of_some {version : Option Int}
    (stored : m.version? name = some version) :
    ∃ rows, m.storedVersion name = .ok rows ∧
      ∀ database, Gate.readVersion database rows = .ok version := by
  cases version with
  | none => exact ⟨[], by simp only [storedVersion, stored], fun _ => rfl⟩
  | some v => exact ⟨[⟨[("value", .int v)]⟩], by simp only [storedVersion, stored], fun _ => rfl⟩

theorem lookUp_finds (m : MemoryServer) (name : String) :
    (against server (lookUp name) m).result = m.found name := by
  unfold found
  cases existence : m.fails (existsQuery name) with
  | true =>
    have asked := answer_of_fails existence
    rw [Script.against_lookUp_unanswered asked]
    rfl
  | false =>
    have asked := answer_existsQuery existence
    cases present : m.has name with
    | false =>
      have unlisted : ¬ Gate.Listed name (m.listed name) := by simp [listed_iff, present]
      rw [Script.against_lookUp_unlisted asked unlisted]
      rfl
    | true =>
      have listed : Gate.Listed name (m.listed name) := listed_iff.mpr present
      cases version : m.fails (versionQuery name) with
      | true =>
        rw [← fails_received m (existsQuery name)] at version
        have read := answer_of_fails version
        rw [Script.against_lookUp_unread asked listed read]
        rfl
      | false =>
        rw [← fails_received m (existsQuery name)] at version
        have read := answer_versionQuery_of_fine version
        rw [storedVersion_received] at read
        cases stored : m.version? (asWritten name) with
        | none =>
          rw [storedVersion_of_none stored] at read
          rw [Script.against_lookUp_unread asked listed read]
          rfl
        | some held =>
          obtain ⟨rows, answered, reads⟩ := storedVersion_of_some stored
          rw [answered] at read
          rw [Script.against_lookUp_read asked listed read (reads name)]
          rfl

end LookUp

theorem has_iff {m : MemoryServer} {name : String} :
    m.has name = true ↔ ∃ version, (name, version) ∈ m.databases := by
  simp [has, version?]

private theorem fails_eq_false_iff {m : MemoryServer} {sql : String} :
    m.fails sql = false ↔ ∀ fragment ∈ m.failing, ¬ fragment.toList <:+: sql.toList := by
  simp only [fails, List.any_eq_false, Text.contains_iff]

/-- Whether a database exists is answered exactly by the databases that the server has, whatever
characters are in the name, unless a text that is to fail stands in the query. The query is all that
the server keeps of it. -/
theorem existence_answered_exactly (m : MemoryServer) (name : String)
    (fine : ∀ fragment ∈ m.failing, ¬ fragment.toList <:+: (existsQuery name).toList) :
    let r := against server (Gate.databaseExists name) m
    ∃ found, r.result = .ok found ∧
      (found = true ↔ ∃ version, (name, version) ∈ m.databases) ∧
      r.asked = [existsQuery name] ∧ r.state = m.received (existsQuery name) := by
  have answered := answer_existsQuery (fails_eq_false_iff.mpr fine)
  rw [Gate.against_databaseExists_ok answered]
  refine ⟨_, rfl, ?_, rfl, rfl⟩
  rw [Gate.lists_iff, listed_iff, has_iff]

/-- A name of quotes, backslashes, a backtick and wildcards is found; the pattern of all names is
not, as no database is called so. -/
theorem existence_of_marked_name :
    let name := "o''\x27%\x5c\x5c_`"
    let m : MemoryServer := (empty.withDatabase name (some 3)).failOn "DROP"
    (∀ fragment ∈ m.failing, ¬ fragment.toList <:+: (existsQuery name).toList) ∧
      (∀ fragment ∈ m.failing, ¬ fragment.toList <:+: (existsQuery "%").toList) ∧
      (against server (Gate.databaseExists name) m).result = .ok true ∧
      (against server (Gate.databaseExists "%") m).result = .ok false := by
  intro name m
  have fine : ∀ fragment ∈ m.failing, ¬ fragment.toList <:+: (existsQuery name).toList := by decide
  have fine' : ∀ fragment ∈ m.failing, ¬ fragment.toList <:+: (existsQuery "%").toList := by decide
  have held : ∃ version, (name, version) ∈ m.databases := ⟨some 3, List.mem_singleton.mpr rfl⟩
  have lacking : ¬ ∃ version, ("%", version) ∈ m.databases := by
    rintro ⟨version, member⟩
    obtain ⟨same, -⟩ := Prod.mk.inj (List.mem_singleton.mp member)
    exact absurd same (by decide)
  obtain ⟨found, result, answered, -⟩ := existence_answered_exactly m name fine
  obtain ⟨found', result', answered', -⟩ := existence_answered_exactly m "%" fine'
  obtain rfl : found = true := answered.mpr held
  obtain rfl : found' = false := Bool.eq_false_iff.mpr fun listed => lacking (answered'.mp listed)
  exact ⟨fine, fine', result, result'⟩

end MemoryServer

end SchemaGate
