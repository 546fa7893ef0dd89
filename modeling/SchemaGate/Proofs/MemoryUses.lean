import SchemaGate.Proofs.MemoryGrowth
import SchemaGate.Proofs.MemoryLookUps
import SchemaGate.Proofs.Schedules
/-!
The server in memory in use. It is set up and used in any order; whoever holds it or has a session
with it acts on the one state, so a course of uses is a list, whoever they come from. Main
statement: what such a course leaves behind, and what a query may do after it.
-/

set_option autoImplicit false

namespace SchemaGate.MemoryServer

/-- A use of the server: it is set up, a session is opened, or a query is sent over one. -/
inductive Use where
  | store (name : String) (version : Option Int)
  | failOn (fragment : String)
  | refuse
  | acquire (target : Config.Connection)
  | ask (sql : String)

namespace Use

def sql? : Use → Option String
  | ask sql => some sql
  | _ => none

def apply (m : MemoryServer) : Use → MemoryServer
  | store name version => m.withDatabase name version
  | failOn fragment => m.failOn fragment
  | refuse => m.refuse
  | acquire target => (m.acquire target).2
  | ask sql => (m.answer sql).2

def reply? (m : MemoryServer) : Use → Option Reply
  | acquire target => some (.opening (server.opening target m))
  | ask sql => some (.answer (m.answer sql).1)
  | _ => none

end Use

def after (m : MemoryServer) (uses : List Use) : MemoryServer := uses.foldl Use.apply m

def replies (m : MemoryServer) : List Use → List Reply
  | [] => []
  | u :: uses => (u.reply? m).toList ++ replies (u.apply m) uses

def isOpening : Reply → Bool
  | .opening (.ok _) => true
  | _ => false

/-- What a query does to the server: it is recorded, and at most one database is added, which the
server did not have and which stores no version. A failure leaves nothing but the record. -/
structure Answered (sql : String) (m : MemoryServer) (r : Except Failure (List Row))
    (m' : MemoryServer) : Prop where
  queries : m'.queries = m.queries ++ [sql]
  opened : m'.opened = m.opened
  grows : Grows m m'
  databases : m'.databases = m.databases ∨
    ∃ name, m.has name = false ∧ m'.databases = (name, none) :: m.databases
  failed : ∀ e, r = .error e → m' = m.received sql

section Steps

variable (m : MemoryServer)

private theorem name_ne_of_fresh {name : String} (fresh : m.has name = false) :
    ∀ d ∈ m.databases, d.1 ≠ name := by
  rintro d listed rfl
  rw [has_iff.mpr ⟨d.2, listed⟩] at fresh
  exact nomatch fresh

private theorem withDatabase_of_fresh {name : String} (fresh : m.has name = false)
    (version : Option Int) :
    (m.withDatabase name version).databases = (name, version) :: m.databases := by
  have others : ∀ d ∈ m.databases, (d.1 != name) = true := fun d listed =>
    bne_iff_ne.mpr (m.name_ne_of_fresh fresh d listed)
  exact congrArg ((name, version) :: ·) (List.filter_eq_self.mpr others)

private theorem create_cases (name : String) :
    m.create name = m ∨ m.has name = false ∧
      m.create name = { m with databases := (name, none) :: m.databases } := by
  unfold create
  cases present : m.has name with
  | true => exact .inl rfl
  | false =>
    refine .inr ⟨rfl, ?_⟩
    rw [← m.withDatabase_of_fresh present none]
    rfl

theorem answered (sql : String) : Answered sql m (answer sql m).1 (answer sql m).2 := by
  have recorded := grows_received m sql
  rcases answer_cases m sql with same | ⟨name, created⟩
  · rw [same]
    exact ⟨rfl, rfl, recorded, .inl rfl, fun _ _ => rfl⟩
  · rw [created]
    have grows := recorded.trans (grows_create _ name)
    rcases create_cases (m.received sql) name with same | ⟨fresh, added⟩
    · rw [same]
      exact ⟨rfl, rfl, recorded, .inl rfl, nofun⟩
    · rw [added] at grows ⊢
      exact ⟨rfl, rfl, grows, .inr ⟨name, fresh, rfl⟩, nofun⟩

private theorem opening_iff (target : Config.Connection) :
    server.opening target m = .ok () ↔ m.refusing = false := by
  cases refusing : m.refusing with
  | true => simp [Server.opening, acquire_of_refusing refusing, Except.map]
  | false => simp [Server.opening, acquire_of_admitting refusing, Except.map]

private theorem acquire_cases (target : Config.Connection) :
    server.opening target m = .ok () ∧ (m.acquire target).2 = m.entered ∨
      (∃ e, server.opening target m = .error e) ∧ (m.acquire target).2 = m := by
  cases refusing : m.refusing with
  | true =>
    have refused := acquire_of_refusing refusing target
    refine .inr ⟨⟨.connection .refused, ?_⟩, congrArg Prod.snd refused⟩
    rw [Server.opening, refused]
    rfl
  | false =>
    have admitted := acquire_of_admitting refusing target
    exact .inl ⟨(m.opening_iff target).mpr refusing, congrArg Prod.snd admitted⟩

end Steps

section Uses

variable {m : MemoryServer}

private theorem queries_apply (m : MemoryServer) (u : Use) :
    (u.apply m).queries = m.queries ++ u.sql?.toList := by
  cases u with
  | ask sql => exact (answered m sql).queries
  | acquire target =>
    have unsent : (m.acquire target).2.queries = m.queries := by
      rcases acquire_cases m target with ⟨-, same⟩ | ⟨-, same⟩ <;> rw [same]
      rfl
    exact unsent.trans (List.append_nil _).symm
  | store | failOn | refuse => exact (List.append_nil _).symm

private theorem opened_apply (m : MemoryServer) (u : Use) :
    (u.apply m).opened = m.opened + (u.reply? m).toList.countP isOpening := by
  cases u with
  | ask sql => exact (answered m sql).opened
  | acquire target =>
    rcases acquire_cases m target with ⟨admitted, same⟩ | ⟨⟨e, refused⟩, same⟩
    · simp [Use.apply, Use.reply?, admitted, same, isOpening, entered]
    · simp [Use.apply, Use.reply?, refused, same, isOpening]
  | store | failOn | refuse => rfl

private theorem refusing_apply (m : MemoryServer) (u : Use) :
    (u.apply m).refusing = true ↔ m.refusing = true ∨ u = .refuse := by
  cases u with
  | ask sql =>
    have kept : (Use.apply m (.ask sql)).refusing = m.refusing := (answered m sql).grows.refusing
    simp [kept]
  | acquire target =>
    have kept : (Use.apply m (.acquire target)).refusing = m.refusing :=
      (grows_acquire m target).refusing
    simp [kept]
  | refuse => simp [Use.apply, MemoryServer.refuse]
  | store | failOn => simp [Use.apply, withDatabase, MemoryServer.failOn]

private theorem nodup_apply (u : Use) (once : (m.databases.map Prod.fst).Nodup) :
    ((u.apply m).databases.map Prod.fst).Nodup := by
  cases u with
  | store name version =>
    refine List.nodup_cons.mpr ⟨?_, once.sublist (List.filter_sublist.map Prod.fst)⟩
    simp
  | ask sql =>
    change ((m.answer sql).2.databases.map Prod.fst).Nodup
    rcases (answered m sql).databases with same | ⟨name, fresh, added⟩
    · rwa [same]
    · rw [added]
      refine List.nodup_cons.mpr ⟨fun listed => ?_, once⟩
      obtain ⟨d, member, same⟩ := List.mem_map.mp listed
      exact m.name_ne_of_fresh fresh d member same
  | acquire target =>
    change ((m.acquire target).2.databases.map Prod.fst).Nodup
    rcases acquire_cases m target with ⟨-, same⟩ | ⟨-, same⟩
    · rw [same]
      exact once
    · rwa [same]
  | failOn | refuse => exact once

private theorem version?_apply {name : String} {u : Use} (unstored : ∀ v, u ≠ .store name v) :
    (u.apply m).version? name = m.version? name ∨
      m.version? name = none ∧ (u.apply m).version? name = some none := by
  cases u with
  | store other v =>
    have different : name ≠ other := fun same => unstored v (same ▸ rfl)
    exact .inl ((m.version?_withDatabase other name v).trans (if_neg different))
  | ask sql => exact (grows_answer m sql).version name
  | acquire target => exact (grows_acquire m target).version name
  | failOn | refuse => exact .inl rfl

end Uses

section Courses

variable {m : MemoryServer}

private theorem queries_after (uses : List Use) :
    (m.after uses).queries = m.queries ++ uses.filterMap Use.sql? := by
  induction uses generalizing m with
  | nil => exact (List.append_nil _).symm
  | cons u uses ih =>
    have sent : u.sql?.toList ++ uses.filterMap Use.sql? = (u :: uses).filterMap Use.sql? := by
      cases u <;> rfl
    change ((u.apply m).after uses).queries = _
    rw [ih, queries_apply, List.append_assoc, sent]

private theorem opened_after (uses : List Use) :
    (m.after uses).opened = m.opened + (m.replies uses).countP isOpening := by
  induction uses generalizing m with
  | nil => rfl
  | cons u uses ih =>
    change ((u.apply m).after uses).opened = _
    rw [ih, opened_apply, replies, List.countP_append, Nat.add_assoc]

private theorem refusing_after (uses : List Use) :
    (m.after uses).refusing = true ↔ m.refusing = true ∨ .refuse ∈ uses := by
  induction uses generalizing m with
  | nil => simp [after]
  | cons u uses ih =>
    have first : u = .refuse ↔ .refuse = u := eq_comm
    change ((u.apply m).after uses).refusing = true ↔ _
    rw [ih, refusing_apply, List.mem_cons, or_assoc, first]

private theorem nodup_after (uses : List Use) (once : (m.databases.map Prod.fst).Nodup) :
    ((m.after uses).databases.map Prod.fst).Nodup := by
  induction uses generalizing m with
  | nil => exact once
  | cons u uses ih => exact ih (nodup_apply u once)

private theorem version?_after {name : String} {uses : List Use}
    (unstored : ∀ v, .store name v ∉ uses) :
    (m.after uses).version? name = m.version? name ∨
      m.version? name = none ∧ (m.after uses).version? name = some none := by
  induction uses generalizing m with
  | nil => exact .inl rfl
  | cons u uses ih =>
    change ((u.apply m).after uses).version? name = _ ∨ _ ∧
      ((u.apply m).after uses).version? name = _
    have first := version?_apply (m := m) fun v same =>
      unstored v (same ▸ List.mem_cons_self)
    have later := ih (m := u.apply m) fun v member => unstored v (List.mem_cons_of_mem u member)
    rcases first with same | ⟨absent, created⟩
    · rwa [same] at later
    · rcases later with same | ⟨absent', -⟩
      · exact .inr ⟨absent, same.trans created⟩
      · rw [created] at absent'
        exact nomatch absent'

private theorem version?_after_store {name : String} (v : Option Int) (before : List Use)
    {later : List Use} (last : ∀ w, .store name w ∉ later) :
    (m.after (before ++ .store name v :: later)).version? name = some v := by
  have stored : ((m.after before).withDatabase name v).version? name = some v :=
    (version?_withDatabase _ name name v).trans (if_pos rfl)
  have split : m.after (before ++ .store name v :: later) =
      ((m.after before).withDatabase name v).after later := List.foldl_append
  rcases version?_after (m := (m.after before).withDatabase name v) last with same | ⟨absent, -⟩
  · rw [split, same, stored]
  · rw [stored] at absent
    exact nomatch absent

end Courses

/-- A server in memory after any uses, whoever they came from and in whatever order. It has recorded
the queries sent, those that failed among them, and counted the sessions opened; sessions are opened
until it is told to refuse. A name is listed once, with what was stored for it last, and a name for
which nothing was stored has no version. A further query adds one database at most, without a
version, and takes nothing away; if it fails, it is recorded and that is all. -/
theorem server_after_uses (uses : List Use) :
    let m := empty.after uses
    m.queries = uses.filterMap Use.sql? ∧
    m.opened = (empty.replies uses).countP isOpening ∧
    (∀ target, server.opening target m = .ok () ↔ .refuse ∉ uses) ∧
    (m.databases.map Prod.fst).Nodup ∧
    (∀ before name v later, uses = before ++ .store name v :: later →
      (∀ w, .store name w ∉ later) → m.version? name = some v) ∧
    (∀ name, (∀ v, .store name v ∉ uses) →
      m.version? name = none ∨ m.version? name = some none) ∧
    ∀ sql, Answered sql m (answer sql m).1 (answer sql m).2 := by
  intro m
  refine ⟨?_, ?_, ?_, nodup_after uses List.nodup_nil, ?_, ?_, answered m⟩
  · exact (queries_after uses).trans (List.nil_append _)
  · exact (opened_after uses).trans (Nat.zero_add _)
  · intro target
    have refusing : m.refusing = true ↔ false = true ∨ .refuse ∈ uses := refusing_after uses
    rw [opening_iff, ← Bool.not_eq_true, refusing]
    simp
  · rintro before name v later rfl last
    exact version?_after_store v before last
  · intro name unstored
    rcases version?_after (m := empty) unstored with same | ⟨-, created⟩
    · exact .inl same
    · exact .inr created

/-- A database is stored, created anew, stored again and asked for, and a query fails; the session
that was opened outlives the refusal of another. -/
theorem server_after_failure_and_refusal :
    let uses : List Use := [.store "shop" none, .acquire (.ofUrl ""), .failOn "DROP",
      .store "shop" (some 3), .ask "CREATE DATABASE IF NOT EXISTS `shop`;", .refuse,
      .acquire (.ofUrl ""), .ask "DROP DATABASE `shop`"]
    let m := empty.after uses
    m.queries = ["CREATE DATABASE IF NOT EXISTS `shop`;", "DROP DATABASE `shop`"] ∧
      m.opened = 1 ∧ m.version? "shop" = some (some 3) ∧
      m.version? "depot" ≠ some (some 3) := by
  intro uses m
  obtain ⟨queries, opened, -, -, last, never, -⟩ := server_after_uses uses
  have once : (empty.replies uses).countP isOpening = 1 := by decide +kernel
  have other := never "depot" (by simp [uses])
  refine ⟨queries, opened.trans once,
    last (uses.take 3) "shop" (some 3) (uses.drop 4) rfl (by simp [uses]), ?_⟩
  rintro stored
  rcases other with none | unversioned
  · exact nomatch none.symm.trans stored
  · exact nomatch unversioned.symm.trans stored

end SchemaGate.MemoryServer
