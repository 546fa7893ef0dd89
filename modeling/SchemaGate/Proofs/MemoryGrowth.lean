import SchemaGate.Proofs.MemoryNames
/-!
How the server in memory changes. Whatever it is asked, it forgets no database and changes no stored
version; at most it creates a database, and that stores no version. What it is told to fail or to
refuse stays as it is.
-/

set_option autoImplicit false

namespace SchemaGate.MemoryServer

/-- The server `m'` is `m` later on: databases may have been added, without a version. -/
structure Grows (m m' : MemoryServer) : Prop where
  failing : m'.failing = m.failing
  refusing : m'.refusing = m.refusing
  version : ∀ name, m'.version? name = m.version? name ∨
    m.version? name = none ∧ m'.version? name = some none

section Grows

variable {m m' m'' : MemoryServer}

theorem Grows.refl (m : MemoryServer) : Grows m m := ⟨rfl, rfl, fun _ => .inl rfl⟩

theorem Grows.trans (earlier : Grows m m') (later : Grows m' m'') : Grows m m'' where
  failing := later.failing.trans earlier.failing
  refusing := later.refusing.trans earlier.refusing
  version name := by
    rcases later.version name with same | ⟨absent, created⟩
    · rw [same]
      exact earlier.version name
    · rcases earlier.version name with same | ⟨-, present⟩
      · exact .inr ⟨same ▸ absent, created⟩
      · rw [present] at absent
        exact nomatch absent

theorem Grows.stored {name : String} {version : Option Int} (grows : Grows m m')
    (stored : m.version? name = some version) : m'.version? name = some version := by
  rcases grows.version name with same | ⟨absent, -⟩
  · rw [same, stored]
  · rw [absent] at stored
    exact nomatch stored

theorem Grows.unversioned {name : String} {version : Option Int} (grows : Grows m m')
    (absent : m.version? name = none) (stored : m'.version? name = some version) :
    version = none := by
  rcases grows.version name with same | ⟨-, created⟩
  · rw [same, absent] at stored
    exact nomatch stored
  · exact Option.some.inj (stored.symm.trans created)

theorem Grows.fails (grows : Grows m m') (sql : String) : m'.fails sql = m.fails sql := by
  unfold MemoryServer.fails
  rw [grows.failing]

end Grows

variable (m : MemoryServer)

theorem grows_received (sql : String) : Grows m (m.received sql) := ⟨rfl, rfl, fun _ => .inl rfl⟩

theorem grows_create (name : String) : Grows m (m.create name) where
  failing := by unfold create; split <;> rfl
  refusing := by unfold create; split <;> rfl
  version other := by
    rw [version?_create]
    split
    next created =>
      obtain ⟨rfl, absent⟩ := created
      exact .inr ⟨absent, rfl⟩
    next => exact .inl rfl

/-- All that a query can come to: it is recorded, and it may create one database, which it answers
with no rows. -/
theorem answer_cases (sql : String) :
    (answer sql m).2 = m.received sql ∨
      ∃ name, answer sql m = (.ok [], (m.received sql).create name) := by
  unfold answer
  dsimp only
  split
  · exact .inl rfl
  split
  · exact .inl rfl
  split
  · exact .inl rfl
  split
  next name _ => exact .inr ⟨String.ofList name, rfl⟩
  next => exact .inl rfl

theorem grows_answer (sql : String) : Grows m (answer sql m).2 := by
  have asked := grows_received m sql
  rcases answer_cases m sql with same | ⟨name, created⟩
  · rw [same]
    exact asked
  · rw [created]
    exact asked.trans (grows_create _ name)

theorem grows_acquire (target : Config.Connection) : Grows m (acquire target m).2 := by
  unfold acquire
  split <;> exact ⟨rfl, rfl, fun _ => .inl rfl⟩

theorem keeps_grows : server.Keeps (Grows m) where
  acquire target s grows := grows.trans (grows_acquire s target)
  answer sql s grows := grows.trans (grows_answer s sql)

end SchemaGate.MemoryServer
