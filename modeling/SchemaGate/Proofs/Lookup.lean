import SchemaGate.Gate.Lookup
import SchemaGate.Proofs.Runs
/-!
What the two look-ups of the gate find. The rows of an answer either list the database under its
exact name or do not; a version answer lacks a version, holds an integer, or holds something else,
and exactly one of the three is the case.
-/

set_option autoImplicit false

namespace SchemaGate.Gate

/-- Some row starts with exactly this name. -/
def Listed (name : String) (rows : List Row) : Prop := ∃ r ∈ rows, r.first? = some (.text name)

/-- There is no row, or nothing but `NULL` where the first row would hold the version. -/
def LacksVersion (rows : List Row) : Prop :=
  rows = [] ∨ ∃ r rest, rows = r :: rest ∧ (versionValue? r = none ∨ versionValue? r = some .null)

/-- The first row holds a version that reads as this integer. -/
def HoldsVersion (rows : List Row) (n : Int) : Prop :=
  ∃ r rest v, rows = r :: rest ∧ versionValue? r = some v ∧ v.toInt? = some n

/-- The first row holds a value that is no integer. -/
def HoldsOther (rows : List Row) (v : Value) : Prop :=
  ∃ r rest, rows = r :: rest ∧ versionValue? r = some v ∧ v ≠ .null ∧ v.toInt? = none

theorem lists_iff (name : String) (rows : List Row) :
    lists name rows = true ↔ Listed name rows := by
  have text (v : Value) : v.toText? = some name ↔ v = .text name := by
    cases v <;> simp [Value.toText?]
  simp only [lists, Listed, List.any_eq_true, beq_iff_eq, Option.bind_eq_some_iff, text,
    exists_eq_right]

theorem lacksVersion_cons_iff {r : Row} {rest : List Row} :
    LacksVersion (r :: rest) ↔ versionValue? r = none ∨ versionValue? r = some .null := by
  constructor
  · rintro (none | ⟨r', rest', same, held⟩)
    · simp at none
    · obtain ⟨rfl, -⟩ := List.cons_eq_cons.mp same
      exact held
  · intro held
    exact .inr ⟨r, rest, rfl, held⟩

theorem readVersion_of_lacks {database : String} {rows : List Row} (h : LacksVersion rows) :
    readVersion database rows = .ok none := by
  rcases h with rfl | ⟨r, rest, rfl, held | held⟩
  · rfl
  · simp [readVersion, held]
  · simp [readVersion, held]

theorem readVersion_of_holds {database : String} {rows : List Row} {n : Int}
    (h : HoldsVersion rows n) : readVersion database rows = .ok (some n) := by
  obtain ⟨r, rest, v, rfl, held, reads⟩ := h
  cases v with
  | null => simp [Value.toInt?] at reads
  | int v => simp [readVersion, held, reads]
  | text s => simp [readVersion, held, reads]

theorem readVersion_of_holds_other {database : String} {rows : List Row} {v : Value}
    (h : HoldsOther rows v) :
    readVersion database rows = .error (.query (.notInteger versionKey database v.render)) := by
  obtain ⟨r, rest, rfl, held, filled, reads⟩ := h
  cases v with
  | null => exact (filled rfl).elim
  | int v => simp [readVersion, held, reads]
  | text s => simp [readVersion, held, reads]

private theorem version_answer_cases (rows : List Row) :
    LacksVersion rows ∨ (∃ n, HoldsVersion rows n) ∨ ∃ v, HoldsOther rows v := by
  rcases rows with - | ⟨r, rest⟩
  · exact .inl (.inl rfl)
  · cases held : versionValue? r with
    | none => exact .inl (.inr ⟨r, rest, rfl, .inl held⟩)
    | some v =>
      by_cases empty : v = .null
      · exact .inl (.inr ⟨r, rest, rfl, .inr (empty ▸ held)⟩)
      · cases reads : v.toInt? with
        | some n => exact .inr (.inl ⟨n, r, rest, v, rfl, held, reads⟩)
        | none => exact .inr (.inr ⟨v, r, rest, rfl, held, empty, reads⟩)

theorem readVersion_eq_none_iff {database : String} {rows : List Row} :
    readVersion database rows = .ok none ↔ LacksVersion rows := by
  refine ⟨fun h => ?_, readVersion_of_lacks⟩
  rcases version_answer_cases rows with lacks | ⟨n, holds⟩ | ⟨v, other⟩
  · exact lacks
  · simp [readVersion_of_holds holds] at h
  · simp [readVersion_of_holds_other other] at h

theorem readVersion_eq_some_iff {database : String} {rows : List Row} {n : Int} :
    readVersion database rows = .ok (some n) ↔ HoldsVersion rows n := by
  refine ⟨fun h => ?_, readVersion_of_holds⟩
  rcases version_answer_cases rows with lacks | ⟨m, holds⟩ | ⟨v, other⟩
  · simp [readVersion_of_lacks lacks] at h
  · rw [readVersion_of_holds holds] at h
    obtain rfl := Option.some.inj (Except.ok.inj h)
    exact holds
  · simp [readVersion_of_holds_other other] at h

section

variable {σ : Type} {server : Server σ} {s t : σ} {name : String}

open Exchange (against)

theorem against_databaseExists_error {e : Failure}
    (h : server.answer (existsQuery name) s = (.error e, t)) :
    against server (databaseExists name) s = ⟨.error e, [], [existsQuery name], 0, t⟩ := by
  simp only [databaseExists, Exchange.against_bind, Exchange.against_ask, h, Run.andOnward_error]

theorem against_databaseExists_ok {rows : List Row}
    (h : server.answer (existsQuery name) s = (.ok rows, t)) :
    against server (databaseExists name) s =
      ⟨.ok (lists name rows),
        [.event ⟨.trace, "SHOW DATABASES result", [("rows", Text.ofNat rows.length)]⟩],
        [existsQuery name], 0, t⟩ := by
  simp only [databaseExists, Exchange.against_bind, Exchange.against_ask, h, Run.andOnward_ok,
    Exchange.against_event, Exchange.against_pure, Run.still]
  rfl

theorem against_schemaVersion_error {e : Failure}
    (h : server.answer (versionQuery name) s = (.error e, t)) :
    against server (schemaVersion name) s = ⟨.error e, [], [versionQuery name], 0, t⟩ := by
  simp only [schemaVersion, Exchange.against_bind, Exchange.against_ask, h, Run.andOnward_error]

theorem against_schemaVersion_ok {rows : List Row}
    (h : server.answer (versionQuery name) s = (.ok rows, t)) :
    against server (schemaVersion name) s =
      ⟨readVersion name rows, [.event (versionEvent name rows)], [versionQuery name], 0, t⟩ := by
  simp only [schemaVersion, Exchange.against_bind, Exchange.against_ask, h, Run.andOnward_ok,
    Exchange.against_tell, Exchange.against_mk_done, Run.still]
  rfl

end

end SchemaGate.Gate
