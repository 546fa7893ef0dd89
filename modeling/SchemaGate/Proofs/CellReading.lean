import SchemaGate.MySql.Cell
/-!
Which cells have a reading. A cell that is filled reads as `NULL` exactly when its column's type has
neither integers nor text, or when its bytes are not the integer that the column promises.
-/

set_option autoImplicit false

namespace SchemaGate.MySql

/-- The bytes of a cell have a reading in a column of this type and sign. -/
inductive Readable (type : ColumnType) (unsigned : Bool) (bytes : Text.Bytes) : Prop where
  | null (h : type = .null)
  | text (h : type.isText = true)
  | signed (s : List Char) (n : Int) (h : type.isInteger = true) (signed : unsigned = false)
      (decoded : Text.Utf8.decode? bytes = some s) (reads : Text.readSigned64? s = some n)
  | unsigned (s : List Char) (n : Nat) (h : type.isInteger = true ∨ type = .year)
      (unsigned : unsigned = true) (decoded : Text.Utf8.decode? bytes = some s)
      (reads : Text.readUnsigned64 s = .ok n)
  | bit (h : type = .bit) (unsigned : unsigned = true)

variable {c : Column} {bytes : Text.Bytes} {v : Value}

private theorem ofUnsigned_ne_null (n : Nat) : ofUnsigned n ≠ .null := by
  unfold ofUnsigned
  split <;> simp

theorem asSigned?_eq_some_iff :
    asSigned? c bytes = some v ↔ c.readsSigned = true ∧
      ∃ s n, Text.Utf8.decode? bytes = some s ∧ Text.readSigned64? s = some n ∧ v = .int n := by
  unfold asSigned?
  split
  · next reads =>
    simp only [Option.map_eq_some_iff, Option.bind_eq_some_iff, reads, true_and]
    constructor
    · rintro ⟨n, ⟨s, decoded, read⟩, rfl⟩
      exact ⟨s, n, decoded, read, rfl⟩
    · rintro ⟨s, n, decoded, read, rfl⟩
      exact ⟨n, ⟨s, decoded, read⟩, rfl⟩
  · next reads => simp [reads]

theorem asUnsigned?_eq_some_iff :
    asUnsigned? c bytes = some v ↔ c.readsUnsigned = true ∧
      (c.type = .bit ∧ v = ofUnsigned (bigEndian bytes) ∨
        c.type ≠ .bit ∧ ∃ s n, Text.Utf8.decode? bytes = some s ∧
          Text.readUnsigned64 s = .ok n ∧ v = ofUnsigned n) := by
  have ok (s : List Char) (n : Nat) :
      (Text.readUnsigned64 s).toOption = some n ↔ Text.readUnsigned64 s = .ok n := by
    cases Text.readUnsigned64 s <;> simp [Except.toOption]
  unfold asUnsigned?
  by_cases reads : c.readsUnsigned = true
  · by_cases bit : c.type = .bit
    · simp [reads, bit, eq_comm]
    · simp only [reads, Bool.not_true, Bool.false_eq_true, if_false, bit, ne_eq, not_false_eq_true,
        true_and, false_and, false_or, Option.map_eq_some_iff, Option.bind_eq_some_iff, ok]
      constructor
      · rintro ⟨n, ⟨s, decoded, read⟩, rfl⟩
        exact ⟨s, n, decoded, read, rfl⟩
      · rintro ⟨s, n, decoded, read, rfl⟩
        exact ⟨n, ⟨s, decoded, read⟩, rfl⟩
  · simp [reads]

theorem asText?_eq_some_iff :
    asText? c bytes = some v ↔
      c.readsText = true ∧ ∃ s, Text.ofUtf8? bytes = some s ∧ v = .text s := by
  unfold asText?
  split
  · next reads =>
    simp only [reads, true_and, Option.map_eq_some_iff]
    exact exists_congr fun s => and_congr_right fun _ => eq_comm
  · next reads => simp [reads]

theorem asBytes?_eq_some_iff :
    asBytes? c bytes = some v ↔ c.readsBytes = true ∧ v = .text (Text.ofUtf8Lossy bytes) := by
  unfold asBytes?
  split
  · next reads => simp [reads, eq_comm]
  · next reads => simp [reads]

def Reading (c : Column) (bytes : Text.Bytes) (v : Value) : Prop :=
  asSigned? c bytes = some v ∨ asUnsigned? c bytes = some v ∨ asText? c bytes = some v ∨
    asBytes? c bytes = some v

private theorem Reading.ne_null (h : Reading c bytes v) : v ≠ .null := by
  rcases h with h | h | h | h
  · obtain ⟨-, s, n, -, -, rfl⟩ := asSigned?_eq_some_iff.mp h
    simp
  · obtain ⟨-, ⟨-, rfl⟩ | ⟨-, s, n, -, -, rfl⟩⟩ := asUnsigned?_eq_some_iff.mp h
    · exact ofUnsigned_ne_null _
    · exact ofUnsigned_ne_null _
  · obtain ⟨-, s, -, rfl⟩ := asText?_eq_some_iff.mp h
    simp
  · obtain ⟨-, rfl⟩ := asBytes?_eq_some_iff.mp h
    simp

private theorem readCell_cases (c : Column) (bytes : Text.Bytes) :
    Reading c bytes (readCell c (some bytes)) ∨
      (∀ v, ¬ Reading c bytes v) ∧ readCell c (some bytes) = .null := by
  simp only [readCell, Reading]
  cases asSigned? c bytes with
  | some v => exact .inl (.inl rfl)
  | none =>
    cases asUnsigned? c bytes with
    | some v => exact .inl (.inr (.inl rfl))
    | none =>
      cases asText? c bytes with
      | some v => exact .inl (.inr (.inr (.inl rfl)))
      | none =>
        cases asBytes? c bytes with
        | some v => exact .inl (.inr (.inr (.inr rfl)))
        | none => exact .inr ⟨by simp, rfl⟩

private theorem Reading.readable (h : Reading c bytes v) : Readable c.type c.unsigned bytes := by
  rcases h with h | h | h | h
  · obtain ⟨reads, s, n, decoded, read, -⟩ := asSigned?_eq_some_iff.mp h
    simp only [Column.readsSigned, Bool.or_eq_true, decide_eq_true_eq, Bool.and_eq_true,
      Bool.not_eq_true'] at reads
    rcases reads with null | ⟨integer, signed⟩
    · exact .null null
    · exact .signed s n integer signed decoded read
  · obtain ⟨reads, held⟩ := asUnsigned?_eq_some_iff.mp h
    simp only [Column.readsUnsigned, Bool.or_eq_true, decide_eq_true_eq, Bool.and_eq_true] at reads
    rcases reads with null | ⟨(integer | year) | bit, unsigned⟩
    · exact .null null
    all_goals
      rcases held with ⟨bit, -⟩ | ⟨other, s, n, decoded, read, -⟩
    · exact .bit bit unsigned
    · exact .unsigned s n (.inl integer) unsigned decoded read
    · exact .bit bit unsigned
    · exact .unsigned s n (.inr year) unsigned decoded read
    · exact .bit bit unsigned
    · exact (other bit).elim
  · obtain ⟨reads, -⟩ := asText?_eq_some_iff.mp h
    simp only [Column.readsText, Bool.or_eq_true, decide_eq_true_eq, Bool.and_eq_true] at reads
    rcases reads with null | ⟨text, -⟩
    · exact .null null
    · exact .text text
  · obtain ⟨reads, -⟩ := asBytes?_eq_some_iff.mp h
    simp only [Column.readsBytes, Bool.or_eq_true, decide_eq_true_eq] at reads
    rcases reads with null | text
    · exact .null null
    · exact .text text

private theorem exists_reading_of_readable (h : Readable c.type c.unsigned bytes) :
    ∃ v, Reading c bytes v := by
  cases h with
  | null null =>
    have reads : c.readsBytes = true := by simp [Column.readsBytes, null]
    exact ⟨_, .inr (.inr (.inr (asBytes?_eq_some_iff.mpr ⟨reads, rfl⟩)))⟩
  | text text =>
    have reads : c.readsBytes = true := by simp [Column.readsBytes, text]
    exact ⟨_, .inr (.inr (.inr (asBytes?_eq_some_iff.mpr ⟨reads, rfl⟩)))⟩
  | signed s n integer signed decoded read =>
    have reads : c.readsSigned = true := by simp [Column.readsSigned, integer, signed]
    exact ⟨_, .inl (asSigned?_eq_some_iff.mpr ⟨reads, s, n, decoded, read, rfl⟩)⟩
  | unsigned s n numeric unsigned decoded read =>
    have reads : c.readsUnsigned = true := by
      rcases numeric with integer | year
      · simp [Column.readsUnsigned, integer, unsigned]
      · simp [Column.readsUnsigned, year, unsigned]
    have other : c.type ≠ .bit := by
      rintro bit
      rcases numeric with integer | year
      · simp [bit, ColumnType.isInteger] at integer
      · simp [bit] at year
    exact ⟨_, .inr (.inl (asUnsigned?_eq_some_iff.mpr
      ⟨reads, .inr ⟨other, s, n, decoded, read, rfl⟩⟩))⟩
  | bit bit unsigned =>
    have reads : c.readsUnsigned = true := by simp [Column.readsUnsigned, bit, unsigned]
    exact ⟨_, .inr (.inl (asUnsigned?_eq_some_iff.mpr ⟨reads, .inl ⟨bit, rfl⟩⟩))⟩

theorem readCell_eq_null_iff :
    readCell c (some bytes) = .null ↔ ¬ Readable c.type c.unsigned bytes := by
  rcases readCell_cases c bytes with held | ⟨unread, null⟩
  · exact iff_of_false held.ne_null (not_not_intro held.readable)
  · refine iff_of_true null fun readable => ?_
    obtain ⟨v, held⟩ := exists_reading_of_readable readable
    exact unread v held

end SchemaGate.MySql
