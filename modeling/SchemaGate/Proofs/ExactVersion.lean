import SchemaGate.Proofs.Encoding
import SchemaGate.Proofs.Numerals
import SchemaGate.Proofs.StoredVersion
/-!
The integer that a stored version reads as. A version may be stored as a signed or an unsigned
integer, or as text; three readings of the cell lead to one integer or to a failure. Main statement:
a version is read exactly when the stored numeral stands for a signed 64-bit integer, it is that
integer, and nothing but the one cell matters.
-/

set_option autoImplicit false

namespace SchemaGate.MySql

section Cells

variable {c : Column} {bytes : Text.Bytes} {text : List Char}

private theorem ColumnType.ne_of_isInteger {t u : ColumnType} (h : t.isInteger = true)
    (other : u.isInteger = false) : t ≠ u := by
  rintro rfl
  rw [h] at other
  exact nomatch other

theorem ColumnType.ne_of_isText {t u : ColumnType} (h : t.isText = true)
    (other : u.isText = false) : t ≠ u := by
  rintro rfl
  rw [h] at other
  exact nomatch other

private theorem ColumnType.not_isInteger_of_isText {t : ColumnType} (h : t.isText = true) :
    t.isInteger = false := by
  revert h
  cases t <;> decide

private theorem readCell_signed {n : Int} (integer : c.type.isInteger = true)
    (signed : c.unsigned = false) (numeral : Text.Numeral text n)
    (range : Text.isSigned64 n = true) :
    readCell c (some (Text.Utf8.encode text)) = .int n := by
  have reads : c.readsSigned = true := by simp [Column.readsSigned, integer, signed]
  have decoded := Text.Utf8.decode?_encode text
  have read := Text.readSigned64?_eq_some_iff.mpr ⟨numeral, range⟩
  have first := asSigned?_eq_some_iff.mpr ⟨reads, text, n, decoded, read, rfl⟩
  rw [readCell, first]
  rfl

private theorem readCell_unsigned {n : Nat} (integer : c.type.isInteger = true)
    (unsigned : c.unsigned = true) (numeral : Text.UnsignedNumeral text n)
    (fits : n < Text.wordSize) :
    readCell c (some (Text.Utf8.encode text)) = ofUnsigned n := by
  have not_null : c.type ≠ .null := ColumnType.ne_of_isInteger integer rfl
  have not_bit : c.type ≠ .bit := ColumnType.ne_of_isInteger integer rfl
  have first : asSigned? c (Text.Utf8.encode text) = none := by
    simp [asSigned?, Column.readsSigned, not_null, unsigned]
  have reads : c.readsUnsigned = true := by simp [Column.readsUnsigned, integer, unsigned]
  have decoded := Text.Utf8.decode?_encode text
  have read := Text.readUnsigned64_of_numeral numeral fits
  have second := asUnsigned?_eq_some_iff.mpr
    ⟨reads, .inr ⟨not_bit, text, n, decoded, read, rfl⟩⟩
  rw [readCell, first, second]
  rfl

theorem asSigned?_of_isText (family : c.type.isText = true) (bytes : Text.Bytes) :
    asSigned? c bytes = none := by
  have not_null : c.type ≠ .null := ColumnType.ne_of_isText family rfl
  have not_integer : c.type.isInteger = false := ColumnType.not_isInteger_of_isText family
  simp [asSigned?, Column.readsSigned, not_null, not_integer]

theorem asUnsigned?_of_isText (family : c.type.isText = true) (bytes : Text.Bytes) :
    asUnsigned? c bytes = none := by
  have not_null : c.type ≠ .null := ColumnType.ne_of_isText family rfl
  have not_year : c.type ≠ .year := ColumnType.ne_of_isText family rfl
  have not_bit : c.type ≠ .bit := ColumnType.ne_of_isText family rfl
  have not_integer : c.type.isInteger = false := ColumnType.not_isInteger_of_isText family
  simp [asUnsigned?, Column.readsUnsigned, not_null, not_integer, not_year, not_bit]

theorem asBytes?_of_isText (family : c.type.isText = true) (bytes : Text.Bytes) :
    asBytes? c bytes = some (.text (Text.ofUtf8Lossy bytes)) :=
  asBytes?_eq_some_iff.mpr ⟨by simp [Column.readsBytes, family], rfl⟩

theorem readCell_text (family : c.type.isText = true) (bytes : Text.Bytes) :
    readCell c (some bytes) = .text (Text.ofUtf8Lossy bytes) := by
  have first := asSigned?_of_isText family bytes
  have second := asUnsigned?_of_isText family bytes
  have fourth := asBytes?_of_isText family bytes
  cases third : asText? c bytes with
  | none => rw [readCell, first, second, third, fourth]; rfl
  | some v =>
    -- the third reading is the fourth one wherever it succeeds
    obtain ⟨-, s, valid, rfl⟩ := asText?_eq_some_iff.mp third
    obtain ⟨chars, decoded, rfl⟩ := Option.map_eq_some_iff.mp valid
    have lossy : Text.ofUtf8Lossy bytes = String.ofList chars :=
      congrArg String.ofList (Text.Utf8.decodeLossy_of_decode? decoded)
    rw [readCell, first, second, third, lossy]
    rfl

end Cells

section Values

open Gate (versionKey)

def readValue (database : String) : Value → Except Failure (Option Int)
  | .null => .ok none
  | .int n => .ok (some n)
  | .text s =>
    match Text.readSigned64? (Text.trim s.toList) with
    | some n => .ok (some n)
    | none => .error (.query (.notInteger versionKey database (Value.text s).render))

private theorem readVersion_cons {database : String} {r : Row} {v : Value} (rest : List Row)
    (held : Gate.versionValue? r = some v) :
    Gate.readVersion database (r :: rest) = readValue database v := by
  cases v with
  | null => simp [Gate.readVersion, held, readValue]
  | int n => simp [Gate.readVersion, held, readValue, Value.toInt?]
  | text s =>
    cases number : Text.readSigned64? (Text.trim s.toList) <;>
      simp [Gate.readVersion, held, readValue, Value.toInt?, number]

private theorem readValue_text_eq_some_iff {database s : String} {n : Int} :
    readValue database (.text s) = .ok (some n) ↔
      Text.Numeral (Text.trim s.toList) n ∧ Text.isSigned64 n = true := by
  rw [← Text.readSigned64?_eq_some_iff, readValue]
  cases Text.readSigned64? (Text.trim s.toList) <;> simp

private theorem readValue_text_of_ne {database s : String}
    (other : ∀ n, readValue database (.text s) ≠ .ok (some n)) :
    readValue database (.text s) =
      .error (.query (.notInteger versionKey database (Value.text s).render)) := by
  rw [readValue] at other ⊢
  cases read : Text.readSigned64? (Text.trim s.toList) with
  | none => rfl
  | some n =>
    rw [read] at other
    exact absurd rfl (other n)

private theorem readValue_ofUnsigned (database : String) (n : Nat) :
    (n < Text.signedLimit → readValue database (ofUnsigned n) = .ok (some (n : Int))) ∧
      (Text.signedLimit ≤ n → readValue database (ofUnsigned n) =
        .error (.query (.notInteger versionKey database (Value.text (Text.ofNat n)).render))) := by
  constructor
  · intro small
    rw [ofUnsigned, if_pos small]
    rfl
  · intro large
    rw [ofUnsigned, if_neg (Nat.not_lt.mpr large)]
    apply readValue_text_of_ne
    intro m read
    obtain ⟨numeral, range⟩ := readValue_text_eq_some_iff.mp read
    have digits := Text.digits_natDigits n
    have written : (Text.ofNat n).toList = Text.natDigits n := String.toList_ofList
    have trimmed : Text.trim (Text.natDigits n) = Text.natDigits n :=
      Text.trim_of_no_blank fun c member => Text.not_isBlank_of_isDigit (digits.digits c member)
    rw [written, trimmed] at numeral
    obtain rfl : m = n := numeral.unique (.plain digits)
    obtain ⟨-, above⟩ := Text.isSigned64_iff.mp range
    have limit : (9223372036854775808 : Int) ≤ n := Int.ofNat_le.mpr large
    omega

private theorem decode?_of_numeral {bytes : Text.Bytes} {n : Int}
    (h : Text.Numeral (Text.trim (Text.Utf8.decodeLossy bytes)) n) :
    Text.Utf8.decode? bytes = some (Text.Utf8.decodeLossy bytes) := by
  cases decoded : Text.Utf8.decode? bytes with
  | some s => rw [Text.Utf8.decodeLossy_of_decode? decoded]
  | none =>
    have shown := Text.Utf8.replacement_mem_of_decode?_eq_none decoded
    have kept := Text.mem_trim (by decide) shown
    exact absurd (h.mem kept) (by decide)

end Values

section Sessions

open Exchange (against)
open Gate (versionKey)

/-- The next reply of a session is understood, and the cell for the version holds these bytes below
this header. -/
structure Session.AnswersCell (s : Session) (header : Header) (bytes : Text.Bytes) : Prop where
  opened : s.closed = false
  understood : ∀ set ∈ s.replies.headD [], set.Understood
  cell : ∃ cells, firstRow? (s.replies.headD []) = some cells ∧
    versionCell? cells = some (header, some bytes)

variable {s : Session} {header : Header} {bytes : Text.Bytes}

private theorem schemaVersion_of_cell (database : String) (h : s.AnswersCell header bytes) :
    (against Session.server (Gate.schemaVersion database) s).result =
      readValue database (header.read (some bytes)) := by
  obtain ⟨cells, row, found⟩ := h.cell
  obtain ⟨rows, read⟩ := exists_readReply_iff.mpr h.understood
  have head := head?_readReply read
  rw [row, Option.map_some, List.head?_eq_some_iff] at head
  obtain ⟨rest, rfl⟩ := head
  have answered := server_answer_of_open h.opened (Gate.versionQuery database)
  rw [read] at answered
  rw [Gate.against_schemaVersion_ok answered]
  apply readVersion_cons rest
  rw [versionValue?_readings, found, Option.map_some]

private theorem Header.read_congr {other : Header} (code : other.code = header.code)
    (unsigned : other.unsigned = header.unsigned) (binary : other.binary = header.binary)
    (cell : Option Text.Bytes) : other.read cell = header.read cell := by
  unfold Header.read Header.column
  rw [code, unsigned, binary]
  cases ColumnType.ofCode? header.code <;> rfl

private theorem isInteger_of_code {code : Nat} (h : code ∈ [1, 2, 3, 8, 9]) :
    ∃ type, ColumnType.ofCode? code = some type ∧ type.isInteger = true := by
  simp only [List.mem_cons, List.not_mem_nil, or_false] at h
  rcases h with rfl | rfl | rfl | rfl | rfl <;> exact ⟨_, rfl, rfl⟩

theorem isText_of_code {code : Nat} (h : code ∈ [15, 247, 249, 250, 251, 252, 253, 254]) :
    ∃ type, ColumnType.ofCode? code = some type ∧ type.isText = true := by
  simp only [List.mem_cons, List.not_mem_nil, or_false] at h
  rcases h with rfl | rfl | rfl | rfl | rfl | rfl | rfl | rfl <;> exact ⟨_, rfl, rfl⟩

/-- A stored version is read as the integer that its numeral stands for, if that is a signed 64-bit
integer: from a signed column always, from an unsigned column below the signed limit, and from a
text column exactly if the text between blanks is such a numeral. Else the query fails. Neither the
other columns and rows nor the name of the column that is read matter. -/
theorem stored_version_exact (database : String) (answers : s.AnswersCell header bytes) :
    let result := (against Session.server (Gate.schemaVersion database) s).result
    (header.code ∈ [1, 2, 3, 8, 9] → header.unsigned = false →
      ∀ text n, bytes = Text.Utf8.encode text → Text.Numeral text n →
        Text.isSigned64 n = true → result = .ok (some n)) ∧
    (header.code ∈ [1, 2, 3, 8, 9] → header.unsigned = true →
      ∀ text n, bytes = Text.Utf8.encode text → Text.UnsignedNumeral text n →
        n < Text.wordSize →
          (n < Text.signedLimit → result = .ok (some (n : Int))) ∧
          (Text.signedLimit ≤ n → result = .error (.query
            (.notInteger versionKey database (Value.text (Text.ofNat n)).render)))) ∧
    (header.code ∈ [15, 247, 249, 250, 251, 252, 253, 254] →
      (∀ n, result = .ok (some n) ↔
        (∃ text, Text.Utf8.decode? bytes = some text ∧ Text.Numeral (Text.trim text) n) ∧
          Text.isSigned64 n = true) ∧
      ((∀ n, result ≠ .ok (some n)) → result = .error (.query
        (.notInteger versionKey database (Value.text (Text.ofUtf8Lossy bytes)).render)))) ∧
    ∀ (other : Session) (twin : Header), other.AnswersCell twin bytes →
      twin.code = header.code → twin.unsigned = header.unsigned → twin.binary = header.binary →
        (against Session.server (Gate.schemaVersion database) other).result = result := by
  intro result
  have reads : result = readValue database (header.read (some bytes)) :=
    schemaVersion_of_cell database answers
  refine ⟨?_, ?_, ?_, ?_⟩
  · rintro code signed text n rfl numeral range
    obtain ⟨type, known, integer⟩ := isInteger_of_code code
    rw [reads, Header.read_eq known, readCell_signed integer signed numeral range]
    rfl
  · rintro code unsigned text n rfl numeral fits
    obtain ⟨type, known, integer⟩ := isInteger_of_code code
    rw [reads, Header.read_eq known, readCell_unsigned integer unsigned numeral fits]
    exact readValue_ofUnsigned database n
  · intro code
    obtain ⟨type, known, family⟩ := isText_of_code code
    rw [Header.read_eq known, readCell_text family] at reads
    constructor
    · intro n
      rw [reads, readValue_text_eq_some_iff, Text.ofUtf8Lossy, String.toList_ofList]
      refine and_congr_left fun _ => ⟨fun numeral => ?_, ?_⟩
      · exact ⟨_, decode?_of_numeral numeral, numeral⟩
      · rintro ⟨text, decoded, numeral⟩
        rw [Text.Utf8.decodeLossy_of_decode? decoded]
        exact numeral
    · intro unread
      rw [reads] at unread ⊢
      exact readValue_text_of_ne unread
  · intro other twin answered code unsigned binary
    rw [reads, schemaVersion_of_cell database answered, Header.read_congr code unsigned binary]

/-- The least signed integer is read from a signed column, and an integer between blanks from a
column of bytes; a number just above the signed range is refused. A second row changes nothing. -/
theorem stored_version_at_limits :
    let session (h : Header) (bytes : Text.Bytes) : Session := .prepared "" none
      [[.table [⟨"key", "", 253, false, false⟩, h]
        [[some (Text.utf8 "k"), some bytes], [none, some (Text.utf8 "0")]]]]
    let result (s : Session) := (against Session.server (Gate.schemaVersion "shop") s).result
    let signed : Header := ⟨"value", "", 8, false, false⟩
    let unsigned : Header := ⟨"value", "", 8, true, false⟩
    let blob : Header := ⟨"v", "value", 252, false, true⟩
    let least := "-9223372036854775808".toList
    let above := "9223372036854775808".toList
    let padded := " +007\n".toList
    ((session signed (Text.Utf8.encode least)).AnswersCell signed (Text.Utf8.encode least) ∧
      Text.Numeral least (-9223372036854775808) ∧
      result (session signed (Text.Utf8.encode least)) = .ok (some (-9223372036854775808))) ∧
    ((session unsigned (Text.Utf8.encode above)).AnswersCell unsigned (Text.Utf8.encode above) ∧
      Text.UnsignedNumeral above 9223372036854775808 ∧
      result (session unsigned (Text.Utf8.encode above)) = .error (.query
        (.notInteger versionKey "shop" (Value.text "9223372036854775808").render))) ∧
    ((session blob (Text.Utf8.encode padded)).AnswersCell blob (Text.Utf8.encode padded) ∧
      Text.Numeral (Text.trim padded) 7 ∧
      result (session blob (Text.Utf8.encode padded)) = .ok (some 7)) := by
  intro session result signed unsigned blob least above padded
  have answers (h : Header) (bytes : Text.Bytes) (type : ColumnType)
      (known : ColumnType.ofCode? h.code = some type) (named : h.shownName = "value") :
      (session h bytes).AnswersCell h bytes := by
    refine ⟨rfl, ?_, ?_⟩
    · intro set member
      obtain rfl := List.mem_singleton.mp member
      refine .table _ _ fun g listed => ?_
      rcases List.mem_cons.mp listed with rfl | listed
      · exact ⟨.varString, rfl⟩
      · obtain rfl := List.mem_singleton.mp listed
        exact ⟨type, known⟩
    · refine ⟨_, rfl, ?_⟩
      have key : (Header.shownName ⟨"key", "", 253, false, false⟩ == "value") = false := by decide
      simp [versionCell?, key, named]
  have first := answers signed (Text.Utf8.encode least) .longLong rfl rfl
  have second := answers unsigned (Text.Utf8.encode above) .longLong rfl rfl
  have third := answers blob (Text.Utf8.encode padded) .blob rfl rfl
  have numeral : Text.Numeral least (-9223372036854775808) :=
    .minus (Text.readNat?_eq_some_iff.mp (by decide))
  have number : Text.UnsignedNumeral above 9223372036854775808 :=
    .plain (Text.readNat?_eq_some_iff.mp (by decide))
  have trimmed : Text.Numeral (Text.trim padded) 7 :=
    .plus (Text.readNat?_eq_some_iff.mp (by decide))
  obtain ⟨fromSigned, -, -, -⟩ := stored_version_exact "shop" first
  obtain ⟨-, fromUnsigned, -, -⟩ := stored_version_exact "shop" second
  obtain ⟨-, -, fromText, -⟩ := stored_version_exact "shop" third
  refine ⟨⟨first, numeral, ?_⟩, ⟨second, number, ?_⟩, ⟨third, trimmed, ?_⟩⟩
  · exact fromSigned (by decide) rfl least _ rfl numeral (by decide)
  · exact (fromUnsigned (by decide) rfl above _ rfl number (by decide)).2 (by decide)
  · refine ((fromText (by decide)).1 7).mpr ⟨⟨padded, ?_, trimmed⟩, by decide⟩
    exact Text.Utf8.decode?_encode padded

end Sessions

end SchemaGate.MySql
