import SchemaGate.Proofs.ExactVersion
import SchemaGate.Proofs.FaultyText
/-!
Cells of text columns. Of the four readings of a cell, a text column leaves the last two; whichever
of them is the first to succeed, it gives the same text. Main statement: a filled cell of a column
of text or bytes reads as what its bytes show, under any flags, and a string reads as itself.
-/

set_option autoImplicit false

namespace SchemaGate.MySql

/-- Bytes read in a column as a text: as no integer, as text if they are the encoding of that text
and the column is not flagged as binary, and as bytes always. -/
structure ReadsAs (c : Column) (bytes : Text.Bytes) (s : String) : Prop where
  cell : readCell c (some bytes) = .text s
  signed : asSigned? c bytes = none
  unsigned : asUnsigned? c bytes = none
  text (v : Value) : asText? c bytes = some v ↔
    v = .text s ∧ c.binary = false ∧ bytes = Text.utf8 s
  bytes : asBytes? c bytes = some (.text s)

section Columns

variable {c : Column}

private theorem readsText_of_isText (family : c.type.isText = true) :
    c.readsText = true ↔ c.binary = false := by
  have not_null : c.type ≠ .null := ColumnType.ne_of_isText family rfl
  simp [Column.readsText, not_null, family]

private theorem readsAs_lossy (family : c.type.isText = true) (bytes : Text.Bytes) :
    ReadsAs c bytes (Text.ofUtf8Lossy bytes) where
  cell := readCell_text family bytes
  signed := asSigned?_of_isText family bytes
  unsigned := asUnsigned?_of_isText family bytes
  bytes := asBytes?_of_isText family bytes
  text v := by
    rw [asText?_eq_some_iff, readsText_of_isText family]
    constructor
    · rintro ⟨flag, s, valid, rfl⟩
      obtain rfl := Text.ofUtf8?_eq_some_iff.mp valid
      rw [Text.ofUtf8Lossy_utf8]
      exact ⟨rfl, flag, rfl⟩
    · rintro ⟨rfl, flag, valid⟩
      exact ⟨flag, _, Text.ofUtf8?_eq_some_iff.mpr valid, rfl⟩

end Columns

section Headers

private theorem readRow_getElem? {headers : List Header} {columns : List Column}
    (read : headers.mapM Header.column = .ok columns) {cells : List (Option Text.Bytes)} {i : Nat}
    {h : Header} {cell : Option Text.Bytes} (header : headers[i]? = some h)
    (held : cells[i]? = some cell) :
    (readRow columns cells).columns[i]? = some (h.shownName, h.read cell) := by
  have both : (headers.zip cells)[i]? = some (h, cell) :=
    List.getElem?_zip_eq_some.mpr ⟨header, held⟩
  rw [readRow_eq read, List.getElem?_map, both]
  rfl

/-- A filled cell of a text column, of any of its types and with any flags, reads as the text that
its bytes show, each fault as one replacement character: not as `NULL` and not as an integer. It
does not matter which of the two readings of text is the first to succeed, nor does a flag or the
place in the row. The encoding of a string reads as that string. -/
theorem text_cell_exact {h : Header}
    (family : h.code ∈ [15, 247, 249, 250, 251, 252, 253, 254]) :
    ∃ c, h.column = .ok c ∧
      (∀ bytes : Text.Bytes, ReadsAs c bytes (Text.ofUtf8Lossy bytes) ∧
        ∀ s : String, Text.Utf8.Shows bytes s.toList ↔ Text.ofUtf8Lossy bytes = s) ∧
      (∀ s : String, ReadsAs c (Text.utf8 s) s) ∧
      (∀ (twin : Header) (d : Column), twin.code = h.code → twin.column = .ok d →
        ∀ bytes : Text.Bytes, readCell d (some bytes) = readCell c (some bytes)) ∧
      ∀ (headers : List Header) (columns : List Column) (cells : List (Option Text.Bytes))
        (i : Nat) (bytes : Text.Bytes), headers.mapM Header.column = .ok columns →
        headers[i]? = some h → cells[i]? = some (some bytes) →
          (readRow columns cells).columns[i]? =
            some (h.shownName, .text (Text.ofUtf8Lossy bytes)) := by
  obtain ⟨type, known, text⟩ := isText_of_code family
  let c : Column := ⟨h.shownName, type, h.unsigned, h.binary⟩
  refine ⟨c, Header.column_ok_iff.mpr ⟨type, known, rfl⟩, ?_, ?_, ?_, ?_⟩
  · exact fun bytes => ⟨readsAs_lossy text bytes, fun s => Text.shows_toList_iff⟩
  · intro s
    have reads : ReadsAs c _ _ := readsAs_lossy text (Text.utf8 s)
    rwa [Text.ofUtf8Lossy_utf8] at reads
  · intro twin d code column bytes
    obtain ⟨other, stated, rfl⟩ := Header.column_ok_iff.mp column
    obtain rfl : other = type := by
      rw [code, known] at stated
      exact (Option.some.inj stated).symm
    rw [readCell_text text, readCell_text text]
  · intro headers columns cells i bytes read header held
    rw [readRow_getElem? read header held, Header.read_eq known, readCell_text text]

/-- A broken byte and a character that is cut short are shown after the digits before them, below a
header that is flagged as unsigned and binary, and digits alone are no integer. -/
theorem text_cell_of_broken_digits :
    let h : Header := ⟨"n", "note", 252, true, true⟩
    ∃ c, h.column = .ok c ∧
      readCell c (some [0x31, 0x32, 0xFF, 0xE2, 0x82]) = .text "12\uFFFD\uFFFD" ∧
      readCell c (some (Text.utf8 "-7")) = .text "-7" := by
  intro h
  obtain ⟨c, column, shown, encoded, -, -⟩ := text_cell_exact (h := h) (by decide)
  refine ⟨c, column, ?_, (encoded "-7").cell⟩
  have lossy : Text.ofUtf8Lossy [0x31, 0x32, 0xFF, 0xE2, 0x82] = "12\uFFFD\uFFFD" := by decide
  rw [(shown _).1.cell, lossy]

end Headers

end SchemaGate.MySql
