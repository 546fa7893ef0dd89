import SchemaGate.Proofs.Encoding
/-!
Faults of a byte text. A fault is the longest run of bytes that could open a character which the
text does not go on with, or a single byte that opens none; the lenient reader shows each fault as
one replacement character. The rule is stated over the encodings of the characters alone. Main
statements: the strict reader reads a text exactly as the characters whose encodings it joins, and
the lenient reader shows any bytes exactly as the rule says.
-/

set_option autoImplicit false

namespace SchemaGate.Text

namespace Utf8

section Characters

/-- What a first byte may promise, by the number of bytes of the character. The range of the second
byte leaves out overlong forms, surrogates and what lies above the last code point. -/
inductive Promises (b : UInt8) : Lead → Prop where
  | one (below : b.toNat < 0x80) : Promises b ⟨0, 0x80, 0xBF, b.toNat⟩
  | two (above : 0xC2 ≤ b.toNat) (below : b.toNat < 0xE0) :
      Promises b ⟨1, 0x80, 0xBF, b.toNat - 0xC0⟩
  | three (low high : UInt8) (above : 0xE0 ≤ b.toNat) (below : b.toNat < 0xF0)
      (fits : low ≤ high) (least : 0x80 ≤ low.toNat) (most : high.toNat ≤ 0xBF)
      (overlong : b.toNat = 0xE0 → 0xA0 ≤ low.toNat)
      (surrogate : b.toNat = 0xED → high.toNat < 0xA0) :
      Promises b ⟨2, low, high, b.toNat - 0xE0⟩
  | four (low high : UInt8) (above : 0xF0 ≤ b.toNat) (below : b.toNat < 0xF5)
      (fits : low ≤ high) (least : 0x80 ≤ low.toNat) (most : high.toNat ≤ 0xBF)
      (overlong : b.toNat = 0xF0 → 0x90 ≤ low.toNat)
      (last : b.toNat = 0xF4 → high.toNat < 0x90) :
      Promises b ⟨3, low, high, b.toNat - 0xF0⟩

private theorem promises_of_lead? {b : UInt8} {l : Lead} (h : lead? b = some l) : Promises b l := by
  unfold lead? at h
  dsimp only at h
  split at h
  next ascii =>
    obtain rfl := Option.some.inj h
    exact .one ascii
  split at h
  next => exact nomatch h
  split at h
  next =>
    obtain rfl := Option.some.inj h
    exact .two (by omega) (by omega)
  split at h
  next first =>
    obtain rfl := Option.some.inj h
    have bits : b.toNat - 0xE0 = 0 := by omega
    rw [← bits]
    exact .three _ _ (by omega) (by omega) (by decide) (by decide) (by decide)
      (fun _ => by decide) (by omega)
  split at h
  next first =>
    obtain rfl := Option.some.inj h
    have bits : b.toNat - 0xE0 = 0xD := by omega
    rw [← bits]
    exact .three _ _ (by omega) (by omega) (by decide) (by decide) (by decide)
      (by omega) (fun _ => by decide)
  split at h
  next =>
    obtain rfl := Option.some.inj h
    exact .three _ _ (by omega) (by omega) (by decide) (by decide) (by decide)
      (by omega) (by omega)
  split at h
  next first =>
    obtain rfl := Option.some.inj h
    have bits : b.toNat - 0xF0 = 0 := by omega
    rw [← bits]
    exact .four _ _ (by omega) (by omega) (by decide) (by decide) (by decide)
      (fun _ => by decide) (by omega)
  split at h
  next =>
    obtain rfl := Option.some.inj h
    exact .four _ _ (by omega) (by omega) (by decide) (by decide) (by decide)
      (by omega) (by omega)
  split at h
  next first =>
    obtain rfl := Option.some.inj h
    have bits : b.toNat - 0xF0 = 4 := by omega
    rw [← bits]
    exact .four _ _ (by omega) (by omega) (by decide) (by decide) (by decide)
      (by omega) (fun _ => by decide)
  next => exact nomatch h

private theorem fits_of_lead? {b : UInt8} {l : Lead} (h : lead? b = some l) : l.low ≤ l.high := by
  cases promises_of_lead? h with
  | one => exact (by decide : (0x80 : UInt8) ≤ 0xBF)
  | two => exact (by decide : (0x80 : UInt8) ≤ 0xBF)
  | three low high above below fits => exact fits
  | four low high above below fits => exact fits

section Tails

variable {low high d : UInt8}

private theorem tails_within (within : low ≤ d ∧ d ≤ high) (k code size : Nat) (bs : Bytes) :
    tails low high (k + 1) code size (d :: bs) =
      tails 0x80 0xBF k (code * 64 + (d.toNat - 0x80)) (size + 1) bs := by
  simp [tails, within]

private theorem tails_beyond (beyond : ¬ (low ≤ d ∧ d ≤ high)) (k code size : Nat) (bs : Bytes) :
    tails low high (k + 1) code size (d :: bs) = .broken size := by
  simp [tails, beyond]

end Tails

private theorem exists_of_tails_succ {low high : UInt8} {k code size n : Nat} {bs : Bytes}
    {c : Char} (h : tails low high (k + 1) code size bs = .char c n) :
    ∃ d rest, bs = d :: rest ∧ (low.toNat ≤ d.toNat ∧ d.toNat ≤ high.toNat) ∧
      tails 0x80 0xBF k (code * 64 + (d.toNat - 0x80)) (size + 1) rest = .char c n := by
  cases bs with
  | nil => cases h
  | cons d rest =>
    by_cases within : low ≤ d ∧ d ≤ high
    · rw [tails_within within] at h
      have above := UInt8.le_iff_toNat_le.mp within.1
      have below := UInt8.le_iff_toNat_le.mp within.2
      exact ⟨d, rest, rfl, ⟨above, below⟩, h⟩
    · rw [tails_beyond within] at h
      cases h

private theorem ofNat_eq_byte {b : UInt8} {m : Nat} (h : m = b.toNat) : UInt8.ofNat m = b := by
  rw [h, UInt8.ofNat_toNat]

private theorem toNat_val_ofNat {v : Nat} (valid : v.isValidChar) :
    (Char.ofNat v).val.toNat = v := by
  unfold Char.ofNat
  rw [dif_pos valid]
  rfl

section Encoded

variable {b d e f : UInt8}

private theorem encodeChar_one (below : b.toNat < 0x80) :
    String.utf8EncodeChar (Char.ofNat b.toNat) = [b] := by
  have valid : b.toNat.isValidChar := .inl (by omega)
  unfold String.utf8EncodeChar
  dsimp only
  rw [toNat_val_ofNat valid, if_pos (by omega), UInt8.ofNat_toNat]

private theorem encodeChar_two (first : 0xC2 ≤ b.toNat ∧ b.toNat < 0xE0)
    (second : 0x80 ≤ d.toNat ∧ d.toNat ≤ 0xBF) :
    String.utf8EncodeChar (Char.ofNat ((b.toNat - 0xC0) * 64 + (d.toNat - 0x80))) = [b, d] := by
  generalize code : (b.toNat - 0xC0) * 64 + (d.toNat - 0x80) = v
  have valid : v.isValidChar := .inl (by omega)
  unfold String.utf8EncodeChar
  dsimp only
  rw [toNat_val_ofNat valid, if_neg (by omega), if_pos (by omega)]
  rw [ofNat_eq_byte (b := b) (by omega), ofNat_eq_byte (b := d) (by omega)]

private theorem encodeChar_three (first : 0xE0 ≤ b.toNat ∧ b.toNat < 0xF0)
    (second : 0x80 ≤ d.toNat ∧ d.toNat ≤ 0xBF) (third : 0x80 ≤ e.toNat ∧ e.toNat ≤ 0xBF)
    (overlong : b.toNat = 0xE0 → 0xA0 ≤ d.toNat) (surrogate : b.toNat = 0xED → d.toNat < 0xA0) :
    String.utf8EncodeChar (Char.ofNat
      (((b.toNat - 0xE0) * 64 + (d.toNat - 0x80)) * 64 + (e.toNat - 0x80))) = [b, d, e] := by
  generalize code : ((b.toNat - 0xE0) * 64 + (d.toNat - 0x80)) * 64 + (e.toNat - 0x80) = v
  have valid : v.isValidChar := by
    unfold Nat.isValidChar
    omega
  unfold String.utf8EncodeChar
  dsimp only
  rw [toNat_val_ofNat valid, if_neg (by omega), if_neg (by omega), if_pos (by omega)]
  rw [ofNat_eq_byte (b := b) (by omega), ofNat_eq_byte (b := d) (by omega),
    ofNat_eq_byte (b := e) (by omega)]

private theorem encodeChar_four (first : 0xF0 ≤ b.toNat ∧ b.toNat < 0xF5)
    (second : 0x80 ≤ d.toNat ∧ d.toNat ≤ 0xBF) (third : 0x80 ≤ e.toNat ∧ e.toNat ≤ 0xBF)
    (fourth : 0x80 ≤ f.toNat ∧ f.toNat ≤ 0xBF) (overlong : b.toNat = 0xF0 → 0x90 ≤ d.toNat)
    (last : b.toNat = 0xF4 → d.toNat < 0x90) :
    String.utf8EncodeChar (Char.ofNat
      ((((b.toNat - 0xF0) * 64 + (d.toNat - 0x80)) * 64 + (e.toNat - 0x80)) * 64 +
        (f.toNat - 0x80))) = [b, d, e, f] := by
  generalize code : (((b.toNat - 0xF0) * 64 + (d.toNat - 0x80)) * 64 + (e.toNat - 0x80)) * 64 +
    (f.toNat - 0x80) = v
  have valid : v.isValidChar := .inr (by omega)
  unfold String.utf8EncodeChar
  dsimp only
  rw [toNat_val_ofNat valid, if_neg (by omega), if_neg (by omega), if_neg (by omega)]
  rw [ofNat_eq_byte (b := b) (by omega), ofNat_eq_byte (b := d) (by omega),
    ofNat_eq_byte (b := e) (by omega), ofNat_eq_byte (b := f) (by omega)]

end Encoded

private theorem encodeChar_of_piece {b : UInt8} {bs : Bytes} {c : Char} {n : Nat}
    (h : piece b bs = .char c n) : String.utf8EncodeChar c <+: b :: bs := by
  unfold piece at h
  cases lead : lead? b with
  | none =>
    rw [lead] at h
    exact nomatch h
  | some l =>
    rw [lead] at h
    cases promises_of_lead? lead with
    | one below =>
      obtain ⟨rfl, -⟩ := Piece.char.inj h
      exact ⟨bs, by rw [encodeChar_one below]; rfl⟩
    | two above below =>
      obtain ⟨d, rest, rfl, second, h⟩ := exists_of_tails_succ h
      obtain ⟨rfl, -⟩ := Piece.char.inj h
      exact ⟨rest, by rw [encodeChar_two ⟨above, below⟩ second]; rfl⟩
    | three low high above below fits least most overlong surrogate =>
      dsimp only at h
      obtain ⟨d, rest, rfl, second, h⟩ := exists_of_tails_succ h
      obtain ⟨e, rest, rfl, third, h⟩ := exists_of_tails_succ h
      obtain ⟨rfl, -⟩ := Piece.char.inj h
      refine ⟨rest, ?_⟩
      rw [encodeChar_three ⟨above, below⟩ (by omega) third (by omega) (by omega)]
      rfl
    | four low high above below fits least most overlong last =>
      dsimp only at h
      obtain ⟨d, rest, rfl, second, h⟩ := exists_of_tails_succ h
      obtain ⟨e, rest, rfl, third, h⟩ := exists_of_tails_succ h
      obtain ⟨f, rest, rfl, fourth, h⟩ := exists_of_tails_succ h
      obtain ⟨rfl, -⟩ := Piece.char.inj h
      refine ⟨rest, ?_⟩
      rw [encodeChar_four ⟨above, below⟩ (by omega) third fourth (by omega) (by omega)]
      rfl

end Characters

section Faults

def Opens (m : Bytes) : Prop := ∃ c, m <+: String.utf8EncodeChar c

/-- The bytes `m` are one fault of a text that goes on with `rest`. -/
structure Faulty (m rest : Bytes) : Prop where
  nonempty : m ≠ []
  unencoded : ∀ c, ¬ String.utf8EncodeChar c <+: m ++ rest
  opens : m.length = 1 ∨ Opens m
  longest : ∀ other, other <+: m ++ rest → Opens other → other.length ≤ m.length

private theorem Faulty.length_le {m rest other after : Bytes} (h : Faulty m rest)
    (g : Faulty other after) (same : other ++ after = m ++ rest) :
    other.length ≤ m.length := by
  rcases g.opens with single | opens
  · rw [single]
    exact List.length_pos_iff.mpr h.nonempty
  · exact h.longest other (same ▸ List.prefix_append other after) opens

private theorem Faulty.unique {m rest other after : Bytes} (h : Faulty m rest)
    (g : Faulty other after) (same : other ++ after = m ++ rest) :
    other = m ∧ after = rest :=
  List.append_inj same (Nat.le_antisymm (h.length_le g same) (g.length_le h same.symm))

private theorem exists_tails_char {low high : UInt8} (fits : low ≤ high) (k code size : Nat) :
    ∃ more c n, tails low high k code size more = .char c n := by
  induction k generalizing low high code size with
  | zero => exact ⟨[], _, _, rfl⟩
  | succ k ih =>
    have continues : (0x80 : UInt8) ≤ 0xBF := by decide
    obtain ⟨more, c, n, read⟩ := ih continues (code * 64 + (low.toNat - 0x80)) (size + 1)
    refine ⟨low :: more, c, n, ?_⟩
    rw [tails_within ⟨UInt8.le_refl low, fits⟩, read]

/-- Where the promised bytes end early, those read could go on, but not with the next one. -/
private theorem exists_read_of_tails {low high : UInt8} (fits : low ≤ high) {k code size : Nat}
    {bs : Bytes} (h : (tails low high k code size bs).char? = none) :
    ∃ read rest, bs = read ++ rest ∧
      (tails low high k code size bs).size = size + read.length ∧
      (∃ more c n, tails low high k code size (read ++ more) = .char c n) ∧
      ∀ d after, rest = d :: after →
        ∀ other, (tails low high k code size (read ++ d :: other)).char? = none := by
  -- on the number of bytes promised; that the next of them has a range is what carries over
  induction k generalizing low high code size bs with
  | zero => exact nomatch h
  | succ k ih =>
    cases bs with
    | nil => exact ⟨[], [], rfl, rfl, exists_tails_char fits .., nofun⟩
    | cons b bs =>
      by_cases within : low ≤ b ∧ b ≤ high
      · rw [tails_within within] at h ⊢
        obtain ⟨read, rest, rfl, taken, ⟨more, c, n, whole⟩, stops⟩ := ih (by decide) h
        refine ⟨b :: read, rest, rfl, ?_, ⟨more, c, n, ?_⟩, ?_⟩
        · rw [taken, List.length_cons]
          omega
        · rw [List.cons_append, tails_within within, whole]
        · intro d after next other
          rw [List.cons_append, tails_within within]
          exact stops d after next other
      · refine ⟨[], b :: bs, rfl, ?_, exists_tails_char fits .., ?_⟩
        · rw [tails_beyond within]
          rfl
        · intro d after next other
          obtain ⟨rfl, rfl⟩ := List.cons.inj next
          rw [List.nil_append, tails_beyond within]
          rfl

private theorem exists_read_of_piece {b : UInt8} {bs : Bytes} (h : (piece b bs).char? = none) :
    ∃ read rest, bs = read ++ rest ∧ (piece b bs).size = read.length + 1 ∧
      (read = [] ∨ ∃ more c n, piece b (read ++ more) = .char c n) ∧
      ∀ d after, rest = d :: after → ∀ other, (piece b (read ++ d :: other)).char? = none := by
  unfold piece at h ⊢
  cases lead : lead? b with
  | none => exact ⟨[], bs, rfl, rfl, .inl rfl, fun _ _ _ _ => rfl⟩
  | some l =>
    rw [lead] at h
    obtain ⟨read, rest, split, taken, whole, stops⟩ :=
      exists_read_of_tails (fits_of_lead? lead) h
    exact ⟨read, rest, split, by dsimp only; omega, .inr whole, stops⟩

private theorem not_prefix_of_piece {b : UInt8} {bs : Bytes} (h : (piece b bs).char? = none)
    (c : Char) :
    ¬ String.utf8EncodeChar c <+: b :: bs := by
  rintro ⟨rest, joined⟩
  obtain ⟨first, tail, bytes, read⟩ := piece_encodeChar c rest
  rw [bytes, List.cons_append] at joined
  obtain ⟨rfl, rfl⟩ := List.cons.inj joined
  rw [read] at h
  exact nomatch h

private theorem opens_of_piece {b : UInt8} {read rest more : Bytes} {c : Char} {n : Nat}
    (h : (piece b (read ++ rest)).char? = none) (whole : piece b (read ++ more) = .char c n) :
    Opens (b :: read) := by
  have encoded : String.utf8EncodeChar c <+: (b :: read) ++ more := encodeChar_of_piece whole
  rcases List.prefix_or_prefix_of_prefix encoded (List.prefix_append ..) with short | long
  · exact absurd (short.trans (List.prefix_append (b :: read) rest)) (not_prefix_of_piece h c)
  · exact ⟨c, long⟩

private theorem length_le_of_piece {b : UInt8} {read rest other : Bytes}
    (stops : ∀ d after, rest = d :: after →
      ∀ more, (piece b (read ++ d :: more)).char? = none)
    (within : other <+: (b :: read) ++ rest) (opens : Opens other) :
    other.length ≤ (b :: read).length := by
  refine Nat.le_of_not_lt fun longer => ?_
  obtain ⟨beyond, rfl⟩ : b :: read <+: other :=
    List.prefix_of_prefix_length_le (List.prefix_append ..) within (by omega)
  cases beyond with
  | nil =>
    rw [List.append_nil] at longer
    exact Nat.lt_irrefl _ longer
  | cons d beyond =>
    obtain ⟨after, next⟩ := (List.prefix_append_right_inj _).mp within
    obtain ⟨c, more, encoded⟩ := opens
    have start : String.utf8EncodeChar c <+: b :: (read ++ d :: (beyond ++ more)) := by
      rw [← encoded]
      simp
    exact not_prefix_of_piece (stops d _ next.symm (beyond ++ more)) c start

private theorem exists_faulty_of_piece {b : UInt8} {bs : Bytes} (h : (piece b bs).char? = none) :
    ∃ m rest, b :: bs = m ++ rest ∧ Faulty m rest ∧
      pieces (b :: bs) = piece b bs :: pieces rest := by
  obtain ⟨read, rest, rfl, taken, opened, stops⟩ := exists_read_of_piece h
  refine ⟨b :: read, rest, rfl, ⟨List.cons_ne_nil _ _, not_prefix_of_piece h, ?_, ?_⟩, ?_⟩
  · rcases opened with rfl | ⟨more, c, n, whole⟩
    · exact .inl rfl
    · exact .inr (opens_of_piece h whole)
  · exact fun other => length_le_of_piece stops
  · rw [pieces, piecesFrom, taken, Nat.add_sub_cancel, piecesFrom_length]

private theorem exists_pieces_of_faulty {m rest : Bytes} (h : Faulty m rest) :
    ∃ p : Piece, p.char? = none ∧ pieces (m ++ rest) = p :: pieces rest := by
  cases m with
  | nil => exact absurd rfl h.nonempty
  | cons b read =>
    have fault : (piece b (read ++ rest)).char? = none := by
      cases first : piece b (read ++ rest) with
      | char c n => exact absurd (encodeChar_of_piece first) (h.unencoded c)
      | broken size => rfl
      | cut size => rfl
    obtain ⟨other, after, same, faulty, cut⟩ := exists_faulty_of_piece fault
    obtain ⟨-, rfl⟩ := h.unique faulty same.symm
    exact ⟨_, fault, cut⟩

end Faults

section Readers

/-- What the lenient reader should show: every character as it is, and every fault as one
replacement character. -/
inductive Shows : Bytes → List Char → Prop where
  | nil : Shows [] []
  | char (c : Char) {bs : Bytes} {s : List Char} (rest : Shows bs s) :
      Shows (String.utf8EncodeChar c ++ bs) (c :: s)
  | fault {m bs : Bytes} {s : List Char} (faulty : Faulty m bs) (rest : Shows bs s) :
      Shows (m ++ bs) ('\uFFFD' :: s)

private theorem decodeLossy_encodeChar (c : Char) (bs : Bytes) :
    decodeLossy (String.utf8EncodeChar c ++ bs) = c :: decodeLossy bs := by
  obtain ⟨size, cut⟩ := pieces_encodeChar c bs
  rw [decodeLossy, cut]
  rfl

private theorem decodeLossy_of_faulty {m bs : Bytes} (h : Faulty m bs) :
    decodeLossy (m ++ bs) = '\uFFFD' :: decodeLossy bs := by
  obtain ⟨p, fault, cut⟩ := exists_pieces_of_faulty h
  rw [decodeLossy, cut]
  cases p with
  | char c size => exact nomatch fault
  | broken size => rfl
  | cut size => rfl

private theorem decodeLossy_of_shows {bs : Bytes} {s : List Char} (h : Shows bs s) :
    decodeLossy bs = s := by
  induction h with
  | nil => rfl
  | char c _ ih => rw [decodeLossy_encodeChar, ih]
  | fault faulty _ ih => rw [decodeLossy_of_faulty faulty, ih]

private theorem Piece.eq_char_of_char? {p : Piece} {c : Char} (h : p.char? = some c) :
    ∃ size, p = .char c size := by
  cases p with
  | char d size => exact ⟨size, congrArg (Piece.char · size) (Option.some.inj h)⟩
  | broken size => exact nomatch h
  | cut size => exact nomatch h

private theorem exists_shows (bs : Bytes) : ∃ s, Shows bs s := by
  -- what a piece takes is not empty, so the text behind it is shorter
  induction length : bs.length using Nat.strongRecOn generalizing bs with
  | _ n ih =>
    have behind {head rest : Bytes} (some_head : head ≠ []) (split : head ++ rest = bs) :
        ∃ s, Shows rest s := by
      have whole := congrArg List.length split
      have taken := List.length_pos_iff.mpr some_head
      rw [List.length_append] at whole
      exact ih rest.length (by omega) rest rfl
    cases bs with
    | nil => exact ⟨[], .nil⟩
    | cons b bs =>
      cases first : (piece b bs).char? with
      | some c =>
        obtain ⟨size, read⟩ := Piece.eq_char_of_char? first
        obtain ⟨rest, split⟩ := encodeChar_of_piece read
        obtain ⟨s, shown⟩ := behind String.utf8EncodeChar_ne_nil split
        exact ⟨c :: s, split ▸ .char c shown⟩
      | none =>
        obtain ⟨m, rest, split, faulty, -⟩ := exists_faulty_of_piece first
        obtain ⟨s, shown⟩ := behind faulty.nonempty split.symm
        exact ⟨'\uFFFD' :: s, split ▸ .fault faulty shown⟩

private theorem shows_iff {bs : Bytes} {s : List Char} : Shows bs s ↔ decodeLossy bs = s := by
  constructor
  · exact decodeLossy_of_shows
  · rintro rfl
    obtain ⟨s, shown⟩ := exists_shows bs
    rwa [decodeLossy_of_shows shown]

private theorem decode?_eq_some_iff {bs : Bytes} {s : List Char} :
    decode? bs = some s ↔ bs = encode s := by
  constructor
  · obtain ⟨t, shown⟩ := exists_shows bs
    induction shown generalizing s with
    | nil =>
      intro read
      obtain rfl := Option.some.inj read
      rfl
    | char c _ ih =>
      intro read
      obtain ⟨size, cut⟩ := pieces_encodeChar c _
      rw [decode?_cons cut, Piece.char?, Option.bind_some, Option.map_eq_some_iff] at read
      obtain ⟨s, rest, rfl⟩ := read
      rw [ih rest]
      rfl
    | fault faulty _ ih =>
      intro read
      obtain ⟨p, fault, cut⟩ := exists_pieces_of_faulty faulty
      rw [decode?_cons cut, fault] at read
      exact nomatch read
  · rintro rfl
    exact decode?_encode s

end Readers

end Utf8

section Strings

variable {bytes : Bytes} {s : String}

theorem ofUtf8?_eq_some_iff : ofUtf8? bytes = some s ↔ bytes = utf8 s := by
  rw [ofUtf8?, Option.map_eq_some_iff, utf8, ← Utf8.decode?_eq_some_iff]
  constructor
  · rintro ⟨chars, decoded, rfl⟩
    rwa [String.toList_ofList]
  · intro decoded
    exact ⟨s.toList, decoded, String.ofList_toList⟩

theorem ofUtf8Lossy_utf8 (s : String) : ofUtf8Lossy (utf8 s) = s := by
  rw [ofUtf8Lossy, utf8, Utf8.decodeLossy_of_decode? (Utf8.decode?_encode s.toList),
    String.ofList_toList]

theorem shows_toList_iff : Utf8.Shows bytes s.toList ↔ ofUtf8Lossy bytes = s := by
  rw [Utf8.shows_iff, ofUtf8Lossy]
  constructor
  · intro shown
    rw [shown, String.ofList_toList]
  · rintro rfl
    rw [String.toList_ofList]

end Strings

end SchemaGate.Text
