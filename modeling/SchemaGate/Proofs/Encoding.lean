import SchemaGate.Text.Utf8
/-!
Encoded text read back. The bytes of a character are one piece, so reading undoes encoding. Main
statements: the strict reader gives back every encoded text, the lenient reader agrees with it
wherever it succeeds, and shows a replacement character wherever it fails.
-/

set_option autoImplicit false

namespace SchemaGate.Text.Utf8

section Characters

private theorem tails_byte {low high : UInt8} {m : Nat} (above : low.toNat ≤ m)
    (below : m ≤ high.toNat) (n code size : Nat) (bs : Bytes) :
    tails low high (n + 1) code size (UInt8.ofNat m :: bs) =
      tails 0x80 0xBF n (code * 64 + (m - 0x80)) (size + 1) bs := by
  have byte : (UInt8.ofNat m).toNat = m := by
    have bound := high.toNat_lt
    rw [UInt8.toNat_ofNat']
    omega
  have low_le : low ≤ UInt8.ofNat m := by
    rw [UInt8.le_iff_toNat_le, byte]
    exact above
  have le_high : UInt8.ofNat m ≤ high := by
    rw [UInt8.le_iff_toNat_le, byte]
    exact below
  simp [tails, low_le, le_high, byte]

private theorem lead?_byte {m : Nat} (byte : m < 256) :
    lead? (UInt8.ofNat m) =
      if m < 0x80 then some ⟨0, 0x80, 0xBF, m⟩
      else if m < 0xC2 then none
      else if m < 0xE0 then some ⟨1, 0x80, 0xBF, m - 0xC0⟩
      else if m = 0xE0 then some ⟨2, 0xA0, 0xBF, 0⟩
      else if m = 0xED then some ⟨2, 0x80, 0x9F, 0xD⟩
      else if m < 0xF0 then some ⟨2, 0x80, 0xBF, m - 0xE0⟩
      else if m = 0xF0 then some ⟨3, 0x90, 0xBF, 0⟩
      else if m < 0xF4 then some ⟨3, 0x80, 0xBF, m - 0xF0⟩
      else if m = 0xF4 then some ⟨3, 0x80, 0x8F, 4⟩
      else none := by
  have same : (UInt8.ofNat m).toNat = m := by
    rw [UInt8.toNat_ofNat']
    omega
  unfold lead?
  rw [same]

private theorem piece_of_lead {b : UInt8} {l : Lead} (h : lead? b = some l) (bs : Bytes) :
    piece b bs = tails l.low l.high l.tails l.bits 1 bs := by
  rw [piece, h]

private theorem piece_one {v : Nat} (h : v ≤ 0x7F) (bs : Bytes) :
    piece (UInt8.ofNat v) bs = .char (Char.ofNat v) 1 := by
  have lead : lead? (UInt8.ofNat v) = some ⟨0, 0x80, 0xBF, v⟩ := by
    rw [lead?_byte (by omega), if_pos (by omega)]
  rw [piece_of_lead lead]
  rfl

private theorem tails_continuation (v n code size : Nat) (bs : Bytes) :
    tails 0x80 0xBF (n + 1) code size (UInt8.ofNat (v % 64 + 128) :: bs) =
      tails 0x80 0xBF n (code * 64 + v % 64) (size + 1) bs := by
  have first : (0x80 : UInt8).toNat ≤ v % 64 + 128 := Nat.le_add_left ..
  have last : v % 64 + 128 ≤ (0xBF : UInt8).toNat := by
    change _ ≤ 191
    omega
  rw [tails_byte first last, Nat.add_sub_cancel]

private theorem piece_two {v : Nat} (low : 0x7F < v) (high : v ≤ 0x7FF) (bs : Bytes) :
    piece (UInt8.ofNat (v / 64 % 32 + 192)) (UInt8.ofNat (v % 64 + 128) :: bs) =
      .char (Char.ofNat v) 2 := by
  have lead : lead? (UInt8.ofNat (v / 64 % 32 + 192)) = some ⟨1, 0x80, 0xBF, v / 64⟩ := by
    have bits : v / 64 % 32 + 192 - 0xC0 = v / 64 := by omega
    rw [lead?_byte (by omega), if_neg (by omega), if_neg (by omega), if_pos (by omega), bits]
  have code : v / 64 * 64 + v % 64 = v := by omega
  rw [piece_of_lead lead, tails_continuation, code]
  rfl

/-- Of three bytes, the first leaves the second a range that no surrogate falls into. -/
private theorem lead_of_three {v : Nat} (low : 0x7FF < v) (high : v ≤ 0xFFFF)
    (scalar : v < 0xD800 ∨ 0xDFFF < v) :
    ∃ first last : UInt8,
      lead? (UInt8.ofNat (v / 4096 % 16 + 224)) = some ⟨2, first, last, v / 4096⟩ ∧
        first.toNat ≤ v / 64 % 64 + 128 ∧ v / 64 % 64 + 128 ≤ last.toNat := by
  rw [lead?_byte (by omega), if_neg (by omega), if_neg (by omega), if_neg (by omega)]
  by_cases overlong : v / 4096 = 0
  · refine ⟨0xA0, 0xBF, ?_, ?_, ?_⟩
    · rw [if_pos (by omega), overlong]
    · change 160 ≤ _
      omega
    · change _ ≤ 191
      omega
  by_cases surrogate : v / 4096 = 0xD
  · refine ⟨0x80, 0x9F, ?_, ?_, ?_⟩
    · rw [if_neg (by omega), if_pos (by omega), surrogate]
    · change 128 ≤ _
      omega
    · change _ ≤ 159
      omega
  · have bits : v / 4096 % 16 + 224 - 0xE0 = v / 4096 := by omega
    refine ⟨0x80, 0xBF, ?_, ?_, ?_⟩
    · rw [if_neg (by omega), if_neg (by omega), if_pos (by omega), bits]
    · change 128 ≤ _
      omega
    · change _ ≤ 191
      omega

private theorem piece_three {v : Nat} (low : 0x7FF < v) (high : v ≤ 0xFFFF)
    (scalar : v < 0xD800 ∨ 0xDFFF < v) (bs : Bytes) :
    piece (UInt8.ofNat (v / 4096 % 16 + 224))
        (UInt8.ofNat (v / 64 % 64 + 128) :: UInt8.ofNat (v % 64 + 128) :: bs) =
      .char (Char.ofNat v) 3 := by
  obtain ⟨first, last, lead, above, below⟩ := lead_of_three low high scalar
  have code : (v / 4096 * 64 + (v / 64 % 64 + 128 - 0x80)) * 64 + v % 64 = v := by omega
  rw [piece_of_lead lead, tails_byte above below, tails_continuation, code]
  rfl

/-- Of four bytes, the first leaves the second a range that ends at the last code point. -/
private theorem lead_of_four {v : Nat} (low : 0xFFFF < v) (high : v ≤ 0x10FFFF) :
    ∃ first last : UInt8,
      lead? (UInt8.ofNat (v / 262144 % 8 + 240)) = some ⟨3, first, last, v / 262144⟩ ∧
        first.toNat ≤ v / 4096 % 64 + 128 ∧ v / 4096 % 64 + 128 ≤ last.toNat := by
  rw [lead?_byte (by omega), if_neg (by omega), if_neg (by omega), if_neg (by omega),
    if_neg (by omega), if_neg (by omega), if_neg (by omega)]
  by_cases overlong : v / 262144 = 0
  · refine ⟨0x90, 0xBF, ?_, ?_, ?_⟩
    · rw [if_pos (by omega), overlong]
    · change 144 ≤ _
      omega
    · change _ ≤ 191
      omega
  by_cases top : v / 262144 = 4
  · refine ⟨0x80, 0x8F, ?_, ?_, ?_⟩
    · rw [if_neg (by omega), if_neg (by omega), if_pos (by omega), top]
    · change 128 ≤ _
      omega
    · change _ ≤ 143
      omega
  · have bits : v / 262144 % 8 + 240 - 0xF0 = v / 262144 := by omega
    refine ⟨0x80, 0xBF, ?_, ?_, ?_⟩
    · rw [if_neg (by omega), if_pos (by omega), bits]
    · change 128 ≤ _
      omega
    · change _ ≤ 191
      omega

private theorem piece_four {v : Nat} (low : 0xFFFF < v) (high : v ≤ 0x10FFFF) (bs : Bytes) :
    piece (UInt8.ofNat (v / 262144 % 8 + 240))
        (UInt8.ofNat (v / 4096 % 64 + 128) :: UInt8.ofNat (v / 64 % 64 + 128) ::
          UInt8.ofNat (v % 64 + 128) :: bs) =
      .char (Char.ofNat v) 4 := by
  obtain ⟨first, last, lead, above, below⟩ := lead_of_four low high
  have code : ((v / 262144 * 64 + (v / 4096 % 64 + 128 - 0x80)) * 64 + v / 64 % 64) * 64 +
      v % 64 = v := by
    omega
  rw [piece_of_lead lead, tails_byte above below, tails_continuation, tails_continuation, code]
  rfl

theorem piece_encodeChar (c : Char) (bs : Bytes) :
    ∃ b tail, String.utf8EncodeChar c = b :: tail ∧
      piece b (tail ++ bs) = .char c (tail.length + 1) := by
  have same : Char.ofNat c.val.toNat = c := Char.ofNat_toNat c
  have scalar : c.val.toNat < 0xD800 ∨ 0xDFFF < c.val.toNat ∧ c.val.toNat < 0x110000 := c.valid
  unfold String.utf8EncodeChar
  by_cases one : c.val.toNat ≤ 0x7F
  · refine ⟨_, _, if_pos one, ?_⟩
    rw [List.nil_append, piece_one one, same]
    rfl
  by_cases two : c.val.toNat ≤ 0x7FF
  · refine ⟨_, _, (if_neg one).trans (if_pos two), ?_⟩
    rw [List.singleton_append, piece_two (by omega) two, same]
    rfl
  by_cases three : c.val.toNat ≤ 0xFFFF
  · refine ⟨_, _, (if_neg one).trans ((if_neg two).trans (if_pos three)), ?_⟩
    rw [List.cons_append, List.singleton_append, piece_three (by omega) three (by omega), same]
    rfl
  · refine ⟨_, _, (if_neg one).trans ((if_neg two).trans (if_neg three)), ?_⟩
    rw [List.cons_append, List.cons_append, List.singleton_append,
      piece_four (by omega) (by omega), same]
    rfl

end Characters

section Texts

theorem piecesFrom_length (used bs : Bytes) :
    piecesFrom used.length (used ++ bs) = pieces bs := by
  induction used with
  | nil => rfl
  | cons b used ih => exact ih

theorem pieces_encodeChar (c : Char) (bs : Bytes) :
    ∃ size, pieces (String.utf8EncodeChar c ++ bs) = .char c size :: pieces bs := by
  obtain ⟨b, tail, bytes, first⟩ := piece_encodeChar c bs
  refine ⟨tail.length + 1, ?_⟩
  have rest := piecesFrom_length tail bs
  rw [bytes, List.cons_append, pieces, piecesFrom, first]
  exact congrArg _ rest

theorem decode?_cons {bs rest : Bytes} {p : Piece} (h : pieces bs = p :: pieces rest) :
    decode? bs = p.char?.bind fun c => (decode? rest).map (c :: ·) := by
  unfold decode?
  rw [h, List.mapM_cons]
  cases p.char? with
  | none => rfl
  | some c => cases (pieces rest).mapM Piece.char? <;> rfl

theorem decode?_encode (s : List Char) : decode? (encode s) = some s := by
  induction s with
  | nil => rfl
  | cons c s ih =>
    obtain ⟨size, cut⟩ := pieces_encodeChar c (encode s)
    have whole : encode (c :: s) = String.utf8EncodeChar c ++ encode s := rfl
    rw [whole, decode?_cons cut, ih]
    rfl

end Texts

section Lenient

private theorem shown_of_chars {ps : List Piece} {s : List Char}
    (h : ps.mapM Piece.char? = some s) : ps.map Piece.shown = s := by
  induction ps generalizing s with
  | nil => simpa using h
  | cons p ps ih =>
    rw [List.mapM_cons] at h
    obtain ⟨c, first, h⟩ := Option.bind_eq_some_iff.mp h
    obtain ⟨r, rest, h⟩ := Option.bind_eq_some_iff.mp h
    obtain rfl : c :: r = s := Option.some.inj h
    have shown : p.shown = c := by
      cases p with
      | char d size => exact Option.some.inj first
      | broken size => exact nomatch first
      | cut size => exact nomatch first
    rw [List.map_cons, ih rest, shown]

private theorem mem_shown_of_not_chars {ps : List Piece} (h : ps.mapM Piece.char? = none) :
    '\uFFFD' ∈ ps.map Piece.shown := by
  induction ps with
  | nil => exact nomatch h
  | cons p ps ih =>
    rw [List.map_cons]
    cases p with
    | broken size => exact List.mem_cons_self
    | cut size => exact List.mem_cons_self
    | char c size =>
      cases rest : ps.mapM Piece.char? with
      | none => exact List.mem_cons_of_mem _ (ih rest)
      | some s =>
        rw [List.mapM_cons, rest] at h
        exact nomatch h

theorem decodeLossy_of_decode? {bs : Bytes} {s : List Char} (h : decode? bs = some s) :
    decodeLossy bs = s :=
  shown_of_chars h

theorem replacement_mem_of_decode?_eq_none {bs : Bytes} (h : decode? bs = none) :
    '\uFFFD' ∈ decodeLossy bs :=
  mem_shown_of_not_chars h

end Lenient

end SchemaGate.Text.Utf8
