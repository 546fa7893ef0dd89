import SchemaGate.Proofs.MemoryNames
/-!
The scan for the closing mark of a quotation, by byte offsets. Each turn slices the text behind the
lead at an offset, finds the next closing mark and slices again behind it to see whether the mark is
doubled; an offset past the end or inside a character would be a fault. Main statement: no turn is
a fault, the turns come to an end, and what is found is exactly what the grammar of quotations says.
-/

set_option autoImplicit false

namespace SchemaGate.MemoryServer

inductive Turn where
  /-- A slice is wanted at an offset that is no position of the text. -/
  | fault
  | ended (found : Option String)
  | again (offset : Nat)
  deriving DecidableEq, Repr

/-- One turn: the next closing mark at or behind an offset, and what stands behind the mark. -/
def turn (text : String) (close : Char) (offset : Nat) : Turn :=
  match text.pos? ⟨offset⟩ with
  | none => .fault
  | some here =>
    match (text.sliceFrom here).find? close with
    | none => .ended none
    | some found =>
      let stop := offset + found.offset.byteIdx
      match text.pos? ⟨stop + close.utf8Size⟩ with
      | none => .fault
      | some behind =>
        if (text.sliceFrom behind).startsWith close then .again (stop + 2 * close.utf8Size)
        else
          match text.pos? ⟨stop⟩ with
          | none => .fault
          | some mark => .ended (some (text.sliceTo mark).copy)

/-- The first so many turns from an offset on; the scan stays where it ended. -/
def turns (text : String) (close : Char) : Nat → Nat → Turn
  | 0, offset => .again offset
  | n + 1, offset =>
    match turn text close offset with
    | .again next => turns text close n next
    | stopped => stopped

def scan (sql lead : String) (close : Char) (n : Nat) : Turn :=
  match Text.after? lead.toList sql.toList with
  | none => .ended none
  | some text => turns (String.ofList text) close n 0

section Turns

variable {close : Char} {text before plain behind ahead : String} {offset : Nat}

private theorem exists_pos? (parts : text = before ++ ahead)
    (reached : offset = before.utf8ByteSize) :
    ∃ p, text.pos? ⟨offset⟩ = some p ∧ p.Splits before ahead := by
  subst parts reached
  have valid : String.Pos.Raw.IsValid (before ++ ahead) ⟨before.utf8ByteSize⟩ :=
    String.Pos.Raw.isValid_iff_exists_append.mpr ⟨before, ahead, rfl, rfl⟩
  refine ⟨(before ++ ahead).pos _ valid, ?_, rfl, rfl⟩
  simp only [String.pos?, String.Slice.pos?, String.Pos.Raw.isValidForSlice_eq_true_iff,
    String.Pos.Raw.isValidForSlice_toSlice_iff, valid, dite_true, Option.map_some]
  rfl

private theorem find?_plain {slice : String.Slice} (absent : close ∉ plain.toList)
    (parts : slice.copy = plain ++ (String.singleton close ++ behind)) :
    ∃ found, slice.find? close = some found ∧ found.offset.byteIdx = plain.utf8ByteSize := by
  have valid : String.Pos.Raw.IsValidForSlice slice ⟨plain.utf8ByteSize⟩ :=
    String.Pos.Raw.isValidForSlice_iff_exists_append.mpr ⟨plain, _, parts, rfl⟩
  refine ⟨slice.pos _ valid, ?_, rfl⟩
  rw [String.Slice.find?_char_eq_some_iff_splits]
  exact ⟨plain, behind, ⟨parts, rfl⟩, absent⟩

private theorem turn_unclosed (parts : text = before ++ ahead) (absent : close ∉ ahead.toList) :
    turn text close before.utf8ByteSize = .ended none := by
  obtain ⟨here, hereAt, splits⟩ := exists_pos? parts rfl
  have rest : (text.sliceFrom here).copy = ahead := splits.copy_sliceFrom_eq
  have none : (text.sliceFrom here).find? close = none := by
    simp [rest, absent]
  simp only [turn, hereAt, none]

private theorem turn_closed (parts : text = before ++ (plain ++ (String.singleton close ++ behind)))
    (absent : close ∉ plain.toList) :
    turn text close before.utf8ByteSize =
      if behind.toList.head? = some close then
        .again (before.utf8ByteSize + plain.utf8ByteSize + 2 * close.utf8Size)
      else .ended (some (before ++ plain)) := by
  obtain ⟨here, hereAt, splits⟩ := exists_pos? parts rfl
  obtain ⟨found, finds, distance⟩ := find?_plain absent splits.copy_sliceFrom_eq
  have upTo : text = before ++ plain ++ (String.singleton close ++ behind) := by
    rw [parts, String.append_assoc]
  have past : text = before ++ plain ++ String.singleton close ++ behind := by
    rw [upTo, ← String.append_assoc]
  have stop : before.utf8ByteSize + plain.utf8ByteSize = (before ++ plain).utf8ByteSize := by simp
  have next : before.utf8ByteSize + plain.utf8ByteSize + close.utf8Size =
      (before ++ plain ++ String.singleton close).utf8ByteSize := by simp
  obtain ⟨mark, markAt, body⟩ := exists_pos? upTo stop
  obtain ⟨follower, followerAt, rest⟩ := exists_pos? past next
  simp only [turn, hereAt, finds, distance, markAt, followerAt,
    String.Slice.startsWith_char_eq_head?, rest.copy_sliceFrom_eq, body.copy_sliceTo_eq, beq_iff_eq]

end Turns

section Marks

variable {close : Char} {plain rest x : List Char}

private theorem upToClose_of_absent (absent : close ∉ rest) : upToClose close rest = none := by
  induction rest with
  | nil => rfl
  | cons c rest ih =>
    have other : c ≠ close := fun same => absent (same ▸ List.mem_cons_self)
    have later := ih fun member => absent (List.mem_cons_of_mem c member)
    rw [upToClose.eq_def]
    simp [other, later]

private theorem upToClose_append (absent : close ∉ plain) (rest : List Char) :
    upToClose close (plain ++ rest) = (upToClose close rest).map (plain ++ ·) := by
  induction plain with
  | nil => simp
  | cons c plain ih =>
    have other : c ≠ close := fun same => absent (same ▸ List.mem_cons_self)
    have later := ih fun member => absent (List.mem_cons_of_mem c member)
    rw [List.cons_append, upToClose.eq_def]
    simp [other, later, Function.comp_def]

private theorem upToClose_pair (close : Char) (rest : List Char) :
    upToClose close (close :: close :: rest) =
      (upToClose close rest).map (close :: close :: ·) := by
  simp [upToClose]

private theorem upToClose_alone (alone : rest.head? ≠ some close) :
    upToClose close (close :: rest) = some [] :=
  upToClose_of_paired .nil alone

/-- What is found ends at a mark that stands alone, and has only pairs of marks in it. -/
private theorem paired_of_upToClose {s : List Char} (found : upToClose close s = some x) :
    Paired close x ∧ ∃ tail, s = x ++ close :: tail ∧ tail.head? ≠ some close := by
  induction s using upToClose.induct close generalizing x with
  | case1 => exact nomatch found
  | case2 s ih =>
    rw [upToClose_pair] at found
    obtain ⟨y, later, rfl⟩ := Option.map_eq_some_iff.mp found
    obtain ⟨paired, tail, rfl, alone⟩ := ih later
    exact ⟨.pair paired, tail, rfl, alone⟩
  | case3 d s other =>
    have alone : (d :: s).head? ≠ some close := by simpa using other
    rw [upToClose_alone alone] at found
    obtain rfl := Option.some.inj found
    exact ⟨.nil, d :: s, rfl, alone⟩
  | case4 =>
    rw [upToClose_alone (by simp)] at found
    obtain rfl := Option.some.inj found
    exact ⟨.nil, [], rfl, by simp⟩
  | case5 c s other ih =>
    have absent : close ∉ [c] := by simpa using Ne.symm other
    have passed : upToClose close (c :: s) = _ := upToClose_append absent s
    rw [passed] at found
    obtain ⟨y, later, rfl⟩ := Option.map_eq_some_iff.mp found
    obtain ⟨paired, tail, rfl, alone⟩ := ih later
    exact ⟨.plain other paired, tail, rfl, alone⟩

end Marks

/-- The grammar: a text is the lead, then a body in which closing marks stand in pairs, then a
closing mark that no other one follows. -/
structure Quotation (sql lead : String) (close : Char) (body : List Char) : Prop where
  paired : Paired close body
  closed : ∃ tail, sql.toList = lead.toList ++ (body ++ close :: tail) ∧ tail.head? ≠ some close

private theorem quotedAfter?_eq_some_iff {sql lead : String} {close : Char} {body : List Char} :
    quotedAfter? sql lead close = some body ↔ Quotation sql lead close body := by
  unfold quotedAfter?
  rw [Option.bind_eq_some_iff]
  constructor
  · rintro ⟨rest, behind, found⟩
    obtain ⟨paired, tail, rfl, alone⟩ := paired_of_upToClose found
    exact ⟨paired, tail, Text.eq_append_of_after? behind, alone⟩
  · rintro ⟨paired, tail, text, alone⟩
    exact ⟨_, Text.after?_eq_some_iff.mpr text, upToClose_of_paired paired alone⟩

section Course

variable {text before ahead : String} (close : Char)

/-- All that a turn at a position of the text can come to, next to the scan of the characters ahead:
there is no mark that stands alone, or there is one and it is found, or a pair of marks is passed,
which is two bytes at least. -/
private theorem turn_cases (parts : text = before ++ ahead) :
    turn text close before.utf8ByteSize = .ended none ∧ upToClose close ahead.toList = none ∨
      (∃ body, turn text close before.utf8ByteSize = .ended (some (before ++ body)) ∧
        upToClose close ahead.toList = some body.toList) ∨
      ∃ passed later, ahead = passed ++ later ∧ 2 ≤ passed.utf8ByteSize ∧
        turn text close before.utf8ByteSize = .again (before ++ passed).utf8ByteSize ∧
        upToClose close ahead.toList = (upToClose close later.toList).map (passed.toList ++ ·) := by
  by_cases closed : close ∈ ahead.toList
  · obtain ⟨plain, behind, chars, absent⟩ := List.eq_append_cons_of_mem closed
    obtain rfl : ahead = String.ofList plain ++ (String.singleton close ++ String.ofList behind) :=
      String.toList_injective (by simpa using chars)
    have step := turn_closed parts (by simpa using absent)
    rw [String.toList_ofList] at step
    rw [chars, upToClose_append absent]
    by_cases doubled : behind.head? = some close
    · obtain ⟨later, rfl⟩ := List.head?_eq_some_iff.mp doubled
      rw [if_pos doubled] at step
      have mark := close.utf8Size_pos
      refine .inr (.inr ⟨String.ofList (plain ++ [close, close]), String.ofList later,
        ?_, ?_, ?_, ?_⟩)
      · apply String.toList_injective
        simp
      · simp
        omega
      · rw [step]
        simp
        omega
      · rw [upToClose_pair]
        simp [Function.comp_def]
    · rw [if_neg doubled] at step
      rw [upToClose_alone doubled]
      exact .inr (.inl ⟨String.ofList plain, step, by simp⟩)
  · exact .inl ⟨turn_unclosed parts closed, upToClose_of_absent closed⟩

/-- The turns from a position on either have found what the scan of the characters ahead finds, or
are still at a position of the text, and then there are few of them. -/
private theorem turns_course (n : Nat) (parts : text = before ++ ahead) :
    turns text close n before.utf8ByteSize =
        .ended ((upToClose close ahead.toList).map fun body => before ++ String.ofList body) ∨
      2 * n ≤ ahead.utf8ByteSize ∧
        ∃ offset, turns text close n before.utf8ByteSize = .again offset := by
  induction n generalizing before ahead with
  | zero => exact .inr ⟨Nat.zero_le _, _, rfl⟩
  | succ n ih =>
    rcases turn_cases close parts with
      ⟨step, none⟩ | ⟨body, step, found⟩ | ⟨passed, later, rfl, pair, step, found⟩
    · left
      simp only [turns, step, none, Option.map_none]
    · left
      simp only [turns, step, found, Option.map_some, String.ofList_toList]
    · have parts' : text = before ++ passed ++ later := by rw [parts, String.append_assoc]
      rcases ih parts' with ended | ⟨few, offset, on⟩
      · left
        simp only [turns, step, ended, found, Option.map_map, Function.comp_def,
          String.ofList_append, String.ofList_toList, String.append_assoc]
      · right
        refine ⟨?_, offset, ?_⟩
        · rw [String.utf8ByteSize_append]
          omega
        · simp only [turns, step, on]

end Course

private theorem scan_course (sql lead : String) (close : Char) (n : Nat) :
    scan sql lead close n = .ended ((quotedAfter? sql lead close).map String.ofList) ∨
      2 * n ≤ sql.utf8ByteSize ∧ ∃ offset, scan sql lead close n = .again offset := by
  unfold scan quotedAfter?
  cases behind : Text.after? lead.toList sql.toList with
  | none => exact .inl rfl
  | some rest =>
    have start : String.ofList rest = "" ++ String.ofList rest := String.empty_append.symm
    have text : sql = lead ++ String.ofList rest := by
      apply String.toList_injective
      simpa using Text.eq_append_of_after? behind
    rcases turns_course close n start with ended | ⟨few, on⟩
    · left
      simpa using ended
    · right
      refine ⟨?_, on⟩
      rw [text, String.utf8ByteSize_append]
      omega

/-- The scan for what stands between a lead and the closing mark never slices at an offset that is
no position of the text, and once it has made more turns than half the bytes of the text it has
ended. It finds a body exactly if the text is the lead, that body, in which closing marks stand in
pairs, and a closing mark that no other one follows. There is at most one such body, and none is
found exactly if there is none. -/
theorem quotation_found_exactly (sql lead : String) (close : Char) :
    (∀ n, scan sql lead close n ≠ .fault) ∧
    (∀ n, sql.utf8ByteSize / 2 < n →
      scan sql lead close n = .ended ((quotedAfter? sql lead close).map String.ofList)) ∧
    (∀ body, quotedAfter? sql lead close = some body ↔ Quotation sql lead close body) ∧
    (∀ body body', Quotation sql lead close body → Quotation sql lead close body' →
      body = body') ∧
    (quotedAfter? sql lead close = none ↔ ¬ ∃ body, Quotation sql lead close body) := by
  refine ⟨?_, ?_, fun _ => quotedAfter?_eq_some_iff, ?_, ?_⟩
  · intro n fault
    rcases scan_course sql lead close n with ended | ⟨-, offset, on⟩
    · exact nomatch fault.symm.trans ended
    · exact nomatch fault.symm.trans on
  · intro n enough
    rcases scan_course sql lead close n with ended | ⟨few, -⟩
    · exact ended
    · omega
  · intro body body' first second
    have found := quotedAfter?_eq_some_iff.mpr first
    rw [quotedAfter?_eq_some_iff.mpr second] at found
    exact (Option.some.inj found).symm
  · rw [Option.eq_none_iff_forall_ne_some, not_exists]
    exact forall_congr' fun _ => not_congr quotedAfter?_eq_some_iff

/-- A character of two bytes and a doubled mark stand before the closing mark; without the closing
mark nothing is found. -/
theorem quotation_of_doubled_mark :
    let closed := "SHOW DATABASES LIKE 'é'''"
    let unclosed := "SHOW DATABASES LIKE 'é''"
    Quotation closed showLead '\x27' ['é', '\x27', '\x27'] ∧ closed.utf8ByteSize / 2 < 14 ∧
      scan closed showLead '\x27' 14 = .ended (some "é''") ∧
      scan unclosed showLead '\x27' 14 = .ended none ∧
      ¬ ∃ body, Quotation unclosed showLead '\x27' body := by
  intro closed unclosed
  have quotation : Quotation closed showLead '\x27' ['é', '\x27', '\x27'] :=
    ⟨.plain (by decide) (.pair .nil), [], by decide, by simp⟩
  obtain ⟨-, ends, finds, -, -⟩ := quotation_found_exactly closed showLead '\x27'
  obtain ⟨-, ends', -, -, misses⟩ := quotation_found_exactly unclosed showLead '\x27'
  have missed : quotedAfter? unclosed showLead '\x27' = none := by decide +kernel
  have found := ends 14 (by decide +kernel)
  rw [(finds _).mpr quotation] at found
  have lacking := ends' 14 (by decide +kernel)
  rw [missed] at lacking
  exact ⟨quotation, by decide +kernel, found, lacking, misses.mp missed⟩

end SchemaGate.MemoryServer
