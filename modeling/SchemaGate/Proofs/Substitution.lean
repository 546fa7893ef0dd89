import SchemaGate.Proofs.Placeholders
/-!
Substitution at once and substitution one variable after the other. The simultaneous reading of a
text puts the value of each set variable where its placeholder stands and keeps everything else.
Replacing one variable everywhere in the text so far agrees with it as long as each placeholder that
can be read is written out in characters of the text itself, for a value may contain a placeholder
or complete one. Main statement: this condition is exact.
-/

set_option autoImplicit false

namespace SchemaGate.Config.Placeholder

/-- A part of a text whose placeholders are being filled: one of its own characters, or a value put
in for a placeholder. -/
inductive Piece where
  | own (c : Char)
  | put (value : List Char)

def Piece.chars : Piece → List Char
  | own c => [c]
  | put value => value

def spell (ps : List Piece) : List Char := ps.flatMap Piece.chars

def own (s : List Char) : List Piece := s.map .own

/-- Puts in the value of every placeholder whose variable is looked up, skipping first the
characters that a placeholder before them has used up. -/
def cutFrom (lookup : List Char → Option (List Char)) : Nat → List Char → List Piece
  | _, [] => []
  | n + 1, _ :: s => cutFrom lookup n s
  | 0, c :: s =>
    match (read? (c :: s)).bind fun name => (lookup name).map fun value => (name, value) with
    | some (name, value) => .put value :: cutFrom lookup (name.length + 2) s
    | none => .own c :: cutFrom lookup 0 s

/-- A text with the placeholders of the variables looked up filled all at once. -/
def cut (lookup : List Char → Option (List Char)) (s : List Char) : List Piece := cutFrom lookup 0 s

section Cut

variable (lookup : List Char → Option (List Char))

private theorem cutFrom_length (used s : List Char) :
    cutFrom lookup used.length (used ++ s) = cut lookup s := by
  induction used with
  | nil => rfl
  | cons c used ih => exact ih

theorem cut_plain {c : Char} {s : List Char} (unread : read? (c :: s) = none) :
    cut lookup (c :: s) = .own c :: cut lookup s := by
  simp [cut, cutFrom, unread]

private theorem cut_append_of_ne_dollar {w : List Char} (h : ∀ c ∈ w, c ≠ '$') (s : List Char) :
    cut lookup (w ++ s) = own w ++ cut lookup s := by
  induction w with
  | nil => rfl
  | cons c w ih =>
    rw [List.cons_append, cut_plain lookup (read?_of_ne_dollar _ (h c List.mem_cons_self)),
      ih fun d member => h d (List.mem_cons_of_mem c member)]
    rfl

variable {lookup} {name value : List Char}

theorem cut_known (valid : IsName name) (known : lookup name = some value) (s : List Char) :
    cut lookup (write name ++ s) = .put value :: cut lookup s := by
  have read := read?_write valid s
  have used := cutFrom_length lookup ('\x7b' :: name ++ ['\x7d']) s
  simp only [write, List.cons_append, cut] at read used ⊢
  rw [cutFrom, read, Option.bind_some, known]
  simpa using used

theorem cut_unknown (valid : IsName name) (unknown : lookup name = none) (s : List Char) :
    cut lookup (write name ++ s) = own (write name) ++ cut lookup s := by
  have read := read?_write valid s
  have rest := cut_append_of_ne_dollar lookup (ne_dollar_of_mem_tail valid) s
  simp only [write, List.cons_append, cut, own, List.map_cons] at read rest ⊢
  rw [cutFrom, read, Option.bind_some, unknown]
  exact congrArg (Piece.own '$' :: ·) rest

end Cut

theorem spell_cons (p : Piece) (ps : List Piece) : spell (p :: ps) = p.chars ++ spell ps :=
  List.flatMap_cons

theorem spell_singleton (p : Piece) : spell [p] = p.chars := List.append_nil _

theorem spell_append (ps qs : List Piece) : spell (ps ++ qs) = spell ps ++ spell qs :=
  List.flatMap_append

@[simp] theorem spell_own (s : List Char) : spell (own s) = s := by
  induction s with
  | nil => rfl
  | cons c s ih => exact congrArg (c :: ·) ih

theorem cut_congr {lookup lookup' : List Char → Option (List Char)} {s : List Char}
    (same : ∀ m ∈ names s, lookup m = lookup' m) : cut lookup s = cut lookup' s := by
  induction s using text_induction with
  | nil => rfl
  | placeholder m s valid ih =>
    rw [names_write valid] at same
    have rest := ih fun n member => same n (List.mem_cons_of_mem m member)
    have here : lookup m = lookup' m := same m List.mem_cons_self
    cases known : lookup m with
    | some v => rw [cut_known valid known, cut_known valid (here ▸ known), rest]
    | none => rw [cut_unknown valid known, cut_unknown valid (here ▸ known), rest]
  | plain c s unread ih =>
    rw [names_of_plain unread] at same
    rw [cut_plain lookup unread, cut_plain lookup' unread, ih same]

theorem spell_cut_none (s : List Char) : spell (cut (fun _ => none) s) = s := by
  induction s using text_induction with
  | nil => rfl
  | placeholder m s valid ih => rw [cut_unknown valid rfl, spell_append, spell_own, ih]
  | plain c s unread ih =>
    rw [cut_plain _ unread, spell_cons, ih]
    rfl

private theorem eq_append_of_cut_eq_own {lookup : List Char → Option (List Char)} {s w : List Char}
    {ps : List Piece} (h : cut lookup s = own w ++ ps) : ∃ r, s = w ++ r := by
  induction w generalizing s with
  | nil => exact ⟨s, rfl⟩
  | cons c w ih =>
    cases s with
    | nil => simp [cut, cutFrom, own] at h
    | cons d s =>
      simp only [cut, cutFrom, own, List.map_cons, List.cons_append] at h
      split at h
      · simp at h
      · obtain ⟨same, rest⟩ := List.cons_eq_cons.mp h
        obtain rfl := Piece.own.inj same
        obtain ⟨r, rfl⟩ := ih rest
        exact ⟨r, rfl⟩

/-- Every placeholder of the variable that can be read in a filled text is written out in the text's
own characters. -/
def WrittenOut (name : List Char) (ps : List Piece) : Prop :=
  ∀ x y, spell ps = x ++ write name ++ y → ∃ a b, ps = a ++ own (write name) ++ b ∧ spell a = x

def extend (lookup : List Char → Option (List Char)) (name value : List Char) :
    List Char → Option (List Char) :=
  fun m => if m = name then some value else lookup m

section WrittenOut

variable {name : List Char} {p : Piece} {ps qs : List Piece}

private theorem not_own_of_spell_eq_nil {c : Char} (h : spell (.own c :: ps) = []) : False := by
  simp [spell_cons, Piece.chars] at h

private theorem WrittenOut.of_append (clean : WrittenOut name (qs ++ ps)) : WrittenOut name ps := by
  intro x y h
  obtain ⟨a, b, split, same⟩ := clean (spell qs ++ x) y (by rw [spell_append, h]; simp)
  rw [List.append_assoc, List.append_eq_append_iff] at split
  rcases split with ⟨a', rfl, rest⟩ | ⟨z, rfl, rest⟩
  · rw [spell_append, List.append_cancel_left_eq] at same
    exact ⟨a', b, by rw [rest, List.append_assoc], same⟩
  · -- the pieces skipped end in the placeholder's own characters only if there are none of these
    rw [spell_append] at same
    have lengths := congrArg List.length same
    simp only [List.length_append] at lengths
    have empty : spell z = [] := List.length_eq_zero_iff.mp (by omega)
    have none : x = [] := List.length_eq_zero_iff.mp (by omega)
    rcases z with - | ⟨q, z⟩
    · exact ⟨[], b, by simpa using rest.symm, none.symm⟩
    · simp only [write, own, List.map_cons, List.cons_append] at rest
      obtain ⟨rfl, -⟩ := List.cons_eq_cons.mp rest
      exact (not_own_of_spell_eq_nil empty).elim

private theorem WrittenOut.of_cons (clean : WrittenOut name (p :: ps)) : WrittenOut name ps :=
  @WrittenOut.of_append name ps [p] clean

private theorem WrittenOut.late {value : List Char} (clean : WrittenOut name (.put value :: ps))
    {x y : List Char} (h : value ++ spell ps = x ++ write name ++ y) :
    value.length ≤ x.length := by
  obtain ⟨a, b, split, rfl⟩ := clean x y (by rw [spell_cons, Piece.chars, h])
  rcases a with - | ⟨q, a⟩
  · simp [write, own] at split
  · obtain ⟨rfl, -⟩ := List.cons_eq_cons.mp split
    simp [spell_cons, Piece.chars]

private theorem WrittenOut.own_start {c : Char} (clean : WrittenOut name (.own c :: ps))
    {y : List Char}
    (h : c :: spell ps = write name ++ y) : ∃ b, .own c :: ps = own (write name) ++ b := by
  have start : spell (.own c :: ps) = [] ++ write name ++ y := h
  obtain ⟨a, b, split, same⟩ := clean [] y start
  rcases a with - | ⟨q, a⟩
  · exact ⟨b, split⟩
  · obtain ⟨rfl, -⟩ := List.cons_eq_cons.mp split
    exact (not_own_of_spell_eq_nil same).elim

end WrittenOut

section Step

variable {lookup : List Char → Option (List Char)} {name value : List Char}

theorem extend_self : extend lookup name value name = some value := if_pos rfl

theorem extend_other {m : List Char} (h : m ≠ name) : extend lookup name value m = lookup m :=
  if_neg h

private theorem extend_known (unchanged : ∀ v, lookup name = some v → v = value) {m v : List Char}
    (known : lookup m = some v) : extend lookup name value m = some v := by
  by_cases same : m = name
  · subst same
    rw [extend_self, unchanged v known]
  · rw [extend_other same, known]

/-- Pieces in which the placeholders of one more variable are filled wherever they are written
out. -/
inductive Fills (name value : List Char) : List Piece → List Piece → Prop where
  | nil : Fills name value [] []
  | put (v : List Char) {ps qs : List Piece} (rest : Fills name value ps qs) :
      Fills name value (.put v :: ps) (.put v :: qs)
  | fill {ps qs : List Piece} (rest : Fills name value ps qs) :
      Fills name value (own (write name) ++ ps) (.put value :: qs)
  | other {m : List Char} (valid : IsName m) (differs : m ≠ name) {ps qs : List Piece}
      (rest : Fills name value ps qs) :
      Fills name value (own (write m) ++ ps) (own (write m) ++ qs)
  | plain (c : Char) {ps qs : List Piece} (unwritten : ∀ b, .own c :: ps ≠ own (write name) ++ b)
      (rest : Fills name value ps qs) : Fills name value (.own c :: ps) (.own c :: qs)

theorem fills_cut (valid : IsName name) (unchanged : ∀ v, lookup name = some v → v = value)
    (s : List Char) : Fills name value (cut lookup s) (cut (extend lookup name value) s) := by
  induction s using text_induction with
  | nil => exact .nil
  | placeholder m s other ih =>
    cases known : lookup m with
    | some v =>
      rw [cut_known other known, cut_known other (extend_known unchanged known)]
      exact .put v ih
    | none =>
      rw [cut_unknown other known]
      by_cases same : m = name
      · subst same
        rw [cut_known other extend_self]
        exact .fill ih
      · rw [cut_unknown other ((extend_other same).trans known)]
        exact .other other same ih
  | plain c s unread ih =>
    rw [cut_plain lookup unread, cut_plain _ unread]
    refine .plain c (fun b written => ?_) ih
    rw [← cut_plain lookup unread] at written
    obtain ⟨tail, start⟩ := eq_append_of_cut_eq_own written
    rw [start, read?_write valid] at unread
    simp at unread

/-- Replacing a variable everywhere is filling its placeholders, as long as each one that can be
read is written out in the pieces. -/
theorem Fills.replaceAll_spell {ps qs : List Piece} (h : Fills name value ps qs)
    (valid : IsName name) (clean : WrittenOut name ps) :
    Text.replaceAll (write name) value (spell ps) = spell qs := by
  induction h with
  | nil => rfl
  | put v rest ih =>
    rw [spell_cons, spell_cons, ← ih clean.of_cons]
    exact Text.replaceAll_append_of_none value v _ fun x y h => clean.late h
  | fill rest ih =>
    rw [spell_append, spell_own, spell_cons, ← ih clean.of_append]
    exact Text.replaceAll_append value _ (by simp [write])
  | @other m other differs ps qs rest ih =>
    rw [spell_append, spell_append, spell_own, ← ih clean.of_append]
    refine Text.replaceAll_append_of_none value (write m) _ fun x y h => ?_
    rcases write_apart other valid h with ⟨-, same, -⟩ | late
    · exact (differs same).elim
    · exact late
  | plain c unwritten rest ih =>
    rw [spell_cons, spell_cons, ← ih clean.of_cons]
    refine Text.replaceAll_cons value fun r h => ?_
    obtain ⟨b, written⟩ := clean.own_start h
    exact unwritten b written

end Step

end SchemaGate.Config.Placeholder
