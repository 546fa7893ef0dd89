import SchemaGate.Proofs.Occurrences
import SchemaGate.Proofs.Substitution
/-!
Stray placeholders. One that can be read in a partly filled text but is not written out in the
text's own characters is a stray. Replacing its variable everywhere replaces the stray as well, and
the outcome shows it: by its length, or by what stands in the stray's place.
-/

set_option autoImplicit false

namespace SchemaGate.Config.Placeholder

private theorem apart_write {name : List Char} (valid : IsName name) : Text.Apart (write name) where
  nonempty := by simp [write]
  late x y s h := by
    rcases write_apart valid valid h with ⟨none, -, -⟩ | late
    · exact .inl none
    · exact .inr late

theorem WrittenOut.append_of_late {name : List Char} {ps qs : List Piece}
    (late : ∀ x y, spell qs ++ spell ps = x ++ write name ++ y → (spell qs).length ≤ x.length)
    (clean : WrittenOut name ps) : WrittenOut name (qs ++ ps) := by
  intro x y h
  rw [spell_append] at h
  obtain ⟨z, rfl, rest⟩ :=
    Text.append_eq_of_late (h.trans (List.append_assoc x (write name) y)) (late x y h)
  obtain ⟨a, b, rfl, rfl⟩ := clean z y (rest.trans (List.append_assoc z (write name) y).symm)
  exact ⟨qs ++ a, b, by simp, spell_append qs a⟩

theorem WrittenOut.behind_placeholder {name m : List Char} {ps : List Piece} (valid : IsName name)
    (other : IsName m) (clean : WrittenOut name ps) : WrittenOut name (own (write m) ++ ps) := by
  intro x y h
  rw [spell_append, spell_own] at h
  rcases write_apart other valid h with ⟨rfl, rfl, -⟩ | late
  · exact ⟨[], ps, rfl, rfl⟩
  · obtain ⟨z, rfl, rest⟩ := Text.append_eq_of_late (h.trans (List.append_assoc ..)) late
    obtain ⟨a, b, rfl, rfl⟩ := clean z y (rest.trans (List.append_assoc ..).symm)
    exact ⟨own (write m) ++ a, b, by simp, by rw [spell_append, spell_own]⟩

section Stray

variable {name value : List Char} {ps qs : List Piece}

private theorem Fills.exists_spell_front (h : Fills name value ps qs) {u y : List Char}
    (noDollar : ∀ c ∈ u, c ≠ '$') (front : spell ps = u ++ y) : ∃ y', spell qs = u ++ y' := by
  induction h generalizing u y with
  | nil =>
    obtain ⟨rfl, -⟩ := List.append_eq_nil_iff.mp front.symm
    exact ⟨_, rfl⟩
  | @put v ps qs rest ih =>
    rw [spell_cons] at front ⊢
    rcases List.append_eq_append_iff.mp front with ⟨u', rfl, behind⟩ | ⟨z, split, -⟩
    · obtain ⟨y', kept⟩ := ih (fun c member => noDollar c (List.mem_append_right _ member)) behind
      exact ⟨y', by rw [kept, List.append_assoc]⟩
    · exact ⟨z ++ spell qs, by rw [split, List.append_assoc]⟩
  | fill rest ih =>
    rcases u with - | ⟨c, u⟩
    · exact ⟨_, rfl⟩
    · rw [spell_append, spell_own] at front
      exact (noDollar c List.mem_cons_self (List.cons_eq_cons.mp front).1.symm).elim
  | other valid differs rest ih =>
    rcases u with - | ⟨c, u⟩
    · exact ⟨_, rfl⟩
    · rw [spell_append, spell_own] at front
      exact (noDollar c List.mem_cons_self (List.cons_eq_cons.mp front).1.symm).elim
  | plain c unwritten rest ih =>
    rcases u with - | ⟨d, u⟩
    · exact ⟨_, rfl⟩
    · rw [spell_cons] at front ⊢
      obtain ⟨rfl, behind⟩ := List.cons_eq_cons.mp front
      obtain ⟨y', kept⟩ := ih (fun d member => noDollar d (List.mem_cons_of_mem c member)) behind
      exact ⟨y', by rw [kept]; rfl⟩

/-- The placeholder that stands behind `x` is written out in the pieces, or it stands in the filled
text too: behind as many characters, if its variable's value is as long as it is. -/
def OwnOrKept (name value : List Char) (ps : List Piece) (x filled : List Char) : Prop :=
  (∃ a b, ps = a ++ own (write name) ++ b ∧ spell a = x) ∨
    ∃ x' y', filled = x' ++ write name ++ y' ∧
      (value.length = (write name).length → x'.length = x.length)

private theorem OwnOrKept.behind {x front filled w : List Char} (spelled : spell qs = front)
    (lengths : value.length = (write name).length → w.length = front.length)
    (h : OwnOrKept name value ps x filled) :
    OwnOrKept name value (qs ++ ps) (front ++ x) (w ++ filled) := by
  subst spelled
  rcases h with ⟨a, b, rfl, rfl⟩ | ⟨x', y', rfl, same⟩
  · exact .inl ⟨qs ++ a, b, by simp, spell_append qs a⟩
  · refine .inr ⟨w ++ x', y', by simp, fun equal => ?_⟩
    rw [List.length_append, List.length_append, lengths equal, same equal]

private theorem Fills.own_or_kept (h : Fills name value ps qs) (valid : IsName name)
    {x y : List Char} (stands : spell ps = x ++ (write name ++ y)) :
    OwnOrKept name value ps x (spell qs) := by
  have noDollar := ne_dollar_of_mem_tail valid
  induction h generalizing x with
  | nil => simp [spell, write] at stands
  | @put v ps qs rest ih =>
    rw [spell_cons, Piece.chars] at stands
    rw [spell_cons, Piece.chars]
    rcases Nat.lt_or_ge x.length v.length with early | late
    · -- it starts inside the value; what of it stands behind the value has no dollar sign
      right
      obtain ⟨z, rfl, split⟩ := Text.append_eq_of_late stands.symm (Nat.le_of_lt early)
      rcases List.append_eq_append_iff.mp split with ⟨z₁, rfl, -⟩ | ⟨u, written, behind⟩
      · exact ⟨x, z₁ ++ spell qs, by simp, fun _ => rfl⟩
      · rcases z with - | ⟨d, z⟩
        · simp at early
        · have tail : '\x7b' :: name ++ ['\x7d'] = z ++ u := (List.cons_eq_cons.mp written).2
          obtain ⟨y', kept⟩ := rest.exists_spell_front
            (fun c member => noDollar c (tail ▸ List.mem_append_right z member)) behind
          exact ⟨x, y', by rw [kept, written]; simp, fun _ => rfl⟩
    · obtain ⟨x₁, rfl, behind⟩ := Text.append_eq_of_late stands late
      exact (ih behind).behind (spell_singleton (.put v)) fun _ => rfl
  | fill rest ih =>
    rw [spell_append, spell_own] at stands
    rcases write_apart valid valid (stands.trans (List.append_assoc ..).symm) with
      ⟨rfl, -, -⟩ | late
    · exact .inl ⟨[], _, rfl, rfl⟩
    · obtain ⟨x₁, rfl, behind⟩ := Text.append_eq_of_late stands late
      rw [spell_cons]
      exact (ih behind).behind (spell_own (write name)) fun equal => equal
  | @other m other differs ps qs rest ih =>
    rw [spell_append, spell_own] at stands ⊢
    rcases write_apart other valid (stands.trans (List.append_assoc ..).symm) with
      ⟨-, same, -⟩ | late
    · exact (differs same).elim
    · obtain ⟨x₁, rfl, behind⟩ := Text.append_eq_of_late stands late
      exact (ih behind).behind (spell_own (write m)) fun _ => rfl
  | plain c unwritten rest ih =>
    rw [spell_cons] at stands ⊢
    rcases x with - | ⟨d, x⟩
    · right
      obtain ⟨start, behind⟩ := List.cons_eq_cons.mp stands
      obtain ⟨y', kept⟩ := rest.exists_spell_front noDollar behind
      exact ⟨[], y', by rw [kept, start]; rfl, fun _ => rfl⟩
    · obtain ⟨rfl, behind⟩ := List.cons_eq_cons.mp stands
      exact (ih behind).behind (spell_singleton (.own c)) fun _ => rfl

/-- The filled text is as long as filling some of the placeholders that can be read makes it, and
these are all of them only if each is written out in the pieces. -/
def Counted (name value : List Char) (ps : List Piece) (filled : List Char) : Prop :=
  ∃ k, k ≤ Text.occurrences (write name) (spell ps) ∧
    filled.length + k * (write name).length = (spell ps).length + k * value.length ∧
    (k = Text.occurrences (write name) (spell ps) → WrittenOut name ps)

private theorem Counted.behind {filled front : List Char} (spelled : spell qs = front)
    (h : Counted name value ps filled) : Counted name value (qs ++ ps) (front ++ filled) := by
  subst spelled
  obtain ⟨k, least, lengths, all⟩ := h
  have more : Text.occurrences (write name) (spell ps) ≤
      Text.occurrences (write name) (spell qs ++ spell ps) := Text.occurrences_le_append ..
  refine ⟨k, ?_, ?_, fun equal => ?_⟩
  · rw [spell_append]
    omega
  · simp only [spell_append, List.length_append]
    omega
  · rw [spell_append] at equal
    exact WrittenOut.append_of_late (Text.late_of_occurrences_eq (by omega)) (all (by omega))

private theorem Counted.fill {filled : List Char} (valid : IsName name)
    (h : Counted name value ps filled) :
    Counted name value (own (write name) ++ ps) (value ++ filled) := by
  obtain ⟨k, least, lengths, all⟩ := h
  have more := (apart_write valid).occurrences_append (spell ps)
  refine ⟨k + 1, ?_, ?_, fun equal => ?_⟩
  · rw [spell_append, spell_own]
    omega
  · simp only [spell_append, spell_own, List.length_append, Nat.add_mul, Nat.one_mul]
    omega
  · rw [spell_append, spell_own] at equal
    exact (all (by omega)).behind_placeholder valid valid

private theorem Fills.counted (h : Fills name value ps qs) (valid : IsName name) :
    Counted name value ps (spell qs) := by
  induction h with
  | nil =>
    refine ⟨0, Nat.zero_le _, by simp, fun _ x y stands => ?_⟩
    simp [spell, write] at stands
  | put v rest ih => exact ih.behind (spell_singleton (.put v))
  | fill rest ih => exact ih.fill valid
  | other other differs rest ih =>
    rw [spell_append]
    exact ih.behind rfl
  | plain c unwritten rest ih => exact ih.behind (spell_singleton (.own c))

private theorem Fills.writtenOut (h : Fills name value ps qs) (valid : IsName name)
    (changes : value ≠ write name)
    (agrees : Text.replaceAll (write name) value (spell ps) = spell qs) :
    WrittenOut name ps := by
  have apart := apart_write valid
  by_cases equal : value.length = (write name).length
  · -- the stray stays in the filled text, and the value stands in its place in the replaced one
    intro x y stray
    rcases h.own_or_kept valid (stray.trans (List.append_assoc ..)) with
      own | ⟨x₂, y₂, kept, place₂⟩
    · exact own
    · obtain ⟨x₁, y₁, replaced, place₁⟩ := @Text.Apart.exists_replaceAll_eq _ value apart x y
      rw [stray, replaced, kept, List.append_assoc, List.append_assoc] at agrees
      have behind := (List.append_inj agrees ((place₁ equal).trans (place₂ equal).symm)).2
      exact absurd (List.append_inj behind equal).1 changes
  · -- each stray makes the replaced text longer, or each makes it shorter
    obtain ⟨k, least, lengths, all⟩ := h.counted valid
    have every := apart.replaceAll_length value (spell ps)
    rw [agrees] at every
    refine all (Nat.le_antisymm least (Nat.not_lt.mp fun fewer => equal ?_))
    obtain ⟨d, many⟩ := Nat.exists_eq_add_of_lt fewer
    rw [many] at every
    simp only [Nat.add_mul, Nat.one_mul] at every
    have scaled : (d + 1) * value.length = (d + 1) * (write name).length := by
      simp only [Nat.add_mul, Nat.one_mul]
      omega
    exact Nat.eq_of_mul_eq_mul_left (Nat.succ_pos d) scaled

private theorem Fills.spell_eq_of_write (h : Fills name (write name) ps qs) :
    spell qs = spell ps := by
  induction h with
  | nil => rfl
  | put v rest ih => rw [spell_cons, spell_cons, ih]
  | fill rest ih => rw [spell_cons, spell_append, spell_own, ih, Piece.chars]
  | other valid differs rest ih => rw [spell_append, spell_append, ih]
  | plain c unwritten rest ih => rw [spell_cons, spell_cons, ih]

/-- Replacing a variable everywhere is filling its placeholders exactly when each one that can be
read is written out, or the replacement changes nothing. -/
theorem Fills.replaceAll_spell_iff (h : Fills name value ps qs) (valid : IsName name) :
    Text.replaceAll (write name) value (spell ps) = spell qs ↔
      (value ≠ write name → WrittenOut name ps) := by
  constructor
  · intro agrees changes
    exact h.writtenOut valid changes agrees
  · intro clean
    by_cases itself : value = write name
    · subst itself
      rw [Text.replaceAll_self (apart_write valid).nonempty, h.spell_eq_of_write]
    · exact h.replaceAll_spell valid (clean itself)

end Stray

end SchemaGate.Config.Placeholder
