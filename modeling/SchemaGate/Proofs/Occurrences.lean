import Mathlib.Data.List.Infix
import SchemaGate.Text.Replace
/-!
Counting and placing occurrences. When two occurrences of a text never overlap, every one of them is
replaced, so the length of the outcome tells how many there were, and each one has its place in it.
-/

set_option autoImplicit false

namespace SchemaGate.Text

/-- What ends no later than another front of the same text is the front of that front. -/
theorem append_eq_of_late {w s x y : List Char} (h : w ++ s = x ++ y)
    (late : w.length ≤ x.length) : ∃ z, x = w ++ z ∧ s = z ++ y := by
  obtain ⟨z, rfl⟩ :=
    List.prefix_of_prefix_length_le (List.prefix_append w s) (h ▸ List.prefix_append x y) late
  exact ⟨z, rfl, by simpa using h⟩

/-- Two occurrences of the text never overlap. -/
structure Apart (old : List Char) : Prop where
  nonempty : old ≠ []
  late : ∀ x y s, old ++ s = x ++ old ++ y → x = [] ∨ old.length ≤ x.length

def occurrences (old s : List Char) : Nat := s.tails.countP (startsWith old)

section Counting

variable {old : List Char}

private theorem occurrences_cons (c : Char) (s : List Char) :
    occurrences old (c :: s) =
      occurrences old s + if startsWith old (c :: s) = true then 1 else 0 := by
  rw [occurrences, List.tails_cons, List.countP_cons]
  rfl

theorem occurrences_le_append (kept s : List Char) :
    occurrences old s ≤ occurrences old (kept ++ s) := by
  induction kept with
  | nil => exact Nat.le_refl _
  | cons c kept ih =>
    rw [List.cons_append, occurrences_cons]
    omega

theorem late_of_occurrences_eq {kept s : List Char}
    (same : occurrences old (kept ++ s) = occurrences old s) :
    ∀ x y, kept ++ s = x ++ old ++ y → kept.length ≤ x.length := by
  induction kept with
  | nil => simp
  | cons c kept ih =>
    have fewer : occurrences old s ≤ occurrences old (kept ++ s) := occurrences_le_append kept s
    rw [List.cons_append, occurrences_cons] at same
    intro x y h
    rcases x with - | ⟨d, x⟩
    · have start : startsWith old (c :: (kept ++ s)) = true :=
        startsWith_iff.mpr ⟨y, by simpa using h⟩
      rw [if_pos start] at same
      omega
    · have behind := ih (by omega) x y (List.cons_eq_cons.mp h).2
      simpa using behind

private theorem occurrences_append_of_late {kept s : List Char}
    (late : ∀ x y, kept ++ s = x ++ old ++ y → kept.length ≤ x.length) :
    occurrences old (kept ++ s) = occurrences old s := by
  induction kept with
  | nil => rfl
  | cons c kept ih =>
    have start : ¬ startsWith old (c :: (kept ++ s)) = true := by
      rw [startsWith_iff]
      rintro ⟨r, h⟩
      have := late [] r (by simpa using h)
      simp at this
    rw [List.cons_append, occurrences_cons, if_neg start, Nat.add_zero]
    refine ih fun x y h => ?_
    have := late (c :: x) y (by rw [List.cons_append, h, List.cons_append, List.cons_append])
    simpa using this

theorem Apart.occurrences_append (apart : Apart old) (s : List Char) :
    occurrences old (old ++ s) = occurrences old s + 1 := by
  obtain ⟨c, lead, rfl⟩ := List.exists_cons_of_ne_nil apart.nonempty
  have start : startsWith (c :: lead) (c :: (lead ++ s)) = true := startsWith_iff.mpr ⟨s, rfl⟩
  have behind : occurrences (c :: lead) (lead ++ s) = occurrences (c :: lead) s := by
    refine occurrences_append_of_late fun x y h => ?_
    rcases apart.late (c :: x) y s (by rw [List.cons_append, h]; simp) with none | late
    · simp at none
    · simpa using late
  rw [List.cons_append, occurrences_cons, if_pos start, behind]

end Counting

/-- A text is empty, or an occurrence and a text, or a character at which no occurrence starts and a
text. -/
@[elab_as_elim]
private theorem occurrence_induction {old : List Char} (nonempty : old ≠ []) {P : List Char → Prop}
    (nil : P []) (found : ∀ s, P s → P (old ++ s))
    (other : ∀ c s, (∀ r, c :: s ≠ old ++ r) → P s → P (c :: s)) (s : List Char) : P s := by
  match s with
  | [] => exact nil
  | c :: s =>
    by_cases h : ∃ r, c :: s = old ++ r
    · obtain ⟨r, start⟩ := h
      rw [start]
      exact found r (occurrence_induction nonempty nil found other r)
    · have unlike : ∀ r, c :: s ≠ old ++ r := fun r start => h ⟨r, start⟩
      exact other c s unlike (occurrence_induction nonempty nil found other s)
termination_by s.length
decreasing_by
  · have lengths := congrArg List.length start
    have := List.length_pos_iff.mpr nonempty
    simp only [List.length_append] at lengths
    omega
  · simp

section Replacing

variable {old : List Char} (new : List Char)

theorem replaceAll_self (nonempty : old ≠ []) (s : List Char) : replaceAll old old s = s := by
  induction s using occurrence_induction nonempty with
  | nil => rfl
  | found s ih => rw [replaceAll_append _ _ nonempty, ih]
  | other c s unlike ih => rw [replaceAll_cons _ unlike, ih]

theorem Apart.replaceAll_length (apart : Apart old) (s : List Char) :
    (replaceAll old new s).length + occurrences old s * old.length =
      s.length + occurrences old s * new.length := by
  induction s using occurrence_induction apart.nonempty with
  | nil =>
    have start : ¬ startsWith old [] = true := by simp [startsWith_iff, apart.nonempty]
    simp [replaceAll, replaceFrom, occurrences, start]
  | found s ih =>
    rw [replaceAll_append _ _ apart.nonempty, apart.occurrences_append]
    simp only [List.length_append, Nat.add_mul, Nat.one_mul]
    omega
  | other c s unlike ih =>
    have start : ¬ startsWith old (c :: s) = true := by
      rw [startsWith_iff]
      rintro ⟨r, h⟩
      exact unlike r h
    rw [replaceAll_cons _ unlike, occurrences_cons, if_neg start]
    simp only [List.length_cons, Nat.add_zero]
    omega

theorem Apart.exists_replaceAll_eq (apart : Apart old) {x y : List Char} :
    ∃ x' y', replaceAll old new (x ++ old ++ y) = x' ++ new ++ y' ∧
      (new.length = old.length → x'.length = x.length) := by
  generalize h : x ++ old ++ y = s
  induction s using occurrence_induction apart.nonempty generalizing x with
  | nil => simp [apart.nonempty] at h
  | found s ih =>
    rw [replaceAll_append _ _ apart.nonempty]
    rcases apart.late x y s h.symm with rfl | late
    · exact ⟨[], _, rfl, fun _ => rfl⟩
    · -- the occurrence lies behind the one at the front
      obtain ⟨z, rfl, rest⟩ := append_eq_of_late (h.symm.trans (List.append_assoc x old y)) late
      obtain ⟨x', y', place, lengths⟩ := ih ((List.append_assoc z old y).trans rest.symm)
      refine ⟨new ++ x', y', by rw [place]; simp, fun same => ?_⟩
      simp only [List.length_append, lengths same, same]
  | other c s unlike ih =>
    rw [replaceAll_cons _ unlike]
    rcases x with - | ⟨d, x⟩
    · exact (unlike y (by simpa using h.symm)).elim
    · obtain ⟨x', y', place, lengths⟩ := ih (List.cons_eq_cons.mp h).2
      exact ⟨c :: x', y', by rw [place]; rfl, fun same => congrArg (· + 1) (lengths same)⟩

end Replacing

end SchemaGate.Text
