import Mathlib.Data.List.TakeWhile
import SchemaGate.Config.Placeholder
/-!
Reading placeholders. A placeholder is read back exactly where it is written, two of them never
overlap, and every text is a row of placeholders and of characters at which none starts. So what a
text says about its placeholders can be proved one placeholder at a time.
-/

set_option autoImplicit false

namespace SchemaGate.Config.Placeholder

/-- A name that a placeholder may hold: a capital letter or an underscore, then more of these and
digits. -/
def IsName (name : List Char) : Prop :=
  ∃ c rest, name = c :: rest ∧ startsName c = true ∧ ∀ d ∈ rest, inName d = true

private theorem inName_of_startsName {c : Char} (h : startsName c = true) : inName c = true := by
  simp [inName, h]

theorem IsName.all {name : List Char} (valid : IsName name) : ∀ c ∈ name, inName c = true := by
  obtain ⟨c, rest, rfl, start, more⟩ := valid
  intro d member
  rcases List.mem_cons.mp member with rfl | member
  · exact inName_of_startsName start
  · exact more d member

theorem ne_dollar_of_mem_tail {name : List Char} (valid : IsName name) :
    ∀ c ∈ '\x7b' :: name ++ ['\x7d'], c ≠ '$' := by
  intro c member
  simp only [List.cons_append, List.mem_cons, List.mem_append, List.not_mem_nil, or_false] at member
  rcases member with rfl | member | rfl
  · decide
  · rintro rfl
    exact absurd (valid.all _ member) (by decide)
  · decide

private theorem takeWhile_name {name : List Char} (valid : ∀ c ∈ name, inName c = true)
    (s : List Char) :
    (name ++ '\x7d' :: s).takeWhile inName = name ∧
      (name ++ '\x7d' :: s).dropWhile inName = '\x7d' :: s := by
  have closed : inName '\x7d' = false := by decide
  constructor
  · rw [List.takeWhile_append_of_pos valid, List.takeWhile_cons_of_neg (by simp [closed]),
      List.append_nil]
  · rw [List.dropWhile_append_of_pos valid, List.dropWhile_cons_of_neg (by simp [closed])]

theorem read?_write {name : List Char} (valid : IsName name) (s : List Char) :
    read? (write name ++ s) = some name := by
  obtain ⟨take, drop⟩ := takeWhile_name valid.all s
  obtain ⟨c, rest, rfl, start, more⟩ := valid
  simp only [write, read?, List.cons_append, List.append_assoc, List.nil_append] at take drop ⊢
  simp [take, drop, start]

private theorem eq_write_of_read? {s name : List Char} (h : read? s = some name) :
    IsName name ∧ ∃ r, s = write name ++ r := by
  unfold read? at h
  split at h
  · next r =>
    dsimp only at h
    split at h
    · next shape =>
      obtain rfl := Option.some.inj h
      simp only [Bool.and_eq_true, beq_iff_eq] at shape
      obtain ⟨start, close⟩ := shape
      obtain ⟨tail, rest⟩ : ∃ tail, r.dropWhile inName = '\x7d' :: tail :=
        List.head?_eq_some_iff.mp close
      refine ⟨?_, tail, ?_⟩
      · cases taken : r.takeWhile inName with
        | nil => simp [taken] at start
        | cons c more =>
          refine ⟨c, more, rfl, by simpa [taken] using start, fun d member => ?_⟩
          have inside : d ∈ r.takeWhile inName := taken ▸ List.mem_cons_of_mem c member
          exact List.mem_takeWhile_imp inside
      · have whole : r = r.takeWhile inName ++ '\x7d' :: tail := by
          rw [← rest, List.takeWhile_append_dropWhile]
        simp only [write, List.cons_append, List.append_assoc, List.nil_append]
        rw [← whole]
    · simp at h
  · simp at h

private theorem read?_eq_some_iff {s name : List Char} :
    read? s = some name ↔ IsName name ∧ ∃ r, s = write name ++ r := by
  refine ⟨eq_write_of_read?, ?_⟩
  rintro ⟨valid, r, rfl⟩
  exact read?_write valid r

theorem read?_of_ne_dollar {c : Char} (s : List Char) (h : c ≠ '$') : read? (c :: s) = none := by
  rw [Option.eq_none_iff_forall_ne_some]
  intro name read
  obtain ⟨-, r, written⟩ := read?_eq_some_iff.mp read
  exact h (List.cons_eq_cons.mp written).1

/-- Where one placeholder is written no other one starts before it ends. -/
theorem write_apart {m n x y s : List Char} (first : IsName m) (second : IsName n)
    (h : write m ++ s = x ++ write n ++ y) :
    x = [] ∧ m = n ∧ s = y ∨ (write m).length ≤ x.length := by
  rcases x with - | ⟨c, x⟩
  · left
    have same : some m = some n := by
      rw [← read?_write first s, h, List.nil_append, read?_write second y]
    obtain rfl := Option.some.inj same
    rw [List.nil_append, List.append_cancel_left_eq] at h
    exact ⟨rfl, rfl, h⟩
  · right
    have tail : ('{' :: m ++ ['}']) ++ s = x ++ ('$' :: ('{' :: n ++ ['}']) ++ y) := by
      have := (List.cons_eq_cons.mp h).2
      simpa [write] using this
    have long : ('{' :: m ++ ['}']).length ≤ x.length := by
      by_contra short
      -- the dollar sign of the second placeholder would stand inside the first
      rw [List.append_eq_append_iff] at tail
      rcases tail with ⟨between, rfl, -⟩ | ⟨between, inside, rest⟩
      · simp at short
      · rcases between with - | ⟨d, between⟩
        · rw [inside] at short
          simp at short
        · have dollar : d = '$' := (List.cons_eq_cons.mp rest).1.symm
          refine ne_dollar_of_mem_tail first d ?_ dollar
          rw [inside]
          simp
    simpa [write] using long

/-- A text is empty, or a placeholder and a text, or a character at which no placeholder starts and
a text. -/
@[elab_as_elim]
theorem text_induction {P : List Char → Prop} (nil : P [])
    (placeholder : ∀ name s, IsName name → P s → P (write name ++ s))
    (plain : ∀ c s, read? (c :: s) = none → P s → P (c :: s)) (s : List Char) : P s := by
  match s with
  | [] => exact nil
  | c :: s =>
    cases h : read? (c :: s) with
    | none => exact plain c s h (text_induction nil placeholder plain s)
    | some name =>
      obtain ⟨valid, r, written⟩ := read?_eq_some_iff.mp h
      rw [written]
      exact placeholder name r valid (text_induction nil placeholder plain r)
termination_by s.length
decreasing_by
  · simp
  · have := congrArg List.length written
    simp only [List.length_append, write, List.length_cons] at this ⊢
    omega

theorem names_of_plain {c : Char} {s : List Char} (h : read? (c :: s) = none) :
    names (c :: s) = names s := by
  simp [names, h]

private theorem names_append_of_ne_dollar {w : List Char} (h : ∀ c ∈ w, c ≠ '$') (s : List Char) :
    names (w ++ s) = names s := by
  induction w with
  | nil => rfl
  | cons c w ih =>
    rw [List.cons_append, names_of_plain (read?_of_ne_dollar _ (h c List.mem_cons_self))]
    exact ih fun d member => h d (List.mem_cons_of_mem c member)

theorem names_write {name : List Char} (valid : IsName name) (s : List Char) :
    names (write name ++ s) = name :: names s := by
  have read := read?_write valid s
  rw [write, List.cons_append, List.cons_append, List.append_assoc] at read ⊢
  rw [names, read]
  have behind := names_append_of_ne_dollar (ne_dollar_of_mem_tail valid) s
  exact congrArg (name :: ·) (by simpa using behind)

theorem isName_of_mem_names {name s : List Char} (h : name ∈ names s) : IsName name := by
  induction s using text_induction with
  | nil => simp [names] at h
  | placeholder m s valid ih =>
    rw [names_write valid, List.mem_cons] at h
    rcases h with rfl | h
    · exact valid
    · exact ih h
  | plain c s unread ih =>
    rw [names_of_plain unread] at h
    exact ih h

end SchemaGate.Config.Placeholder
