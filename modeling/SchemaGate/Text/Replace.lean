/-!
Searching and replacing inside a text. A replacement goes from left to right, its occurrences do
not overlap, and what it inserts is not searched again.
-/

set_option autoImplicit false

namespace SchemaGate.Text

/-- What follows `lead` in a text that starts with it. -/
def after? : List Char → List Char → Option (List Char)
  | [], s => some s
  | _ :: _, [] => none
  | a :: lead, c :: s => if a = c then after? lead s else none

def startsWith (lead s : List Char) : Bool := (after? lead s).isSome

def contains (part : List Char) : List Char → Bool
  | [] => startsWith part []
  | c :: s => startsWith part (c :: s) || contains part s

/-- Replaces `old`, skipping first the characters that an occurrence before them has used up. -/
def replaceFrom (old new : List Char) : Nat → List Char → List Char
  | _, [] => []
  | n + 1, _ :: s => replaceFrom old new n s
  | 0, c :: s =>
    if startsWith old (c :: s) then new ++ replaceFrom old new (old.length - 1) s
    else c :: replaceFrom old new 0 s

def replaceAll (old new s : List Char) : List Char := replaceFrom old new 0 s

def doubled (q : Char) (s : List Char) : List Char :=
  s.flatMap fun c => if c = q then [q, q] else [c]

theorem after?_append (lead s : List Char) : after? lead (lead ++ s) = some s := by
  induction lead with
  | nil => rfl
  | cons a lead ih => simp [after?, ih]

theorem eq_append_of_after? {lead s r : List Char} (h : after? lead s = some r) :
    s = lead ++ r := by
  induction lead generalizing s with
  | nil => simp [after?] at h; exact h
  | cons a lead ih =>
    cases s with
    | nil => simp [after?] at h
    | cons c s =>
      simp only [after?] at h
      split at h
      · next hac => rw [ih h, hac]; rfl
      · simp at h

theorem after?_eq_some_iff {lead s r : List Char} : after? lead s = some r ↔ s = lead ++ r :=
  ⟨eq_append_of_after?, fun h => h ▸ after?_append lead r⟩

theorem startsWith_iff {lead s : List Char} : startsWith lead s = true ↔ ∃ r, s = lead ++ r := by
  simp only [startsWith, Option.isSome_iff_exists, after?_eq_some_iff]

theorem contains_iff {part s : List Char} : contains part s = true ↔ part <:+: s := by
  have start (s : List Char) : startsWith part s = true ↔ part <+: s := by
    rw [startsWith_iff]
    exact exists_congr fun r => eq_comm
  induction s with
  | nil => rw [contains, start, List.prefix_nil, List.infix_nil]
  | cons c s ih => simp only [contains, Bool.or_eq_true, start, ih, List.infix_cons_iff]

theorem replaceFrom_length (old new used s : List Char) :
    replaceFrom old new used.length (used ++ s) = replaceAll old new s := by
  induction used with
  | nil => rfl
  | cons c used ih => exact ih

theorem replaceAll_append {old : List Char} (new s : List Char) (nonempty : old ≠ []) :
    replaceAll old new (old ++ s) = new ++ replaceAll old new s := by
  cases old with
  | nil => exact (nonempty rfl).elim
  | cons a lead =>
    have start : startsWith (a :: lead) (a :: (lead ++ s)) = true := startsWith_iff.mpr ⟨s, rfl⟩
    rw [List.cons_append, replaceAll, replaceFrom, if_pos start]
    exact congrArg (new ++ ·) (replaceFrom_length (a :: lead) new lead s)

theorem replaceAll_cons {old s : List Char} {c : Char} (new : List Char)
    (other : ∀ r, c :: s ≠ old ++ r) : replaceAll old new (c :: s) = c :: replaceAll old new s := by
  have start : ¬ startsWith old (c :: s) = true := by
    rw [startsWith_iff]
    rintro ⟨r, h⟩
    exact other r h
  rw [replaceAll, replaceFrom, if_neg start]
  rfl

theorem replaceAll_append_of_none {old : List Char} (new kept s : List Char)
    (late : ∀ x y, kept ++ s = x ++ old ++ y → kept.length ≤ x.length) :
    replaceAll old new (kept ++ s) = kept ++ replaceAll old new s := by
  induction kept with
  | nil => rfl
  | cons c kept ih =>
    rw [List.cons_append, replaceAll_cons, ih, List.cons_append]
    · intro x y h
      have := late (c :: x) y (by rw [List.cons_append, h, List.cons_append, List.cons_append])
      simpa using this
    · intro r h
      have := late [] r (by simpa using h)
      simp at this

@[simp] theorem doubled_nil (q : Char) : doubled q [] = [] := rfl

theorem doubled_cons (q c : Char) (s : List Char) :
    doubled q (c :: s) = (if c = q then [q, q] else [c]) ++ doubled q s := rfl

end SchemaGate.Text
