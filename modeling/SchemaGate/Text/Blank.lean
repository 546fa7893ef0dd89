/-!
Blank characters and trimming. Blank are the characters of the White_Space property, so a text is
trimmed of no-break and ideographic spaces as well as of spaces, tabs and line ends.
-/

set_option autoImplicit false

namespace SchemaGate.Text

/-- The White_Space property. -/
def isBlank (c : Char) : Bool :=
  let n := c.toNat
  (9 ≤ n && n ≤ 13) || n == 0x20 || n == 0x85 || n == 0xA0 || n == 0x1680 ||
    (0x2000 ≤ n && n ≤ 0x200A) || n == 0x2028 || n == 0x2029 || n == 0x202F || n == 0x205F ||
    n == 0x3000

def trimStart (s : List Char) : List Char := s.dropWhile isBlank

def trimEnd (s : List Char) : List Char := (s.reverse.dropWhile isBlank).reverse

def trim (s : List Char) : List Char := trimEnd (trimStart s)

theorem not_isBlank_of_isDigit {c : Char} (h : c.isDigit = true) : isBlank c = false := by
  have range : 48 ≤ c.toNat ∧ c.toNat ≤ 57 := by
    simpa [Char.isDigit, Char.le_def, UInt32.le_iff_toNat_le] using h
  simp only [isBlank, Bool.or_eq_false_iff, Bool.and_eq_false_iff, decide_eq_false_iff_not,
    beq_eq_false_iff_ne]
  omega

theorem mem_trim {c : Char} {s : List Char} (solid : isBlank c = false) (h : c ∈ s) :
    c ∈ trim s := by
  have kept (t : List Char) (member : c ∈ t) : c ∈ t.dropWhile isBlank := by
    induction t with
    | nil => exact nomatch member
    | cons d t ih =>
      by_cases blank : isBlank d = true
      · rw [List.dropWhile_cons_of_pos blank]
        rcases List.mem_cons.mp member with rfl | member
        · rw [solid] at blank
          exact nomatch blank
        · exact ih member
      · rw [List.dropWhile_cons_of_neg blank]
        exact member
  have front : c ∈ trimStart s := kept s h
  have back : c ∈ (trimStart s).reverse.dropWhile isBlank := kept _ (List.mem_reverse.mpr front)
  exact List.mem_reverse.mpr back

theorem trim_of_no_blank {s : List Char} (h : ∀ c ∈ s, isBlank c = false) : trim s = s := by
  have kept (t : List Char) (solid : ∀ c ∈ t, isBlank c = false) : t.dropWhile isBlank = t := by
    cases t with
    | nil => rfl
    | cons c t =>
      have first : ¬ isBlank c = true := Bool.eq_false_iff.mp (solid c List.mem_cons_self)
      exact List.dropWhile_cons_of_neg first
  have back : s.reverse.dropWhile isBlank = s.reverse :=
    kept s.reverse fun c member => h c (List.mem_reverse.mp member)
  rw [trim, trimStart, kept s h, trimEnd, back, List.reverse_reverse]

end SchemaGate.Text
