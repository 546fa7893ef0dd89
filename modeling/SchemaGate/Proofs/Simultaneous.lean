import Mathlib.Data.List.Induction
import SchemaGate.Proofs.Strays
/-!
Substitution and the placeholders of a text filled all at once. A substitution goes through the
variables one after the other and searches the values it has put in again. Main statement: its steps
agree with the placeholders filled at once exactly when none of them meets a stray placeholder.
Nonempty values without a dollar sign, whose first character no placeholder holds, never make one.
-/

set_option autoImplicit false

namespace SchemaGate.Config.Placeholder

section Environment

variable {env : Environment}

def valueOf (env : Environment) (done : List (List Char)) (name : List Char) :
    Option (List Char) :=
  if name ∈ done then (env.get? (String.ofList name)).map String.toList else none

private theorem valueOf_concat_set {done : List (List Char)} {name : List Char} {value : String}
    (known : env.get? (String.ofList name) = some value) :
    valueOf env (done ++ [name]) = extend (valueOf env done) name value.toList := by
  funext m
  by_cases same : m = name
  · subst same
    rw [extend_self, valueOf, if_pos (by simp), known, Option.map_some]
  · rw [extend_other same, valueOf, valueOf]
    simp [same]

private theorem valueOf_concat_unset {done : List (List Char)} {name : List Char}
    (unknown : env.get? (String.ofList name) = none) :
    valueOf env (done ++ [name]) = valueOf env done := by
  funext m
  by_cases same : m = name
  · subst same
    simp [valueOf, unknown]
  · simp [valueOf, same]

private theorem valueOf_unchanged {done : List (List Char)} {name : List Char} {value : String}
    (known : env.get? (String.ofList name) = some value) :
    ∀ v, valueOf env done name = some v → v = value.toList := by
  intro v looked
  rw [valueOf] at looked
  split at looked
  · rw [known, Option.map_some] at looked
    exact (Option.some.inj looked).symm
  · simp at looked

/-- No step of a substitution meets a stray: each placeholder it replaces is written out in the
text, unless it is replaced by itself. -/
def Undisturbed (env : Environment) (s : List Char) : Prop :=
  ∀ done name rest value, names s = done ++ name :: rest →
    env.get? (String.ofList name) = some value → value.toList ≠ write name →
      WrittenOut name (cut (valueOf env done) s)

private theorem fill_set {name : List Char} {value : String}
    (known : env.get? (String.ofList name) = some value) (s : List Char) :
    fill env s name = Text.replaceAll (write name) value.toList s := by
  rw [fill, known]

private theorem fill_unset {name : List Char} (unknown : env.get? (String.ofList name) = none)
    (s : List Char) : fill env s name = s := by
  rw [fill, unknown]

private theorem fill_spell_cut_iff {done : List (List Char)} {name s : List Char} {value : String}
    (valid : IsName name) (known : env.get? (String.ofList name) = some value) :
    fill env (spell (cut (valueOf env done) s)) name =
        spell (cut (valueOf env (done ++ [name])) s) ↔
      (value.toList ≠ write name → WrittenOut name (cut (valueOf env done) s)) := by
  have unchanged : ∀ v, valueOf env done name = some v → v = value.toList :=
    valueOf_unchanged known
  rw [fill_set known, valueOf_concat_set known]
  exact (fills_cut valid unchanged s).replaceAll_spell_iff valid

/-- A text with the placeholder of every set variable filled, all at once. -/
def simultaneous (env : Environment) (text : String) : String :=
  let value := fun name => (env.get? (String.ofList name)).map String.toList
  String.ofList (spell (cut value text.toList))

private theorem undisturbed_of_steps {s : List Char}
    (steps : ∀ done rest, names s = done ++ rest →
      done.foldl (fill env) s = spell (cut (valueOf env done) s)) : Undisturbed env s := by
  intro done name rest value whole known
  have valid : IsName name := isName_of_mem_names (s := s) (by simp [whole])
  have before := steps done (name :: rest) whole
  have after := steps (done ++ [name]) rest (by rw [whole]; simp)
  rw [List.foldl_append, before] at after
  exact (fill_spell_cut_iff valid known).mp after

/-- While no step meets a stray, the text so far has the placeholders of the variables so far filled
at once. -/
private theorem Undisturbed.foldl_fill {s : List Char} (undisturbed : Undisturbed env s)
    (done rest : List (List Char)) (whole : names s = done ++ rest) :
    done.foldl (fill env) s = spell (cut (valueOf env done) s) := by
  -- the steps come one after the other, so the induction takes the last of them off
  induction done using List.reverseRecOn generalizing rest with
  | nil => exact (spell_cut_none s).symm
  | append_singleton done name ih =>
    have valid : IsName name := isName_of_mem_names (s := s) (by simp [whole])
    have split : names s = done ++ name :: rest := by rw [whole]; simp
    rw [List.foldl_append, ih (name :: rest) split]
    cases known : env.get? (String.ofList name) with
    | none =>
      rw [valueOf_concat_unset known]
      exact fill_unset known _
    | some value =>
      exact (fill_spell_cut_iff valid known).mpr (undisturbed done name rest value split known)

private theorem substitute_of_undisturbed {text : String}
    (undisturbed : Undisturbed env text.toList) :
    substitute env text = simultaneous env text := by
  have last := undisturbed.foldl_fill (names text.toList) [] (List.append_nil _).symm
  have all : cut (valueOf env (names text.toList)) text.toList =
      cut (fun name => (env.get? (String.ofList name)).map String.toList) text.toList :=
    cut_congr fun m member => if_pos member
  rw [substitute, last, all]
  rfl

/-- Substitution goes through the variables of a text one after the other. After each of them the
text is the one with the placeholders of the variables so far filled at once exactly if no step
meets a stray, and then the outcome is the text with all of them filled at once. -/
theorem substitution_simultaneous_iff (env : Environment) (text : String) :
    ((∀ done rest, names text.toList = done ++ rest →
        done.foldl (fill env) text.toList = spell (cut (valueOf env done) text.toList)) ↔
      Undisturbed env text.toList) ∧
    (Undisturbed env text.toList → substitute env text = simultaneous env text) := by
  constructor
  · constructor
    · exact undisturbed_of_steps
    · intro undisturbed done rest whole
      exact undisturbed.foldl_fill done rest whole
  · exact substitute_of_undisturbed

/-- A value put in is searched again: `A` stands for the placeholder of `B`. -/
theorem substitution_not_simultaneous :
    let env : Environment := ⟨[("A", Text.utf8 "$\x7bB\x7d"), ("B", Text.utf8 "x")]⟩
    substitute env "$\x7bA\x7d$\x7bB\x7d" = "xx" ∧
      simultaneous env "$\x7bA\x7d$\x7bB\x7d" = "$\x7bB\x7dx" := by
  decide

end Environment

section Harmless

def inPlaceholder (c : Char) : Bool := inName c || c == '\x7b' || c == '\x7d'

/-- A value that can neither hold a placeholder nor complete one: it is not empty, no dollar sign
stands in it, and it starts with a character that no placeholder holds. -/
structure Harmless (value : List Char) : Prop where
  start : ∃ c rest, value = c :: rest ∧ inPlaceholder c = false
  noDollar : ∀ c ∈ value, c ≠ '$'

private theorem inPlaceholder_of_mem_tail {name : List Char} (valid : IsName name) :
    ∀ c ∈ '\x7b' :: name ++ ['\x7d'], inPlaceholder c = true := by
  intro c member
  simp only [List.cons_append, List.mem_cons, List.mem_append, List.not_mem_nil, or_false] at member
  rcases member with rfl | member | rfl
  · decide
  · simp [inPlaceholder, valid.all c member]
  · decide

variable {lookup : List Char → Option (List Char)} {name : List Char}

private theorem exists_own_front (harmless : ∀ m v, lookup m = some v → Harmless v)
    {s u y : List Char} (inside : ∀ c ∈ u, inPlaceholder c = true)
    (h : spell (cut lookup s) = u ++ y) :
    ∃ b, cut lookup s = own u ++ b := by
  induction s using text_induction generalizing u with
  | nil =>
    obtain ⟨rfl, -⟩ := List.append_eq_nil_iff.mp h.symm
    exact ⟨_, rfl⟩
  | placeholder m s valid ih =>
    rcases u with - | ⟨d, u⟩
    · exact ⟨_, rfl⟩
    have here := inside d List.mem_cons_self
    cases known : lookup m with
    | some v =>
      obtain ⟨c, rest, rfl, outside⟩ := (harmless m v known).start
      rw [cut_known valid known, spell_cons] at h
      obtain rfl := (List.cons_eq_cons.mp h).1
      simp [outside] at here
    | none =>
      rw [cut_unknown valid known, spell_append, spell_own] at h
      obtain rfl := (List.cons_eq_cons.mp h).1
      exact absurd here (by decide)
  | plain c s unread ih =>
    rw [cut_plain lookup unread, spell_cons] at h
    rw [cut_plain lookup unread]
    rcases u with - | ⟨d, u⟩
    · exact ⟨_, rfl⟩
    · obtain ⟨rfl, rest⟩ := List.cons_eq_cons.mp h
      obtain ⟨b, front⟩ := ih (fun d member => inside d (List.mem_cons_of_mem c member)) rest
      exact ⟨b, by rw [front]; rfl⟩

private theorem writtenOut_of_harmless (valid : IsName name)
    (harmless : ∀ m v, lookup m = some v → Harmless v) (s : List Char) :
    WrittenOut name (cut lookup s) := by
  induction s using text_induction with
  | nil =>
    intro x y h
    simp [cut, cutFrom, spell, write] at h
  | placeholder m s other ih =>
    cases known : lookup m with
    | some v =>
      rw [cut_known other known]
      refine @WrittenOut.append_of_late name (cut lookup s) [.put v] (fun x y h => ?_) ih
      rw [spell_singleton, Piece.chars] at h ⊢
      by_contra early
      obtain ⟨z, rfl, rest⟩ :=
        Text.append_eq_of_late (h.trans (List.append_assoc ..)).symm (Nat.le_of_not_le early)
      rcases z with - | ⟨d, z⟩
      · simp at early
      · have dollar : d = '$' := (List.cons_eq_cons.mp rest).1.symm
        exact (harmless m _ known).noDollar d (by simp) dollar
    | none =>
      rw [cut_unknown other known]
      exact ih.behind_placeholder valid other
  | plain c s unread ih =>
    rw [cut_plain lookup unread]
    intro x y h
    rw [spell_cons, List.append_assoc] at h
    rcases x with - | ⟨d, x⟩
    · obtain ⟨rfl, rest⟩ := List.cons_eq_cons.mp h
      obtain ⟨b, front⟩ := exists_own_front harmless (inPlaceholder_of_mem_tail valid) rest
      exact ⟨[], b, by rw [front]; rfl, rfl⟩
    · obtain ⟨rfl, rest⟩ := List.cons_eq_cons.mp h
      obtain ⟨a, b, pieces, rfl⟩ := ih x y (rest.trans (List.append_assoc ..).symm)
      exact ⟨.own c :: a, b, by rw [pieces]; rfl, spell_cons (.own c) a⟩

private theorem undisturbed_of_harmless {env : Environment} {s : List Char}
    (harmless : ∀ name ∈ names s, ∀ value, env.get? (String.ofList name) = some value →
      Harmless value.toList) : Undisturbed env s := by
  intro done name rest value whole known changes
  have valid : IsName name := isName_of_mem_names (s := s) (by simp [whole])
  refine writtenOut_of_harmless valid (fun m v looked => ?_) s
  rw [valueOf] at looked
  split at looked
  · next member =>
    obtain ⟨text, set, rfl⟩ := Option.map_eq_some_iff.mp looked
    exact harmless m (by simp [whole, member]) text set
  · simp at looked

/-- Harmless values are put in as they are, whatever the order of the placeholders. -/
theorem substitute_of_harmless {env : Environment} {text : String}
    (harmless : ∀ name ∈ names text.toList, ∀ value,
      env.get? (String.ofList name) = some value → Harmless value.toList) :
    substitute env text = simultaneous env text :=
  substitute_of_undisturbed (undisturbed_of_harmless harmless)

end Harmless

end SchemaGate.Config.Placeholder
