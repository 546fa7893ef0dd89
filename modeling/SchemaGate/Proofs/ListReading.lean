import Mathlib.Data.List.Forall2
/-!
Lists read entry by entry. Reading a list succeeds if every entry can be read, and else fails as the
first entry that cannot.
-/

set_option autoImplicit false

namespace SchemaGate

variable {ε α β γ : Type} {f : α → Except ε β}

theorem mapM_cons_ok_iff {a : α} {as : List α} {bs : List β} :
    (a :: as).mapM f = .ok bs ↔
      ∃ b rest, f a = .ok b ∧ as.mapM f = .ok rest ∧ bs = b :: rest := by
  rw [List.mapM_cons]
  cases f a with
  | error e => simp [Bind.bind, Except.bind]
  | ok b =>
    cases as.mapM f with
    | error e => simp [Bind.bind, Except.bind]
    | ok rest => simp [Bind.bind, Except.bind, Pure.pure, Except.pure, eq_comm]

theorem exists_mapM_ok_iff {as : List α} :
    (∃ bs, as.mapM f = .ok bs) ↔ ∀ a ∈ as, ∃ b, f a = .ok b := by
  induction as with
  | nil => simp [Pure.pure, Except.pure]
  | cons a as ih =>
    rw [List.forall_mem_cons, ← ih]
    constructor
    · rintro ⟨bs, read⟩
      obtain ⟨b, rest, head, tail, -⟩ := mapM_cons_ok_iff.mp read
      exact ⟨⟨b, head⟩, rest, tail⟩
    · rintro ⟨⟨b, head⟩, rest, tail⟩
      exact ⟨b :: rest, mapM_cons_ok_iff.mpr ⟨b, rest, head, tail, rfl⟩⟩

theorem mapM_ok_iff {as : List α} {bs : List β} :
    as.mapM f = .ok bs ↔ List.Forall₂ (fun a b => f a = .ok b) as bs := by
  induction as generalizing bs with
  | nil =>
    rw [List.forall₂_nil_left_iff]
    exact ⟨fun same => (Except.ok.inj same).symm, fun none => none ▸ rfl⟩
  | cons a as ih =>
    rw [mapM_cons_ok_iff, List.forall₂_cons_left_iff]
    constructor
    · rintro ⟨b, rest, head, tail, rfl⟩
      exact ⟨b, rest, head, ih.mp tail, rfl⟩
    · rintro ⟨b, rest, head, tail, rfl⟩
      exact ⟨b, rest, head, ih.mpr tail, rfl⟩

theorem map_eq_of_mapM_ok {as : List α} {bs : List β} {g : β → γ} {h : α → γ}
    (read : as.mapM f = .ok bs) (same : ∀ a b, f a = .ok b → g b = h a) : bs.map g = as.map h := by
  rw [mapM_ok_iff] at read
  induction read with
  | nil => rfl
  | cons first _ ih => rw [List.map_cons, List.map_cons, same _ _ first, ih]

private theorem mapM_cons_error_iff {a : α} {as : List α} {e : ε} :
    (a :: as).mapM f = .error e ↔ f a = .error e ∨ (∃ b, f a = .ok b) ∧ as.mapM f = .error e := by
  rw [List.mapM_cons]
  cases f a with
  | error e' => simp [Bind.bind, Except.bind]
  | ok b =>
    cases as.mapM f with
    | error e' => simp [Bind.bind, Except.bind]
    | ok rest => simp [Bind.bind, Except.bind, Pure.pure, Except.pure]

theorem mapM_error_iff {as : List α} {e : ε} :
    as.mapM f = .error e ↔ ∃ before a after, as = before ++ a :: after ∧
      (∀ b ∈ before, ∃ y, f b = .ok y) ∧ f a = .error e := by
  induction as with
  | nil =>
    constructor
    · intro failed
      exact nomatch failed
    · rintro ⟨before, a, after, split, -⟩
      exact absurd split.symm (by simp)
  | cons c as ih =>
    rw [mapM_cons_error_iff, ih]
    constructor
    · rintro (first | ⟨head, before, a, after, rfl, read, fails⟩)
      · exact ⟨[], c, as, rfl, by simp, first⟩
      · exact ⟨c :: before, a, after, rfl, List.forall_mem_cons.mpr ⟨head, read⟩, fails⟩
    · rintro ⟨before, a, after, split, read, fails⟩
      cases before with
      | nil =>
        obtain ⟨rfl, rfl⟩ := List.cons.inj split
        exact .inl fails
      | cons b before =>
        obtain ⟨rfl, rfl⟩ := List.cons.inj split
        obtain ⟨head, read⟩ := List.forall_mem_cons.mp read
        exact .inr ⟨head, before, a, after, rfl, read, fails⟩

section Nested

variable {δ : Type} {g : γ → List α} {h : γ → List β → δ}

theorem mapM_mapM_error_iff {cs : List γ} {e : ε} :
    cs.mapM (fun c => ((g c).mapM f).map (h c)) = .error e ↔
      (cs.flatMap g).mapM f = .error e := by
  induction cs with
  | nil =>
    constructor
    · intro failed
      exact nomatch failed
    · intro failed
      exact nomatch failed
  | cons c cs ih =>
    rw [mapM_cons_error_iff, ih, List.flatMap_cons, List.mapM_append]
    cases (g c).mapM f with
    | error e' => simp [Except.map, Bind.bind, Except.bind]
    | ok bs =>
      cases (cs.flatMap g).mapM f with
      | error e' => simp [Except.map, Bind.bind, Except.bind]
      | ok rest => simp [Except.map, Bind.bind, Except.bind, Pure.pure, Except.pure]

end Nested

end SchemaGate
