import SchemaGate.Config.Settings
import SchemaGate.Proofs.Simultaneous
/-!
The variables that a configuration depends on. The placeholders of a text are found before any of
them is replaced, so a value that brings a placeholder along, or completes one, has no further
variable looked up. Main statement: what is read depends on the variables that the text itself
names, and the text that is read depends on each of them.
-/

set_option autoImplicit false

namespace SchemaGate.Config.Placeholder

private theorem mem_names_iff {name s : List Char} :
    name ∈ names s ↔ IsName name ∧ write name <:+: s := by
  constructor
  · intro found
    refine ⟨isName_of_mem_names found, ?_⟩
    induction s using text_induction with
    | nil => simp [names] at found
    | placeholder m s valid ih =>
      rw [names_write valid, List.mem_cons] at found
      rcases found with rfl | found
      · exact (List.prefix_append _ s).isInfix
      · exact (ih found).trans (List.suffix_append _ s).isInfix
    | plain c s unread ih =>
      rw [names_of_plain unread] at found
      exact (ih found).trans (List.suffix_cons c s).isInfix
  · rintro ⟨valid, x, y, place⟩
    induction s using text_induction generalizing x with
    | nil => simp [write] at place
    | placeholder m s other ih =>
      rw [names_write other, List.mem_cons]
      rcases write_apart other valid place.symm with ⟨-, same, -⟩ | late
      · exact .inl same.symm
      · obtain ⟨z, rfl, rest⟩ :=
          Text.append_eq_of_late (place.symm.trans (List.append_assoc ..)) late
        exact .inr (ih z (by rw [rest, List.append_assoc]))
    | plain c s unread ih =>
      rw [names_of_plain unread]
      rcases x with - | ⟨d, x⟩
      · -- a placeholder at the front would be read there
        have read := read?_write valid y
        rw [List.nil_append] at place
        rw [place, unread] at read
        cases read
      · exact ih x (List.cons_eq_cons.mp place).2

section Environment

variable {env env' : Environment} {text : String}

private theorem fill_congr {name : List Char}
    (same : env.get? (String.ofList name) = env'.get? (String.ofList name)) (s : List Char) :
    fill env s name = fill env' s name := by
  rw [fill, fill, same]

private theorem substitute_congr
    (same : ∀ name ∈ names text.toList,
      env.get? (String.ofList name) = env'.get? (String.ofList name)) :
    substitute env text = substitute env' text := by
  have steps : (names text.toList).foldl (fill env) text.toList =
      (names text.toList).foldl (fill env') text.toList :=
    List.foldl_ext _ _ _ fun s name member => fill_congr (same name member) s
  rw [substitute, substitute, steps]

private theorem length_spell_cut_lt {lookup : List Char → Option (List Char)} {name s : List Char}
    (short : ∀ m v, lookup m = some v → v.length ≤ 1) (known : (lookup name).isSome = true)
    (named : name ∈ names s) : (spell (cut lookup s)).length < s.length := by
  have least (s : List Char) : (spell (cut lookup s)).length ≤ s.length := by
    induction s using text_induction with
    | nil => exact Nat.le_refl _
    | placeholder m s valid ih =>
      cases looked : lookup m with
      | none =>
        rw [cut_unknown valid looked, spell_append, spell_own]
        simpa using ih
      | some v =>
        have small := short m v looked
        rw [cut_known valid looked, spell_cons, Piece.chars]
        simp only [List.length_append, write, List.length_cons]
        omega
    | plain c s unread ih =>
      rw [cut_plain lookup unread, spell_cons]
      simpa [Piece.chars] using ih
  induction s using text_induction with
  | nil => simp [names] at named
  | placeholder m s valid ih =>
    rw [names_write valid, List.mem_cons] at named
    cases looked : lookup m with
    | none =>
      have behind : name ∈ names s := by
        refine named.resolve_left ?_
        rintro rfl
        simp [looked] at known
      rw [cut_unknown valid looked, spell_append, spell_own]
      simpa using ih behind
    | some v =>
      have small := short m v looked
      have rest := least s
      rw [cut_known valid looked, spell_cons, Piece.chars]
      simp only [List.length_append, write, List.length_cons]
      omega
  | plain c s unread ih =>
    rw [names_of_plain unread] at named
    rw [cut_plain lookup unread, spell_cons]
    simpa [Piece.chars] using ih named

private theorem substitute_empty (text : String) : substitute .empty text = text := by
  have kept : substitute .empty text = simultaneous .empty text :=
    substitute_of_harmless fun name _ value known => nomatch known
  rw [kept, simultaneous]
  exact (congrArg String.ofList (spell_cut_none text.toList)).trans String.ofList_toList

def blankOnly (name : List Char) : Environment := ⟨[(String.ofList name, Text.utf8 " ")]⟩

private theorem get?_blankOnly (name m : List Char) :
    (blankOnly name).get? (String.ofList m) = if m = name then some " " else none := by
  have blank : Text.ofUtf8? (Text.utf8 " ") = some " " := by decide
  by_cases same : m = name
  · simp [blankOnly, Environment.get?, same, blank]
  · have differ : ¬ name = m := Ne.symm same
    simp [blankOnly, Environment.get?, same, String.ofList_inj, differ]

private theorem substitute_blankOnly_ne {name : List Char} (named : name ∈ names text.toList) :
    substitute (blankOnly name) text ≠ text := by
  have blank (m : List Char) (value : String)
      (known : (blankOnly name).get? (String.ofList m) = some value) : value = " " := by
    rw [get?_blankOnly] at known
    split at known
    · exact (Option.some.inj known).symm
    · exact nomatch known
  have once : substitute (blankOnly name) text = simultaneous (blankOnly name) text := by
    refine substitute_of_harmless fun m _ value known => ?_
    obtain rfl := blank m value known
    exact ⟨⟨' ', [], by decide, by decide⟩, by simp⟩
  intro unchanged
  have shorter := @length_spell_cut_lt
    (fun m => ((blankOnly name).get? (String.ofList m)).map String.toList) name text.toList
    (fun m v looked => by
      obtain ⟨value, known, rfl⟩ := Option.map_eq_some_iff.mp looked
      obtain rfl := blank m value known
      decide)
    (by simp [get?_blankOnly]) named
  have same : spell (cut (fun m => ((blankOnly name).get? (String.ofList m)).map String.toList)
      text.toList) = text.toList := by
    rw [once, simultaneous] at unchanged
    simpa using congrArg String.toList unchanged
  rw [same] at shorter
  exact Nat.lt_irrefl _ shorter

/-- Two environments that give each variable whose placeholder stands in a text the same value, or
none in both, make one configuration or one fault of it, whatever placeholders the values contain.
And each of these variables counts: it alone can change the text that is read. -/
theorem parse_depends_on_named (text : String) :
    (∀ env env' : Environment,
      (∀ name, IsName name → write name <:+: text.toList →
        env.get? (String.ofList name) = env'.get? (String.ofList name)) →
      Settings.parse env text = Settings.parse env' text) ∧
    ∀ name, IsName name → write name <:+: text.toList → ∃ env env' : Environment,
      (∀ other, other ≠ name →
        env.get? (String.ofList other) = env'.get? (String.ofList other)) ∧
      substitute env text ≠ substitute env' text := by
  constructor
  · intro env env' agree
    have same : substitute env text = substitute env' text := by
      refine substitute_congr fun name member => ?_
      obtain ⟨valid, stands⟩ := mem_names_iff.mp member
      exact agree name valid stands
    rw [Settings.parse, Settings.parse, same]
  · intro name valid stands
    have named : name ∈ names text.toList := mem_names_iff.mpr ⟨valid, stands⟩
    refine ⟨blankOnly name, .empty, ?_, ?_⟩
    · intro other different
      rw [get?_blankOnly, if_neg different]
      rfl
    · rw [substitute_empty]
      exact substitute_blankOnly_ne named

/-- The value of `A` names `B`, which the text does not: `B` may be set, unset or no text. -/
theorem parse_of_nested_name :
    let text := "[database]\nurl = \"mysql://$\x7bA\x7d\"\n"
    let a : String × Text.Bytes := ("A", Text.utf8 "$\x7bB\x7d.local")
    let env : Environment := ⟨[a, ("B", Text.utf8 "db")]⟩
    let env' : Environment := ⟨[a, ("B", [255])]⟩
    (∀ name, IsName name → write name <:+: text.toList →
      env.get? (String.ofList name) = env'.get? (String.ofList name)) ∧
    env.get? "B" ≠ env'.get? "B" ∧
    Settings.parse env text = Settings.parse env' text ∧
    Settings.parse env' text = .ok (.ofUrl "mysql://$\x7bB\x7d.local") := by
  intro text a env env'
  have agree (name : List Char) (valid : IsName name) (stands : write name <:+: text.toList) :
      env.get? (String.ofList name) = env'.get? (String.ofList name) := by
    have named : name ∈ names text.toList := mem_names_iff.mpr ⟨valid, stands⟩
    have only : names text.toList = [['A']] := by decide
    rw [only, List.mem_singleton] at named
    subst named
    decide
  refine ⟨agree, by decide, (parse_depends_on_named text).1 env env' agree, ?_⟩
  decide +kernel

end Environment

end SchemaGate.Config.Placeholder
