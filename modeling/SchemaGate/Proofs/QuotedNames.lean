import SchemaGate.Proofs.PatternListing
import SchemaGate.Schema.Database
/-!
Names inside statements. A reader of identifiers gets back a quoted name and the text behind it,
whatever the name holds, so a name cannot end its own quotation. Main statement: the name can be
read off every statement that holds one, and two statements that agree hold the same names.
-/

set_option autoImplicit false

namespace SchemaGate

namespace Text

private theorem doubled_injective (q : Char) : Function.Injective (doubled q) := by
  intro s t h
  induction s generalizing t with
  | nil =>
    cases t with
    | nil => rfl
    | cons d t => by_cases hd : d = q <;> simp [doubled_cons, hd] at h
  | cons c s ih =>
    cases t with
    | nil => by_cases hc : c = q <;> simp [doubled_cons, hc] at h
    | cons d t =>
      have heads : c = d := by
        by_cases hc : c = q <;> by_cases hd : d = q <;> simp_all [doubled_cons]
      subst heads
      rw [doubled_cons, doubled_cons] at h
      rw [ih (List.append_cancel_left h)]

end Text

namespace Schema

namespace Identifier

@[simp] theorem toList_quote (name : String) : (quote name).toList = quoteChars name.toList :=
  String.toList_ofList

theorem quoteChars_append_inj {n₁ n₂ r₁ r₂ : List Char} (h₁ : r₁.head? ≠ some backtick)
    (h₂ : r₂.head? ≠ some backtick) (h : quoteChars n₁ ++ r₁ = quoteChars n₂ ++ r₂) :
    n₁ = n₂ ∧ r₁ = r₂ := by
  have first := read_quoteChars n₁ r₁ h₁
  have second := read_quoteChars n₂ r₂ h₂
  rw [h, second] at first
  have same : (n₂, r₂) = (n₁, r₁) := Option.some.inj first
  exact ⟨(congrArg Prod.fst same).symm, (congrArg Prod.snd same).symm⟩

private theorem quote_append_inj {n₁ n₂ r₁ r₂ : String} (h₁ : r₁.toList.head? ≠ some backtick)
    (h₂ : r₂.toList.head? ≠ some backtick) (h : quote n₁ ++ r₁ = quote n₂ ++ r₂) :
    n₁ = n₂ ∧ r₁ = r₂ := by
  have chars := congrArg String.toList h
  simp only [String.toList_append, toList_quote] at chars
  obtain ⟨names, rests⟩ := quoteChars_append_inj h₁ h₂ chars
  exact ⟨String.toList_injective names, String.toList_injective rests⟩

end Identifier

private theorem Database.render_inj {d e : Database} :
    d.render = e.render ↔ d.name = e.name ∧ d.collation = e.collation := by
  constructor
  · intro h
    unfold Database.render at h
    simp only [String.append_assoc, String.append_right_inj] at h
    obtain ⟨names, rests⟩ := Identifier.quote_append_inj (by simp [backtick]) (by simp [backtick]) h
    have collations : d.collation = e.collation := by simpa using rests
    exact ⟨names, collations⟩
  · rintro ⟨names, collations⟩
    unfold Database.render
    rw [names, collations]

theorem Table.parts_of_render_eq {t u : Table} {d e : String} (h : t.render d = u.render e) :
    d = e ∧ t.name = u.name ∧
      t.renderColumns ++ (" ) COLLATE='" ++ (t.collation ++ "';")) =
        u.renderColumns ++ (" ) COLLATE='" ++ (u.collation ++ "';")) := by
  unfold Table.render at h
  simp only [String.append_assoc, String.append_right_inj] at h
  obtain ⟨databases, rests⟩ :=
    Identifier.quote_append_inj (by simp [backtick]) (by simp [backtick]) h
  rw [String.append_right_inj] at rests
  obtain ⟨names, rests⟩ :=
    Identifier.quote_append_inj (by simp [backtick]) (by simp [backtick]) rests
  rw [String.append_right_inj] at rests
  exact ⟨databases, names, rests⟩

end Schema

namespace Gate

private theorem existsQuery_injective : Function.Injective existsQuery := by
  intro n m h
  have patterns := congrArg (fun sql => MySql.listedPattern? sql.toList) h
  simp only [MySql.listedPattern?_existsQuery, Option.some.injEq] at patterns
  exact String.toList_injective (Text.doubled_injective _ patterns)

private theorem versionQuery_injective : Function.Injective versionQuery := by
  intro n m h
  unfold versionQuery at h
  simp only [String.append_assoc, String.append_right_inj] at h
  obtain ⟨names, -⟩ :=
    Schema.Identifier.quote_append_inj (by simp [Schema.backtick]) (by simp [Schema.backtick]) h
  exact names

end Gate

namespace Schema

/-- Reading a quoted name gives the name and the text behind it, unless that text starts with a
backtick. So the name and the collation can be told from the creation of a database, the name from
each query of the gate, and both names from the creation of a table, whatever its columns are. -/
theorem quoted_names_recovered :
    (∀ name rest : String, rest.toList.head? ≠ some backtick →
      Identifier.read (Identifier.quote name ++ rest).toList =
        some (name.toList, rest.toList)) ∧
    (∀ d e : Database,
      d.render = e.render ↔ d.name = e.name ∧ d.collation = e.collation) ∧
    Function.Injective Gate.existsQuery ∧
    Function.Injective Gate.versionQuery ∧
    ∀ (t u : Table) (d e : String), t.render d = u.render e → d = e ∧ t.name = u.name := by
  refine ⟨?_, ?_, Gate.existsQuery_injective, Gate.versionQuery_injective, ?_⟩
  · intro name rest h
    rw [String.toList_append, Identifier.toList_quote]
    exact Identifier.read_quoteChars name.toList rest.toList h
  · intro d e
    exact Database.render_inj
  · intro t u d e h
    obtain ⟨databases, names, -⟩ := Table.parts_of_render_eq h
    exact ⟨databases, names⟩

/-- A name of backticks is read back in front of another identifier, and two tables with the same
statement but different columns have the same names. -/
theorem backtick_names_recovered :
    let t : Table :=
      ⟨"`t``", [.verbatim "a" "INT, `b` INT"], defaultCollation, none⟩
    let u : Table :=
      ⟨"`t``", [.verbatim "a" "INT", .verbatim "b" "INT"], defaultCollation, none⟩
    ".`b`".toList.head? ≠ some backtick ∧
      Identifier.read (Identifier.quote "```" ++ ".`b`").toList =
        some ("```".toList, ".`b`".toList) ∧
      t.render "d`" = u.render "d`" ∧ t.columns ≠ u.columns ∧ "d`" = "d`" ∧ t.name = u.name := by
  intro t u
  obtain ⟨read, -, -, -, names⟩ := quoted_names_recovered
  have plain : ".`b`".toList.head? ≠ some backtick := by decide
  have same : t.render "d`" = u.render "d`" := by decide
  exact ⟨plain, read _ _ plain, same, by decide, names t u "d`" "d`" same⟩

end Schema

end SchemaGate
