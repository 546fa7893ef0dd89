import SchemaGate.Proofs.Numerals
import SchemaGate.Proofs.QuotedNames
/-!
Statements that create tables. Between the parentheses of such a statement stand columns and at most
one key, and where each of them ends can be told from the characters behind it. Main statement: a
table without parts written as they stand can be told from its statement.
-/

set_option autoImplicit false

namespace SchemaGate

/-- A word and what follows it are told apart by the first character that no word has. -/
private theorem Text.word_append_inj {p : Char → Bool} {v w r s : List Char}
    (hv : ∀ c ∈ v, p c = true) (hw : ∀ c ∈ w, p c = true) (hr : ∀ c, r.head? = some c → p c = false)
    (hs : ∀ c, s.head? = some c → p c = false) (h : v ++ r = w ++ s) :
    v = w ∧ r = s := by
  have cut (x y : List Char) (hx : ∀ c ∈ x, p c = true)
      (hy : ∀ c, y.head? = some c → p c = false) : (x ++ y).takeWhile p = x := by
    rw [List.takeWhile_append_of_pos hx]
    cases y with
    | nil => rw [List.takeWhile_nil, List.append_nil]
    | cons c y => rw [List.takeWhile_cons, hy c rfl, if_neg Bool.false_ne_true, List.append_nil]
  have words : v = w := by
    rw [← cut v r hv hr, h, cut w s hw hs]
  subst words
  exact ⟨rfl, List.append_cancel_left h⟩

namespace Schema

namespace SqlType

def IsBuiltIn (t : SqlType) : Prop := ∀ keyword, t ≠ .other keyword

theorem ofKeyword_keyword {t : SqlType} (h : t.IsBuiltIn) : ofKeyword t.keyword = t := by
  cases t with
  | other k => exact absurd rfl (h k)
  | char | varchar | tinyInt | int | bigInt | text | dateTime => decide

private theorem isUpper_of_mem_keyword {t : SqlType} (h : t.IsBuiltIn) :
    ∀ c ∈ t.keyword.toList, c.isUpper = true := by
  rw [← List.all_eq_true]
  cases t with
  | other k => exact absurd rfl (h k)
  | char | varchar | tinyInt | int | bigInt | text | dateTime => decide

def lengthText : Option Nat → List Char
  | none => []
  | some n => '(' :: (Text.natDigits n ++ [')'])

theorem toList_render (t : SqlType) (length : Option Nat) :
    (t.render length).toList = t.keyword.toList ++ lengthText length := by
  cases length with
  | none => simp [render, lengthText]
  | some n => simp [render, lengthText, Text.ofNat]

private theorem lengthText_append_inj {l m : Option Nat} {r s : List Char}
    (h : lengthText l ++ ' ' :: r = lengthText m ++ ' ' :: s) : l = m ∧ r = s := by
  cases l with
  | none =>
    cases m with
    | none => exact ⟨rfl, List.tail_eq_of_cons_eq h⟩
    | some m => simp [lengthText] at h
  | some l =>
    cases m with
    | none => simp [lengthText] at h
    | some m =>
      have digits : Text.natDigits l ++ (')' :: ' ' :: r) =
          Text.natDigits m ++ (')' :: ' ' :: s) := by
        simpa [lengthText] using h
      obtain ⟨same, rests⟩ := Text.word_append_inj (Text.digits_natDigits l).digits
        (Text.digits_natDigits m).digits (by simp) (by simp) digits
      refine ⟨congrArg some (Text.natDigits_injective same), ?_⟩
      simpa using rests

private theorem render_append_inj {t u : SqlType} {l m : Option Nat} {r s : List Char}
    (ht : t.IsBuiltIn) (hu : u.IsBuiltIn)
    (h : (t.render l).toList ++ ' ' :: r = (u.render m).toList ++ ' ' :: s) :
    t = u ∧ l = m ∧ r = s := by
  have boundary (l : Option Nat) (r : List Char) :
      ∀ c, (lengthText l ++ ' ' :: r).head? = some c → c.isUpper = false := by
    cases l <;> simp [lengthText]
  rw [toList_render, toList_render, List.append_assoc, List.append_assoc] at h
  obtain ⟨keywords, lengths⟩ := Text.word_append_inj (isUpper_of_mem_keyword ht)
    (isUpper_of_mem_keyword hu) (boundary l r) (boundary m s) h
  have types : t = u := by
    rw [← ofKeyword_keyword ht, String.toList_injective keywords, ofKeyword_keyword hu]
  exact ⟨types, lengthText_append_inj lengths⟩

end SqlType

/-- What may follow a column or a key: another one, or the end of the list. -/
inductive Separated : List Char → Prop where
  | comma (s : List Char) : Separated (',' :: ' ' :: s)
  | parenthesis (s : List Char) : Separated (' ' :: ')' :: s)

section Endings

variable {r s : List Char}

def Default.clauseText (d : Default) : List Char :=
  match d.clause? with
  | none => []
  | some clause => ' ' :: clause.toList

private theorem Default.clauseText_append_inj {d e : Default} (hd : ∀ text, d ≠ .literal text)
    (he : ∀ text, e ≠ .literal text) (hr : Separated r) (hs : Separated s)
    (h : d.clauseText ++ r = e.clauseText ++ s) : d = e ∧ r = s := by
  cases d with
  | literal text => exact absurd rfl (hd text)
  | unset =>
    cases e with
    | literal text => exact absurd rfl (he text)
    | unset => exact ⟨rfl, h⟩
    | null => cases hr <;> simp [clauseText, clause?] at h
  | null =>
    cases e with
    | literal text => exact absurd rfl (he text)
    | unset => cases hs <;> simp [clauseText, clause?] at h
    | null => exact ⟨rfl, List.append_cancel_left h⟩

private theorem Column.nullability_append_inj {c d : Column}
    (h : c.nullability.toList ++ r = d.nullability.toList ++ s) :
    c.nullable = d.nullable ∧ r = s := by
  unfold Column.nullability at h
  cases hc : c.nullable <;> cases hd : d.nullable <;> simp_all

end Endings

namespace Column

/-- A column of a built-in type without a literal default: no part of it is written as it stands. -/
structure Plain (c : Column) : Prop where
  typed : ∃ type length, c.body = .typed type length ∧ type.IsBuiltIn
  default : ∀ text, c.default ≠ .literal text

private theorem plain_typed (name : String) {type : SqlType} (length : Option Nat)
    (h : type.IsBuiltIn) :
    (typed name type length).Plain :=
  ⟨⟨type, length, rfl, h⟩, nofun⟩

private theorem Plain.withNullable {c : Column} (h : c.Plain) (nullable : Bool) :
    (c.withNullable nullable).Plain :=
  ⟨h.typed, h.default⟩

private theorem Plain.withDefault_null {c : Column} (h : c.Plain) : (c.withDefault .null).Plain :=
  ⟨h.typed, nofun⟩

private theorem toList_render_typed {c : Column} {type : SqlType} {length : Option Nat}
    (h : c.body = .typed type length) :
    c.render.toList = Identifier.quoteChars c.name.toList ++ ' ' ::
      ((type.render length).toList ++ ' ' :: (c.nullability.toList ++ c.default.clauseText)) := by
  unfold Column.render Default.clauseText
  rw [h]
  cases c.default.clause? <;> simp

private theorem render_append_inj {c d : Column} {r s : List Char} (hc : c.Plain) (hd : d.Plain)
    (hr : Separated r) (hs : Separated s) (h : c.render.toList ++ r = d.render.toList ++ s) :
    c = d ∧ r = s := by
  obtain ⟨type, length, body, builtIn⟩ := hc.typed
  obtain ⟨type', length', body', builtIn'⟩ := hd.typed
  rw [toList_render_typed body, toList_render_typed body'] at h
  simp only [List.append_assoc, List.cons_append] at h
  obtain ⟨names, h⟩ := Identifier.quoteChars_append_inj (by simp [backtick]) (by simp [backtick]) h
  obtain ⟨types, lengths, h⟩ :=
    SqlType.render_append_inj builtIn builtIn' (List.tail_eq_of_cons_eq h)
  obtain ⟨nulls, h⟩ := nullability_append_inj h
  obtain ⟨defaults, rests⟩ := Default.clauseText_append_inj hc.default hd.default hr hs h
  have sameName : c.name = d.name := String.toList_injective names
  have sameBody : c.body = d.body := by rw [body, body', types, lengths]
  refine ⟨?_, rests⟩
  cases c
  cases d
  exact (mk.injEq ..).mpr ⟨sameName, sameBody, defaults, nulls⟩

end Column

/-- What stands between the parentheses of a statement that creates a table. -/
inductive Entry where
  | column (c : Column)
  | key (name : String)

namespace Entry

def render : Entry → String
  | column c => c.render
  | key name => Table.keyClause name

def Plain : Entry → Prop
  | column c => c.Plain
  | key _ => True

def first : Entry → Char
  | column _ => backtick
  | key _ => 'P'

private theorem toList_render_key (name : String) :
    (key name).render.toList =
      "PRIMARY KEY (".toList ++ (Identifier.quoteChars name.toList ++ [')']) := by
  unfold render Table.keyClause
  simp

private theorem exists_render_eq_cons {e : Entry} (h : e.Plain) :
    ∃ rest, e.render.toList = e.first :: rest := by
  cases e with
  | column c =>
    obtain ⟨type, length, body, -⟩ := Column.Plain.typed h
    exact ⟨_, Column.toList_render_typed body⟩
  | key name => exact ⟨_, toList_render_key name⟩

private theorem first_eq_of_append {e f : Entry} {r s : List Char} (he : e.Plain) (hf : f.Plain)
    (h : e.render.toList ++ r = f.render.toList ++ s) : e.first = f.first := by
  obtain ⟨x, hx⟩ := exists_render_eq_cons he
  obtain ⟨y, hy⟩ := exists_render_eq_cons hf
  rw [hx, hy] at h
  exact (List.cons_eq_cons.mp h).1

private theorem render_append_inj {e f : Entry} {r s : List Char} (he : e.Plain) (hf : f.Plain)
    (hr : Separated r) (hs : Separated s) (h : e.render.toList ++ r = f.render.toList ++ s) :
    e = f ∧ r = s := by
  -- a quotation opens every column and no key
  have heads := first_eq_of_append he hf h
  cases e with
  | column c =>
    cases f with
    | column d =>
      obtain ⟨columns, rests⟩ := Column.render_append_inj he hf hr hs h
      exact ⟨congrArg column columns, rests⟩
    | key name => exact absurd heads (show backtick ≠ 'P' by decide)
  | key name =>
    cases f with
    | column d => exact absurd heads (show 'P' ≠ backtick by decide)
    | key name' =>
      simp only [toList_render_key, List.append_assoc] at h
      have quoted := List.append_cancel_left h
      obtain ⟨names, rests⟩ :=
        Identifier.quoteChars_append_inj (by simp [backtick]) (by simp [backtick]) quoted
      exact ⟨congrArg key (String.toList_injective names), List.append_cancel_left rests⟩

end Entry

section Lists

/-- The text behind an entry: the entries after it, each after a comma, and the end of the list. -/
def behind : List Entry → List Char → List Char
  | [], r => ' ' :: ')' :: r
  | e :: es, r => ',' :: ' ' :: (e.render.toList ++ behind es r)

private theorem behind_separated (es : List Entry) (r : List Char) : Separated (behind es r) := by
  cases es with
  | nil => exact .parenthesis r
  | cons e es => exact .comma _

private theorem toList_join_cons (e : Entry) (es : List Entry) (r : List Char) :
    (", ".intercalate ((e :: es).map Entry.render)).toList ++ ' ' :: ')' :: r =
      e.render.toList ++ behind es r := by
  have comma : ", ".toList = [',', ' '] := by decide
  rw [String.toList_intercalate, comma]
  induction es generalizing e with
  | nil => simp [behind]
  | cons f es ih =>
    rw [List.map_cons, List.map_cons, List.map_cons, List.map_cons, List.intercalate_cons_cons]
    simp only [List.append_assoc, List.cons_append, List.nil_append, behind]
    have rest := ih f
    rw [List.map_cons, List.map_cons] at rest
    rw [rest]

private theorem behind_inj {es fs : List Entry} {r s : List Char} (hes : ∀ e ∈ es, e.Plain)
    (hfs : ∀ f ∈ fs, f.Plain) (h : behind es r = behind fs s) : es = fs ∧ r = s := by
  -- a comma and the blank before the parenthesis tell the two forms of `behind` apart
  induction es generalizing fs with
  | nil =>
    cases fs with
    | nil => exact ⟨rfl, by simpa [behind] using h⟩
    | cons f fs => simp [behind] at h
  | cons e es ih =>
    cases fs with
    | nil => simp [behind] at h
    | cons f fs =>
      obtain ⟨plain, plains⟩ := List.forall_mem_cons.mp hes
      obtain ⟨plain', plains'⟩ := List.forall_mem_cons.mp hfs
      simp only [behind, List.cons.injEq, true_and] at h
      obtain ⟨heads, rests⟩ :=
        Entry.render_append_inj plain plain' (behind_separated es r) (behind_separated fs s) h
      obtain ⟨tails, ends⟩ := ih plains plains' rests
      exact ⟨List.cons_eq_cons.mpr ⟨heads, tails⟩, ends⟩

private theorem join_append_inj {es fs : List Entry} {r s : List Char} (hes : ∀ e ∈ es, e.Plain)
    (hfs : ∀ f ∈ fs, f.Plain)
    (h : (", ".intercalate (es.map Entry.render)).toList ++ ' ' :: ')' :: r =
      (", ".intercalate (fs.map Entry.render)).toList ++ ' ' :: ')' :: s) :
    es = fs ∧ r = s := by
  have not_end {e : Entry} (plain : e.Plain) (x y : List Char) :
      ' ' :: ')' :: x ≠ e.render.toList ++ y := by
    obtain ⟨rest, starts⟩ := Entry.exists_render_eq_cons plain
    rw [starts]
    cases e <;> simp [Entry.first, backtick]
  cases es with
  | nil =>
    cases fs with
    | nil => exact ⟨rfl, by simpa using h⟩
    | cons f fs =>
      rw [toList_join_cons] at h
      exact absurd h (not_end (hfs f List.mem_cons_self) r (behind fs s))
  | cons e es =>
    cases fs with
    | nil =>
      rw [toList_join_cons] at h
      exact absurd h.symm (not_end (hes e List.mem_cons_self) s (behind es r))
    | cons f fs =>
      rw [toList_join_cons, toList_join_cons] at h
      -- a comma in front makes both lists lists behind an entry
      have commas : behind (e :: es) r = behind (f :: fs) s := congrArg (',' :: ' ' :: ·) h
      exact behind_inj hes hfs commas

end Lists

namespace Table

def entries (t : Table) : List Entry :=
  t.columns.map .column ++ t.primaryKey.toList.map .key

private theorem renderColumns_eq (t : Table) :
    t.renderColumns = ", ".intercalate (t.entries.map Entry.render) := by
  simp only [renderColumns, entries, List.map_append, List.map_map]
  rfl

private theorem plain_of_mem_entries {t : Table} (h : ∀ c ∈ t.columns, c.Plain) :
    ∀ e ∈ t.entries, e.Plain := by
  intro e member
  rcases List.mem_append.mp member with column | key
  · obtain ⟨c, listed, rfl⟩ := List.mem_map.mp column
    exact h c listed
  · obtain ⟨name, -, rfl⟩ := List.mem_map.mp key
    exact trivial

private theorem entries_inj {t u : Table} (h : t.entries = u.entries) :
    t.columns = u.columns ∧ t.primaryKey = u.primaryKey := by
  have columns (t : Table) : t.entries.filterMap (fun e => match e with
      | .column c => some c
      | .key _ => none) = t.columns := by
    simp [entries]
  have key (t : Table) : (t.entries.filterMap (fun e => match e with
      | .column _ => none
      | .key name => some name)).head? = t.primaryKey := by
    simp [entries]
  constructor
  · rw [← columns t, h, columns u]
  · rw [← key t, h, key u]

/-- A table of plain columns is told from its statement, and so is the database it is created in. -/
theorem eq_of_render_eq {t u : Table} {d e : String} (ht : ∀ c ∈ t.columns, c.Plain)
    (hu : ∀ c ∈ u.columns, c.Plain) (h : t.render d = u.render e) : d = e ∧ t = u := by
  obtain ⟨databases, names, rests⟩ := parts_of_render_eq h
  have chars := congrArg String.toList rests
  have tail (collation : String) : (" ) COLLATE='" ++ (collation ++ "';")).toList =
      ' ' :: ')' :: (" COLLATE='".toList ++ (collation.toList ++ "';".toList)) := by
    simp
  rw [renderColumns_eq, renderColumns_eq, String.toList_append, tail, String.toList_append, tail]
    at chars
  obtain ⟨lists, ends⟩ :=
    join_append_inj (plain_of_mem_entries ht) (plain_of_mem_entries hu) chars
  obtain ⟨columns, keys⟩ := entries_inj lists
  have collations : t.collation = u.collation :=
    String.toList_injective (List.append_cancel_right (List.append_cancel_left ends))
  refine ⟨databases, ?_⟩
  cases t
  cases u
  exact (mk.injEq ..).mpr ⟨names, columns, collations, keys⟩

/-- A key stated before the columns and a key stated after them give one statement and one table;
the names hold separators and clauses. -/
theorem eq_of_key_first_render_eq :
    let a := Column.typed "a`, `b" .int (some 11)
    let b := ((Column.typed "PRIMARY KEY (`b`)" .text none).withNullable true).withDefault .null
    let t := (((named "t").withPrimaryKey "a`, `b").addColumn a).addColumn b
    let u := (((named "t").addColumn a).addColumn b).withPrimaryKey "a`, `b"
    (∀ c ∈ t.columns, c.Plain) ∧ (∀ c ∈ u.columns, c.Plain) ∧ t.render "d" = u.render "d" ∧
      "d" = "d" ∧ t = u := by
  intro a b t u
  have plain_a : a.Plain := Column.plain_typed _ _ nofun
  have text : SqlType.text.IsBuiltIn := nofun
  have plain_b : b.Plain := ((Column.plain_typed _ _ text).withNullable true).withDefault_null
  have plain : ∀ c ∈ [a, b], c.Plain := by
    simp [plain_a, plain_b]
  have same : t.render "d" = u.render "d" := rfl
  exact ⟨plain, plain, same, eq_of_render_eq plain plain same⟩

/-- A name that goes on like a statement stays one name. -/
example :
    let a := Column.typed "a" .int none
    let b := Column.typed "b" .int none
    ((named "t").addColumn (.typed "a` INT NOT NULL, `b" .int none)).render "d" ≠
      (((named "t").addColumn a).addColumn b).render "d" := by
  decide

end Table

end Schema

end SchemaGate
