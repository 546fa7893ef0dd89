import SchemaGate.Toml.Value
import Mathlib.Data.List.Forall2
import Mathlib.Data.List.Nodup
/-!
Document trees and what is asked of them. A kind tells which values fit it and what such a value
means; the kind of a record lists its keys. Values are alike that differ only in the order of the
entries in their tables.
-/

set_option autoImplicit false

namespace SchemaGate.Toml

inductive Within : Value → Value → Prop
  | self (v : Value) : Within v v
  | item {w v : Value} {items : List Value} : v ∈ items → Within w v → Within w (.array items)
  | entry {w : Value} {e : String × Value} {entries : List (String × Value)} :
      e ∈ entries → Within w e.2 → Within w (.table entries)

/-- No table in a value has a key twice. -/
def Distinct (v : Value) : Prop :=
  ∀ entries, Within (.table entries) v → (entries.map Prod.fst).Nodup

theorem distinct_array_iff {items : List Value} :
    Distinct (.array items) ↔ ∀ v ∈ items, Distinct v := by
  constructor
  · intro distinct v member entries within
    exact distinct entries (.item member within)
  · intro each entries within
    cases within with
    | item member within => exact each _ member entries within

theorem distinct_table_iff {entries : List (String × Value)} :
    Distinct (.table entries) ↔
      (entries.map Prod.fst).Nodup ∧ ∀ e ∈ entries, Distinct e.2 := by
  constructor
  · intro distinct
    exact ⟨distinct entries (.self _), fun e member below within =>
      distinct below (.entry member within)⟩
  · rintro ⟨here, below⟩ entries' within
    cases within with
    | self => exact here
    | entry member within => exact below _ member entries' within

theorem value_unique {entries : List (String × Value)} {key : String} {v w : Value}
    (nodup : (entries.map Prod.fst).Nodup) (left : (key, v) ∈ entries)
    (right : (key, w) ∈ entries) : v = w :=
  (Prod.mk.inj (List.inj_on_of_nodup_map nodup left right rfl)).2

/-- The entries of tables are in another order, at any depth. Arrays keep their order. -/
inductive Rearranged : Value → Value → Prop
  | same (v : Value) : Rearranged v v
  | array {items items' : List Value} :
      List.Forall₂ Rearranged items items' → Rearranged (.array items) (.array items')
  | table {entries reordered entries' : List (String × Value)} : entries.Perm reordered →
      reordered.map Prod.fst = entries'.map Prod.fst →
      List.Forall₂ Rearranged (reordered.map Prod.snd) (entries'.map Prod.snd) →
      Rearranged (.table entries) (.table entries')

section

variable {R : Value → Value → Prop} {entries entries' : List (String × Value)}

private theorem exists_mem_of_aligned (names : entries.map Prod.fst = entries'.map Prod.fst)
    (values : List.Forall₂ R (entries.map Prod.snd) (entries'.map Prod.snd)) {key : String}
    {v : Value} (member : (key, v) ∈ entries) : ∃ w, (key, w) ∈ entries' ∧ R v w := by
  induction entries generalizing entries' with
  | nil => exact nomatch member
  | cons e entries ih =>
    cases entries' with
    | nil => exact nomatch names
    | cons e' entries' =>
      obtain ⟨name, names⟩ := List.cons.inj names
      obtain ⟨value, values⟩ := List.forall₂_cons.mp values
      rcases List.mem_cons.mp member with rfl | member
      · exact ⟨e'.2, List.mem_cons.mpr (.inl (Prod.ext name rfl)), value⟩
      · obtain ⟨w, found, related⟩ := ih names values member
        exact ⟨w, List.mem_cons_of_mem _ found, related⟩

/-- Two tables that differ in their order alone have the same keys, with values that do so too. -/
structure Aligned (entries entries' : List (String × Value)) : Prop where
  names : (entries.map Prod.fst).Perm (entries'.map Prod.fst)
  forth : ∀ key v, (key, v) ∈ entries → ∃ w, (key, w) ∈ entries' ∧ Rearranged v w
  back : ∀ key w, (key, w) ∈ entries' → ∃ v, (key, v) ∈ entries ∧ Rearranged v w

theorem Aligned.forall_names_iff (aligned : Aligned entries entries') {P : String → Prop} :
    (∀ e ∈ entries, P e.1) ↔ ∀ e ∈ entries', P e.1 := by
  constructor
  · intro each e member
    obtain ⟨v, found, -⟩ := aligned.back e.1 e.2 member
    have known : P e.1 := each (e.1, v) found
    exact known
  · intro each e member
    obtain ⟨w, found, -⟩ := aligned.forth e.1 e.2 member
    have known : P e.1 := each (e.1, w) found
    exact known

theorem Rearranged.aligned (moved : Rearranged (.table entries) (.table entries')) :
    Aligned entries entries' := by
  cases moved with
  | same =>
    exact ⟨.refl _, fun _ v member => ⟨v, member, .same v⟩, fun _ v member => ⟨v, member, .same v⟩⟩
  | table order names values =>
    refine ⟨names ▸ order.map Prod.fst, ?_, ?_⟩
    · intro key v member
      exact exists_mem_of_aligned names values (order.mem_iff.mp member)
    · intro key w member
      -- Reordering back needs no symmetry of `Rearranged`, only the lists side by side.
      obtain ⟨v, found, related⟩ :=
        exists_mem_of_aligned (R := flip Rearranged) names.symm values.flip member
      exact ⟨v, order.mem_iff.mpr found, related⟩

end

/-- What is asked of a value: whether it fits, and what it then means. -/
structure Kind (α : Type) where
  Fits : Value → Prop
  Means : Value → α → Prop
  /-- No array stands where a table is wanted. -/
  Tabular : Value → Prop

/-- A key that a table may have, or has to have. -/
structure Key where
  name : String
  required : Bool
  {Content : Type}
  kind : Kind Content

/-- Every entry has one of the keys and fits it, and each key that is required is there. -/
structure Keyed (keys : List Key) (entries : List (String × Value)) : Prop where
  declared : ∀ e ∈ entries, ∃ k ∈ keys, k.name = e.1 ∧ k.kind.Fits e.2
  complete : ∀ k ∈ keys, k.required = true → ∃ v, (k.name, v) ∈ entries

namespace Kind

variable {α : Type}

def leaf (Means : Value → α → Prop) : Kind α where
  Fits v := ∃ x, Means v x
  Means := Means
  Tabular _ := True

def text : Kind String := leaf fun v s => v = .string s

def flag : Kind Bool := leaf fun v b => v = .boolean b

def integer : Kind Int := leaf fun v n => v = .integer n

def count : Kind Nat := leaf fun v n => v = .integer n ∧ n ≤ 4294967295

theorem tabular_leaf (Means : Value → α → Prop) (v : Value) : (leaf Means).Tabular v := trivial

def listOf (kind : Kind α) : Kind (List α) where
  Fits v := ∃ items, v = .array items ∧ ∀ item ∈ items, kind.Fits item
  Means v xs := ∃ items, v = .array items ∧ List.Forall₂ kind.Means items xs
  Tabular v := ∀ items, v = .array items → ∀ item ∈ items, kind.Tabular item

/-- A table that has no keys but the given ones. -/
def tableOf (keys : List Key) (Means : List (String × Value) → α → Prop) : Kind α where
  Fits v := ∃ entries, v = .table entries ∧ Keyed keys entries
  Means v x := ∃ entries, v = .table entries ∧
    (∀ e ∈ entries, ∃ k ∈ keys, k.name = e.1) ∧ Means entries x
  Tabular v := (∀ items, v ≠ .array items) ∧ ∀ entries, v = .table entries →
    ∀ k ∈ keys, ∀ w, (k.name, w) ∈ entries → k.kind.Tabular w

section

variable {kind : Kind α} {items : List Value} {keys : List Key} {entries : List (String × Value)}
  {Means : List (String × Value) → α → Prop}

theorem fits_array_iff : (listOf kind).Fits (.array items) ↔ ∀ item ∈ items, kind.Fits item := by
  simp [listOf]

theorem means_array_iff {xs : List α} :
    (listOf kind).Means (.array items) xs ↔ List.Forall₂ kind.Means items xs := by
  simp [listOf]

theorem tabular_array_iff :
    (listOf kind).Tabular (.array items) ↔ ∀ item ∈ items, kind.Tabular item := by
  simp [listOf]

theorem fits_table_iff : (tableOf keys Means).Fits (.table entries) ↔ Keyed keys entries := by
  simp [tableOf]

theorem means_table_iff {x : α} : (tableOf keys Means).Means (.table entries) x ↔
    (∀ e ∈ entries, ∃ k ∈ keys, k.name = e.1) ∧ Means entries x := by
  simp [tableOf]

theorem tabular_table_iff : (tableOf keys Means).Tabular (.table entries) ↔
    ∀ k ∈ keys, ∀ v, (k.name, v) ∈ entries → k.kind.Tabular v := by
  simp [tableOf]

end

end Kind

/-- What entries say about a key: a value that means `x`, or nothing. -/
def Given {α : Type} (Means : Value → α → Prop) (entries : List (String × Value)) (key : String) :
    Option α → Prop
  | some x => ∃ v, (key, v) ∈ entries ∧ Means v x
  | none => ∀ v, (key, v) ∉ entries

section

variable {α : Type} {Means Means' : Value → α → Prop} {entries entries' : List (String × Value)}
  {key : String} {o o' : Option α}

theorem given_congr (same : ∀ v x, (key, v) ∈ entries → (Means v x ↔ Means' v x)) :
    Given Means entries key o ↔ Given Means' entries key o := by
  cases o with
  | none => exact Iff.rfl
  | some x => exact exists_congr fun v => and_congr_right fun member => same v x member

theorem Given.ne_none_iff (given : Given Means entries key o) :
    o ≠ none ↔ ∃ v, (key, v) ∈ entries := by
  cases o with
  | none =>
    constructor
    · intro other
      exact absurd rfl other
    · rintro ⟨v, member⟩
      exact absurd member (given v)
  | some x =>
    obtain ⟨v, member, -⟩ := given
    exact ⟨fun _ => ⟨v, member⟩, fun _ => nofun⟩

theorem Given.unique (nodup : (entries.map Prod.fst).Nodup)
    (one : ∀ v x y, Means v x → Means v y → x = y) (left : Given Means entries key o)
    (right : Given Means entries key o') : o = o' := by
  cases o with
  | none =>
    cases o' with
    | none => rfl
    | some y =>
      obtain ⟨v, member, -⟩ := right
      exact absurd member (left v)
  | some x =>
    obtain ⟨v, member, means⟩ := left
    cases o' with
    | none => exact absurd member (right v)
    | some y =>
      obtain ⟨w, member', means'⟩ := right
      obtain rfl := value_unique nodup member member'
      rw [one v x y means means']

theorem Aligned.given_iff (aligned : Aligned entries entries')
    (same : ∀ v w x, (key, v) ∈ entries → Rearranged v w → (Means v x ↔ Means w x)) :
    Given Means entries key o ↔ Given Means entries' key o := by
  cases o with
  | none =>
    constructor
    · intro absent w member
      obtain ⟨v, member, -⟩ := aligned.back key w member
      exact absent v member
    · intro absent v member
      obtain ⟨w, member, -⟩ := aligned.forth key v member
      exact absent w member
  | some x =>
    constructor
    · rintro ⟨v, member, means⟩
      obtain ⟨w, member', moved⟩ := aligned.forth key v member
      exact ⟨w, member', (same v w x member moved).mp means⟩
    · rintro ⟨w, member', means⟩
      obtain ⟨v, member, moved⟩ := aligned.back key w member'
      exact ⟨v, member, (same v w x member moved).mpr means⟩

end

end SchemaGate.Toml
