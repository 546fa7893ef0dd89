import SchemaGate.Document.Reader
import SchemaGate.Proofs.DocumentTrees
import SchemaGate.Proofs.ListReading
/-!
Records read from tables. A record reads each of its keys into a slot of its draft, so the order of
the entries does not matter. Main statement: if every slot is read as its kind wants, then so is the
record.
-/

set_option autoImplicit false

namespace SchemaGate.Document

open Toml (Kind Key Keyed Given Distinct Rearranged Aligned distinct_array_iff
  distinct_table_iff value_unique given_congr)

/-- The reader takes the values that fit the kind, for what they mean, in any order of the entries
of their tables. -/
structure Reads {α : Type} (reader : Reader α) (kind : Kind α) : Prop where
  accepts : ∀ v, Distinct v → kind.Tabular v → ((∃ x, reader v = .ok x) ↔ kind.Fits v)
  means : ∀ v x, Distinct v → kind.Tabular v → (reader v = .ok x ↔ kind.Means v x)
  stable : ∀ v w x, Distinct v → kind.Tabular v → Rearranged v w →
    (reader v = .ok x ↔ reader w = .ok x)

private theorem reads_leaf {α : Type} {reader : Reader α} {Means : Toml.Value → α → Prop}
    (array : ∀ items x, reader (.array items) ≠ .ok x)
    (table : ∀ entries x, reader (.table entries) ≠ .ok x)
    (means : ∀ v x, reader v = .ok x ↔ Means v x) : Reads reader (.leaf Means) where
  accepts v _ _ := exists_congr (means v)
  means v x _ _ := means v x
  stable v w x _ _ moved := by
    cases moved with
    | same => rfl
    | array => simp [array]
    | table => simp [table]

theorem reads_string : Reads string .text := by
  refine reads_leaf nofun nofun fun v x => ?_
  cases v <;> simp [string, refuse]

theorem reads_boolean : Reads boolean .flag := by
  refine reads_leaf nofun nofun fun v x => ?_
  cases v <;> simp [boolean, refuse]

theorem reads_signed64 : Reads signed64 .integer := by
  refine reads_leaf nofun nofun fun v x => ?_
  cases v <;> simp [signed64, refuse]

theorem reads_unsigned32 : Reads unsigned32 .count := by
  refine reads_leaf nofun nofun fun v x => ?_
  cases v with
  | integer n =>
    have inside : (decide (0 ≤ n) && decide (n < (unsigned32Limit : Int))) = true ↔
        0 ≤ n ∧ n < unsigned32Limit := by
      rw [Bool.and_eq_true, decide_eq_true_iff, decide_eq_true_iff]
    have limit : unsigned32Limit = 4294967296 := rfl
    simp only [unsigned32, inside, Toml.Value.integer.injEq]
    split
    · rw [Except.ok.injEq]
      omega
    · simp only [reduceCtorEq, false_iff]
      omega
  | _ => simp [unsigned32, refuse]

section Sequences

variable {α : Type} {item : Reader α} {kind : Kind α}

private theorem forall₂_congr_left {β γ : Type} {P Q : β → γ → Prop} {as : List β} {bs : List γ}
    (same : ∀ a ∈ as, ∀ b, P a b ↔ Q a b) : List.Forall₂ P as bs ↔ List.Forall₂ Q as bs := by
  induction as generalizing bs with
  | nil => simp only [List.forall₂_nil_left_iff]
  | cons a as ih =>
    obtain ⟨head, tail⟩ := List.forall_mem_cons.mp same
    simp only [List.forall₂_cons_left_iff, head, ih tail]

private theorem mapM_stable (read : Reads item kind) {items items' : List Toml.Value} {xs : List α}
    (distinct : ∀ v ∈ items, Distinct v) (tabular : ∀ v ∈ items, kind.Tabular v)
    (moved : List.Forall₂ Rearranged items items') :
    items.mapM item = .ok xs ↔ items'.mapM item = .ok xs := by
  rw [mapM_ok_iff, mapM_ok_iff]
  -- Item by item: the arrays are in the same order, only the items are rearranged.
  induction moved generalizing xs with
  | nil => rfl
  | cons first _ ih =>
    obtain ⟨distinct, distincts⟩ := List.forall_mem_cons.mp distinct
    obtain ⟨tabular, tabulars⟩ := List.forall_mem_cons.mp tabular
    simp only [List.forall₂_cons_left_iff, read.stable _ _ _ distinct tabular first,
      ih distincts tabulars]

theorem reads_sequence (read : Reads item kind) : Reads (sequence item) (.listOf kind) where
  accepts v distinct tabular := by
    cases v with
    | array items =>
      rw [distinct_array_iff] at distinct
      rw [Kind.tabular_array_iff] at tabular
      have each : ∀ v ∈ items, (∃ x, item v = .ok x) ↔ kind.Fits v := fun v member =>
        read.accepts v (distinct v member) (tabular v member)
      rw [Kind.fits_array_iff, ← forall₂_congr each]
      exact exists_mapM_ok_iff
    | _ => simp [sequence, refuse, Kind.listOf]
  means v xs distinct tabular := by
    cases v with
    | array items =>
      rw [distinct_array_iff] at distinct
      rw [Kind.tabular_array_iff] at tabular
      have each : ∀ v ∈ items, ∀ x, item v = .ok x ↔ kind.Means v x := fun v member x =>
        read.means v x (distinct v member) (tabular v member)
      rw [Kind.means_array_iff, ← forall₂_congr_left each]
      exact mapM_ok_iff
    | _ => simp [sequence, refuse, Kind.listOf]
  stable v w xs distinct tabular moved := by
    cases moved with
    | same => rfl
    | array moved =>
      rw [distinct_array_iff] at distinct
      rw [Kind.tabular_array_iff] at tabular
      exact mapM_stable read distinct tabular moved
    | table => simp [sequence, refuse]

end Sequences

namespace Record

/-- A key of a record, how its value is read, and where a draft keeps it. -/
structure Slot (δ : Type) where
  key : Key
  reader : Reader key.Content
  get : δ → Option key.Content
  set : key.Content → δ → δ

variable {δ α : Type}

/-- The record has these slots and no others, and reads each as the kind of its key wants. -/
structure Uses (r : Record δ α) (slots : List (Slot δ)) : Prop where
  closed : r.closed = true
  fields : r.fields.map Field.name = slots.map fun s => s.key.name
  nodup : (slots.map fun s => s.key.name).Nodup
  dateless : ∀ s ∈ slots, s.key.name ≠ dateTimeKey
  start : ∀ s ∈ slots, s.get r.start = none
  put : ∀ s ∈ slots, ∀ v d, r.put s.key.name v d = (s.reader v).map (s.set · d)
  get_set : ∀ s ∈ slots, ∀ x d, s.get (s.set x d) = some x
  get_set_of_ne : ∀ s ∈ slots, ∀ t ∈ slots, s.key.name ≠ t.key.name →
    ∀ x d, t.get (s.set x d) = t.get d
  ext : ∀ d d', (∀ s ∈ slots, s.get d = s.get d') → d = d'
  finish : ∀ d, (∃ a, r.finish d = .ok a) ↔
    ∀ s ∈ slots, s.key.required = true → s.get d ≠ none
  reads : ∀ s ∈ slots, Reads s.reader s.key.kind

namespace Uses

variable {r : Record δ α} {slots : List (Slot δ)} {entries : List (String × Toml.Value)} {d d' : δ}
  {a : α}

private theorem has_iff (u : r.Uses slots) {key : String} :
    r.has key = true ↔ ∃ s ∈ slots, s.key.name = key := by
  have field : r.has key = true ↔ key ∈ r.fields.map Field.name := by
    simp [has, List.mem_map]
  rw [field, u.fields, List.mem_map]

private theorem putEntry_ok_iff (u : r.Uses slots) {e : String × Toml.Value} :
    r.putEntry d e = .ok d' ↔
      ∃ s ∈ slots, s.key.name = e.1 ∧ ∃ x, s.reader e.2 = .ok x ∧ d' = s.set x d := by
  unfold putEntry
  by_cases has : r.has e.1 = true
  · obtain ⟨s, member, name⟩ := u.has_iff.mp has
    rw [if_pos has, ← name, u.put s member]
    constructor
    · intro put
      cases read : s.reader e.2 with
      | error complaint =>
        rw [read] at put
        exact nomatch put
      | ok x =>
        rw [read] at put
        exact ⟨s, member, rfl, x, read, (Except.ok.inj put).symm⟩
    · rintro ⟨t, member', name', x, read, rfl⟩
      obtain rfl := List.inj_on_of_nodup_map u.nodup member' member name'
      rw [read]
      rfl
  · rw [if_neg has, if_pos u.closed]
    constructor
    · intro put
      exact nomatch put
    · rintro ⟨s, member, name, -⟩
      exact absurd (u.has_iff.mpr ⟨s, member, name⟩) has

private theorem foldlM_cons_ok_iff {e : String × Toml.Value} :
    (e :: entries).foldlM r.putEntry d = .ok d' ↔
      ∃ d₁, r.putEntry d e = .ok d₁ ∧ entries.foldlM r.putEntry d₁ = .ok d' := by
  rw [List.foldlM_cons]
  cases r.putEntry d e <;> simp [Bind.bind, Except.bind]

private theorem exists_foldlM_ok_iff (u : r.Uses slots) :
    (∃ d', entries.foldlM r.putEntry d = .ok d') ↔
      ∀ e ∈ entries, ∃ s ∈ slots, s.key.name = e.1 ∧ ∃ x, s.reader e.2 = .ok x := by
  induction entries generalizing d with
  | nil => simp [Pure.pure, Except.pure]
  | cons e entries ih =>
    simp only [foldlM_cons_ok_iff, u.putEntry_ok_iff, List.forall_mem_cons]
    constructor
    · rintro ⟨d', _, ⟨s, member, name, x, read, rfl⟩, rest⟩
      exact ⟨⟨s, member, name, x, read⟩, ih.mp ⟨d', rest⟩⟩
    · rintro ⟨⟨s, member, name, x, read⟩, rest⟩
      obtain ⟨d', rest⟩ := ih (d := s.set x d) |>.mpr rest
      exact ⟨d', _, ⟨s, member, name, x, read, rfl⟩, rest⟩

private theorem get_of_foldlM (u : r.Uses slots) {s : Slot δ} (member : s ∈ slots)
    (read : entries.foldlM r.putEntry d = .ok d') :
    (∃ v x, (s.key.name, v) ∈ entries ∧ s.reader v = .ok x ∧ s.get d' = some x) ∨
      (∀ v, (s.key.name, v) ∉ entries) ∧ s.get d' = s.get d := by
  induction entries generalizing d with
  | nil =>
    obtain rfl := Except.ok.inj read
    exact .inr ⟨nofun, rfl⟩
  | cons e entries ih =>
    obtain ⟨_, first, rest⟩ := foldlM_cons_ok_iff.mp read
    obtain ⟨t, member', name, x, value, rfl⟩ := u.putEntry_ok_iff.mp first
    -- A later entry of the same key would win, so what follows is looked at first.
    rcases ih rest with ⟨v, y, later, value', got⟩ | ⟨absent, kept⟩
    · exact .inl ⟨v, y, List.mem_cons_of_mem _ later, value', got⟩
    · by_cases same : s.key.name = t.key.name
      · obtain rfl := List.inj_on_of_nodup_map u.nodup member member' same
        have here : (s.key.name, e.2) ∈ e :: entries := by simp [name]
        exact .inl ⟨e.2, x, here, value, kept.trans (u.get_set s member x d)⟩
      · refine .inr ⟨fun v found => ?_, ?_⟩
        · rcases List.mem_cons.mp found with rfl | found
          · exact same name.symm
          · exact absent v found
        · exact kept.trans (u.get_set_of_ne t member' s member (Ne.symm same) x d)

private theorem given_of_foldlM (u : r.Uses slots)
    (read : entries.foldlM r.putEntry r.start = .ok d) :
    ∀ s ∈ slots, Given (fun v x => s.reader v = .ok x) entries s.key.name (s.get d) := by
  intro s member
  rcases u.get_of_foldlM member read with ⟨v, x, found, value, got⟩ | ⟨absent, kept⟩
  · rw [got]
    exact ⟨v, found, value⟩
  · rw [kept, u.start s member]
    exact absent

private theorem ofEntries_ok_iff_exists :
    r.ofEntries entries = .ok a ↔
      ∃ d, entries.foldlM r.putEntry r.start = .ok d ∧ r.finish d = .ok a := by
  unfold ofEntries
  cases entries.foldlM r.putEntry r.start <;> simp

private theorem ofEntries_ok_iff (u : r.Uses slots) (nodup : (entries.map Prod.fst).Nodup) :
    r.ofEntries entries = .ok a ↔ (∀ e ∈ entries, ∃ s ∈ slots, s.key.name = e.1) ∧
      ∃ d, (∀ s ∈ slots, Given (fun v x => s.reader v = .ok x) entries s.key.name (s.get d)) ∧
        r.finish d = .ok a := by
  rw [ofEntries_ok_iff_exists]
  constructor
  · rintro ⟨d, read, made⟩
    refine ⟨fun e member => ?_, d, u.given_of_foldlM read, made⟩
    obtain ⟨s, slot, name, -⟩ := u.exists_foldlM_ok_iff.mp ⟨d, read⟩ e member
    exact ⟨s, slot, name⟩
  · rintro ⟨declared, d, given, made⟩
    have readable : ∀ e ∈ entries,
        ∃ s ∈ slots, s.key.name = e.1 ∧ ∃ x, s.reader e.2 = .ok x := by
      intro e member
      obtain ⟨s, slot, name⟩ := declared e member
      have here : (s.key.name, e.2) ∈ entries := by simpa [name] using member
      have holds := given s slot
      cases got : s.get d with
      | none =>
        rw [got] at holds
        exact absurd here (holds e.2)
      | some x =>
        rw [got] at holds
        obtain ⟨v, found, value⟩ := holds
        obtain rfl := value_unique nodup found here
        exact ⟨s, slot, name, x, value⟩
    obtain ⟨d', read⟩ := u.exists_foldlM_ok_iff (d := r.start) |>.mpr readable
    -- Both drafts have in each slot what the entries give, and that is one thing.
    have same : d' = d := by
      refine u.ext d' d fun s slot => ?_
      refine Given.unique nodup (fun v x y one other => ?_) (u.given_of_foldlM read s slot)
        (given s slot)
      exact Except.ok.inj (one.symm.trans other)
    exact ⟨d', read, same ▸ made⟩

private theorem exists_ofEntries_ok_iff (u : r.Uses slots) :
    (∃ a, r.ofEntries entries = .ok a) ↔
      (∀ e ∈ entries, ∃ s ∈ slots, s.key.name = e.1 ∧ ∃ x, s.reader e.2 = .ok x) ∧
        ∀ s ∈ slots, s.key.required = true → ∃ v, (s.key.name, v) ∈ entries := by
  have present {d : δ} (read : entries.foldlM r.putEntry r.start = .ok d) {s : Slot δ}
      (slot : s ∈ slots) : s.get d ≠ none ↔ ∃ v, (s.key.name, v) ∈ entries :=
    (u.given_of_foldlM read s slot).ne_none_iff
  simp only [ofEntries_ok_iff_exists]
  constructor
  · rintro ⟨a, d, read, made⟩
    refine ⟨u.exists_foldlM_ok_iff.mp ⟨d, read⟩, fun s slot required => ?_⟩
    exact (present read slot).mp ((u.finish d).mp ⟨a, made⟩ s slot required)
  · rintro ⟨readable, complete⟩
    obtain ⟨d, read⟩ := u.exists_foldlM_ok_iff (d := r.start) |>.mpr readable
    have filled := fun s slot required => (present read slot).mpr (complete s slot required)
    obtain ⟨a, made⟩ := (u.finish d).mpr filled
    exact ⟨a, d, read, made⟩

private theorem tabular_slots {Means : List (String × Toml.Value) → α → Prop}
    (tabular : (Kind.tableOf (slots.map Slot.key) Means).Tabular (.table entries)) :
    ∀ s ∈ slots, ∀ v, (s.key.name, v) ∈ entries → s.key.kind.Tabular v :=
  List.forall_mem_map.mp (Kind.tabular_table_iff.mp tabular)

private theorem ofEntries_rearranged (u : r.Uses slots) {entries' : List (String × Toml.Value)}
    (distinct : Distinct (.table entries))
    (tabular : ∀ s ∈ slots, ∀ v, (s.key.name, v) ∈ entries → s.key.kind.Tabular v)
    (aligned : Aligned entries entries') :
    r.ofEntries entries = .ok a ↔ r.ofEntries entries' = .ok a := by
  obtain ⟨nodup, below⟩ := distinct_table_iff.mp distinct
  have nodup' := aligned.names.nodup_iff.mp nodup
  rw [u.ofEntries_ok_iff nodup, u.ofEntries_ok_iff nodup',
    aligned.forall_names_iff (P := fun name => ∃ s ∈ slots, s.key.name = name)]
  refine and_congr_right fun _ => exists_congr fun d => and_congr_left fun _ => ?_
  refine forall₂_congr fun s slot => aligned.given_iff fun v w x member moved => ?_
  exact (u.reads s slot).stable v w x (below _ member) (tabular s slot v member) moved

private theorem dateTime_refused (u : r.Uses slots) (text : String) :
    r.read (.dateTime text) ≠ .ok a := by
  intro read
  obtain ⟨readable, -⟩ := u.exists_ofEntries_ok_iff.mp ⟨a, read⟩
  obtain ⟨s, slot, name, -⟩ := readable _ (List.mem_singleton_self _)
  exact u.dateless s slot name

private theorem keyed_iff (u : r.Uses slots) (distinct : Distinct (.table entries))
    (tabular : ∀ s ∈ slots, ∀ v, (s.key.name, v) ∈ entries → s.key.kind.Tabular v) :
    (∃ a, r.ofEntries entries = .ok a) ↔ Keyed (slots.map Slot.key) entries := by
  obtain ⟨-, below⟩ := distinct_table_iff.mp distinct
  have fits {s : Slot δ} (slot : s ∈ slots) {e : String × Toml.Value} (member : e ∈ entries)
      (name : s.key.name = e.1) : (∃ x, s.reader e.2 = .ok x) ↔ s.key.kind.Fits e.2 :=
    (u.reads s slot).accepts e.2 (below e member) (tabular s slot e.2 (name ▸ member))
  rw [u.exists_ofEntries_ok_iff]
  constructor
  · rintro ⟨readable, complete⟩
    refine ⟨fun e member => ?_, List.forall_mem_map.mpr complete⟩
    obtain ⟨s, slot, name, value⟩ := readable e member
    exact ⟨s.key, List.mem_map_of_mem slot, name, (fits slot member name).mp value⟩
  · rintro ⟨declared, complete⟩
    refine ⟨fun e member => ?_, List.forall_mem_map.mp complete⟩
    obtain ⟨_, key, name, value⟩ := declared e member
    obtain ⟨s, slot, rfl⟩ := List.mem_map.mp key
    exact ⟨s, slot, name, (fits slot member name).mpr value⟩

private theorem means_iff (u : r.Uses slots) (distinct : Distinct (.table entries))
    (tabular : ∀ s ∈ slots, ∀ v, (s.key.name, v) ∈ entries → s.key.kind.Tabular v) :
    r.ofEntries entries = .ok a ↔ (∀ e ∈ entries, ∃ k ∈ slots.map Slot.key, k.name = e.1) ∧
      ∃ d, (∀ s ∈ slots, Given s.key.kind.Means entries s.key.name (s.get d)) ∧
        r.finish d = .ok a := by
  obtain ⟨nodup, below⟩ := distinct_table_iff.mp distinct
  have declared (name : String) :
      (∃ k ∈ slots.map Slot.key, k.name = name) ↔ ∃ s ∈ slots, s.key.name = name := by simp
  simp only [u.ofEntries_ok_iff nodup, declared]
  refine and_congr_right fun _ => exists_congr fun d => and_congr_left fun _ => ?_
  refine forall₂_congr fun s slot => given_congr fun v x member => ?_
  exact (u.reads s slot).means v x (below _ member) (tabular s slot v member)

end Uses

/-- A record is read as its keys want, if its draft tells what the entries mean. -/
theorem reads_record {r : Record δ α} {slots : List (Slot δ)} (u : r.Uses slots)
    {Means : List (String × Toml.Value) → α → Prop}
    (meant : ∀ entries a, (∃ d, (∀ s ∈ slots,
      Given s.key.kind.Means entries s.key.name (s.get d)) ∧ r.finish d = .ok a) ↔
        Means entries a) :
    Reads r.read (.tableOf (slots.map Slot.key) Means) where
  accepts v distinct tabular := by
    cases v with
    | table entries =>
      rw [Kind.fits_table_iff]
      exact u.keyed_iff distinct (Uses.tabular_slots tabular)
    | array items => exact absurd rfl (tabular.1 items)
    | dateTime text => simp [u.dateTime_refused, Kind.tableOf]
    | _ => simp [read, refuse, Kind.tableOf]
  means v a distinct tabular := by
    cases v with
    | table entries =>
      rw [Kind.means_table_iff, ← meant]
      exact u.means_iff distinct (Uses.tabular_slots tabular)
    | array items => exact absurd rfl (tabular.1 items)
    | dateTime text => simp [u.dateTime_refused, Kind.tableOf]
    | _ => simp [read, refuse, Kind.tableOf]
  stable v w a distinct tabular moved := by
    cases moved with
    | same => rfl
    | array => exact absurd rfl (tabular.1 _)
    | table order names values =>
      exact u.ofEntries_rearranged distinct (Uses.tabular_slots tabular)
        (Rearranged.table order names values).aligned

end Record

end SchemaGate.Document
