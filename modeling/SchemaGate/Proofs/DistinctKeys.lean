import SchemaGate.Proofs.DocumentTrees
import SchemaGate.Toml.Document
/-!
No table of a document has a key twice. Tables under construction keep their keys apart through
every pair and every header that is added. Main statement: what a text is read as is distinct.
-/

set_option autoImplicit false

namespace SchemaGate.Toml

private theorem entryValues_eq (entries : Entries) :
    entryValues entries = entries.map fun e => (e.1, e.2.value) := by
  induction entries with
  | nil => rfl
  | cons e entries ih => rw [entryValues, ih, List.map_cons]

private theorem nodeValues_eq (items : List Node) : nodeValues items = items.map Node.value := by
  induction items with
  | nil => rfl
  | cons n items ih => rw [nodeValues, ih, List.map_cons]

namespace Entries

/-- The table that the entries become has no key twice, at any depth. -/
def Unrepeated (entries : Entries) : Prop := Distinct (.table (entryValues entries))

private theorem unrepeated_iff {entries : Entries} : entries.Unrepeated ↔
    (entries.map Prod.fst).Nodup ∧ ∀ e ∈ entries, Distinct e.2.value := by
  unfold Unrepeated
  rw [distinct_table_iff, entryValues_eq, List.map_map, List.forall_mem_map]
  rfl

private theorem unrepeated_nil : Unrepeated [] := unrepeated_iff.mpr ⟨List.nodup_nil, nofun⟩

private theorem distinct_table {origin : Origin} {entries : Entries} :
    Distinct (Node.table origin entries).value ↔ entries.Unrepeated := by
  rw [Node.value]
  rfl

private theorem distinct_tables {items : List Node} :
    Distinct (Node.tables items).value ↔ ∀ n ∈ items, Distinct n.value := by
  rw [Node.value, nodeValues_eq, distinct_array_iff, List.forall_mem_map]

section

variable {entries entries' : Entries} {key : String} {node : Node} {v : Value}

private theorem mem_of_get? (found : get? entries key = some node) : (key, node) ∈ entries := by
  obtain ⟨e, here, rfl⟩ := Option.map_eq_some_iff.mp found
  have name := List.find?_some here
  rw [beq_iff_eq] at name
  exact name ▸ List.mem_of_find?_eq_some here

private theorem not_mem_of_get? (absent : get? entries key = none) :
    key ∉ entries.map Prod.fst := by
  intro member
  obtain ⟨e, here, name⟩ := List.mem_map.mp member
  have other := List.find?_eq_none.mp (Option.map_eq_none_iff.mp absent) e here
  exact other (beq_iff_eq.mpr name)

private theorem unrepeated_append (before : entries.Unrepeated) (fresh : key ∉ entries.map Prod.fst)
    (distinct : Distinct node.value) : Unrepeated (entries ++ [(key, node)]) := by
  obtain ⟨nodup, below⟩ := unrepeated_iff.mp before
  refine unrepeated_iff.mpr ⟨?_, ?_⟩
  · rw [List.map_append, List.nodup_append]
    refine ⟨nodup, List.nodup_singleton _, fun a left b right same => ?_⟩
    obtain rfl := List.mem_singleton.mp right
    exact fresh (same ▸ left)
  · intro e member
    rcases List.mem_append.mp member with old | new
    · exact below e old
    · rw [List.mem_singleton.mp new]
      exact distinct

private theorem unrepeated_set (before : entries.Unrepeated) (distinct : Distinct node.value) :
    (entries.set key node).Unrepeated := by
  obtain ⟨nodup, below⟩ := unrepeated_iff.mp before
  have names : (entries.set key node).map Prod.fst = entries.map Prod.fst := by
    rw [set, List.map_map]
    refine List.map_congr_left fun e _ => ?_
    by_cases same : e.1 = key <;> simp [same]
  refine unrepeated_iff.mpr ⟨names ▸ nodup, ?_⟩
  rw [set, List.forall_mem_map]
  intro e member
  by_cases same : e.1 = key
  · simpa [same] using distinct
  · simpa [same] using below e member

private theorem unrepeated_erase (before : entries.Unrepeated) :
    (entries.erase key).Unrepeated := by
  obtain ⟨nodup, below⟩ := unrepeated_iff.mp before
  refine unrepeated_iff.mpr ⟨nodup.sublist (List.filter_sublist.map _), fun e member => ?_⟩
  exact below e (List.mem_of_mem_filter member)

private theorem not_mem_erase : key ∉ (entries.erase key).map Prod.fst := by
  intro member
  obtain ⟨e, kept, name⟩ := List.mem_map.mp member
  have other := (List.mem_filter.mp kept).2
  simp [name] at other

private theorem unrepeated_within {dotted : Bool} {f : Origin → Entries → Option Entries}
    (keeps : ∀ origin entries entries', Unrepeated entries → f origin entries = some entries' →
      Unrepeated entries')
    {path : List String} {origin : Origin} (before : entries.Unrepeated)
    (changed : within dotted f path origin entries = some entries') : entries'.Unrepeated := by
  induction path generalizing origin entries entries' with
  | nil => exact keeps origin entries entries' before changed
  | cons key path ih =>
    obtain ⟨-, below⟩ := unrepeated_iff.mp before
    rw [within] at changed
    cases found : get? entries key with
    | none =>
      simp only [found, Option.map_eq_some_iff] at changed
      obtain ⟨sub, made, rfl⟩ := changed
      have inner := ih unrepeated_nil made
      exact unrepeated_append before (not_mem_of_get? found) (distinct_table.mpr inner)
    | some node =>
      have here : Distinct node.value := below _ (mem_of_get? found)
      cases node with
      | leaf v => simp [found] at changed
      | table reached sub =>
        simp only [found] at changed
        split at changed
        · exact nomatch changed
        · obtain ⟨sub', made, rfl⟩ := Option.map_eq_some_iff.mp changed
          exact unrepeated_set before (distinct_table.mpr (ih (distinct_table.mp here) made))
      | tables items =>
        simp only [found] at changed
        rw [distinct_tables] at here
        split at changed
        · rename_i reached sub last
          obtain ⟨sub', made, rfl⟩ := Option.map_eq_some_iff.mp changed
          -- Only the last of the tables is changed.
          have inner := distinct_table.mp (here _ (List.mem_of_getLast? last))
          refine unrepeated_set before (distinct_tables.mpr fun n member => ?_)
          rcases List.mem_append.mp member with old | new
          · exact here n ((List.dropLast_sublist items).subset old)
          · rw [List.mem_singleton.mp new]
            exact distinct_table.mpr (ih inner made)
        · exact nomatch changed

private theorem unrepeated_addPair {origin : Origin} {path : List String}
    (before : entries.Unrepeated) (distinct : Distinct v)
    (added : addPair origin entries path key v = some entries') :
    entries'.Unrepeated := by
  refine unrepeated_within (fun reached entries entries' before added => ?_) before added
  split at added
  · exact nomatch added
  · split at added
    · exact nomatch added
    · rename_i free
      obtain rfl := Option.some.inj added
      have absent : get? entries key = none := by simpa using free
      exact unrepeated_append before (not_mem_of_get? absent) (by rwa [Node.value])

private theorem unrepeated_addPairs {origin : Origin}
    {pairs : List ((List String × String) × Value)}
    (before : entries.Unrepeated) (distinct : ∀ p ∈ pairs, Distinct p.2)
    (added : addPairs origin entries pairs = some entries') : entries'.Unrepeated := by
  induction pairs generalizing entries with
  | nil =>
    obtain rfl := Option.some.inj added
    exact before
  | cons p pairs ih =>
    obtain ⟨first, rest⟩ := List.forall_mem_cons.mp distinct
    rw [addPairs] at added
    split at added
    · rename_i one
      exact ih (unrepeated_addPair before first one) rest added
    · exact nomatch added

private theorem unrepeated_addTable {path : List String}
    {pairs : List ((List String × String) × Value)}
    (before : entries.Unrepeated) (distinct : ∀ p ∈ pairs, Distinct p.2)
    (added : addTable entries path key pairs = some entries') : entries'.Unrepeated := by
  refine unrepeated_within (fun reached entries entries' before added => ?_) before added
  obtain ⟨-, below⟩ := unrepeated_iff.mp before
  -- The table is new, or one that deeper headers have implied; both are filled in one way.
  have started : ∀ sub, Unrepeated sub →
      (addPairs .header sub pairs).map
        (fun sub => erase entries key ++ [(key, .table .header sub)]) = some entries' →
      entries'.Unrepeated := by
    intro sub inner added
    obtain ⟨sub', made, rfl⟩ := Option.map_eq_some_iff.mp added
    have inner' := unrepeated_addPairs inner distinct made
    exact unrepeated_append (unrepeated_erase before) not_mem_erase (distinct_table.mpr inner')
  split at added
  · exact started [] unrepeated_nil added
  · rename_i sub found
    exact started sub (distinct_table.mp (below _ (mem_of_get? found))) added
  · exact nomatch added

private theorem unrepeated_addTableItem {path : List String}
    {pairs : List ((List String × String) × Value)} (before : entries.Unrepeated)
    (distinct : ∀ p ∈ pairs, Distinct p.2)
    (added : addTableItem entries path key pairs = some entries') : entries'.Unrepeated := by
  refine unrepeated_within (fun reached entries entries' before added => ?_) before added
  obtain ⟨-, below⟩ := unrepeated_iff.mp before
  split at added
  · rename_i sub made absent
    obtain rfl := Option.some.inj added
    have inner := unrepeated_addPairs unrepeated_nil distinct made
    have fresh := not_mem_of_get? absent
    refine unrepeated_append before fresh (distinct_tables.mpr fun n member => ?_)
    rw [List.mem_singleton.mp member]
    exact distinct_table.mpr inner
  · rename_i sub items made found
    obtain rfl := Option.some.inj added
    have inner := unrepeated_addPairs unrepeated_nil distinct made
    have here := distinct_tables.mp (below _ (mem_of_get? found))
    refine unrepeated_set before (distinct_tables.mpr fun n member => ?_)
    rcases List.mem_append.mp member with old | new
    · exact here n old
    · rw [List.mem_singleton.mp new]
      exact distinct_table.mpr inner
  · exact nomatch added

end

end Entries

private theorem distinct_string (s : String) : Distinct (.string s) := nofun

private theorem distinct_of_scalar? {s : List Char} {v : Value} (read : scalar? s = some v) :
    Distinct v := by
  unfold scalar? at read
  split at read
  · obtain rfl := Option.some.inj read
    exact nofun
  split at read
  · obtain rfl := Option.some.inj read
    exact nofun
  split at read
  · obtain rfl := Option.some.inj read
    exact nofun
  rcases Option.or_eq_some_iff.mp read with float | ⟨-, integer⟩
  · obtain ⟨x, -, rfl⟩ := Option.map_eq_some_iff.mp float
    exact nofun
  · obtain ⟨n, -, rfl⟩ := Option.map_eq_some_iff.mp integer
    exact nofun

/-- What the readers of the grammar give with some fuel is distinct. -/
structure Yields (fuel : Nat) : Prop where
  value : ∀ depth s v r, value? fuel depth s = some (v, r) → Distinct v
  items : ∀ depth s vs r, items? fuel depth s = some (vs, r) → ∀ v ∈ vs, Distinct v
  pairs : ∀ depth s ps r, pairs? fuel depth s = some (ps, r) → ∀ p ∈ ps, Distinct p.2
  pair : ∀ depth s p r, pair? fuel depth s = some (p, r) → Distinct p.2

namespace Yields

variable {fuel depth : Nat} {s r : List Char}

private theorem value_succ (y : Yields fuel) {v : Value}
    (read : value? (fuel + 1) depth s = some (v, r)) :
    Distinct v := by
  rw [value?.eq_def] at read
  simp only at read
  split at read
  · cases read
  · split at read
    · cases read
    · obtain ⟨⟨vs, r⟩, inner, same⟩ := Option.map_eq_some_iff.mp read
      obtain ⟨rfl, rfl⟩ := Prod.mk.inj same
      exact distinct_array_iff.mpr (y.items _ _ _ _ inner)
  · split at read
    · cases read
    · split at read
      · obtain ⟨rfl, rfl⟩ := Prod.mk.inj (Option.some.inj read)
        exact Entries.unrepeated_nil
      · split at read
        · cases read
        · rename_i ps r inner
          obtain ⟨entries, added, same⟩ := Option.map_eq_some_iff.mp read
          obtain ⟨rfl, rfl⟩ := Prod.mk.inj same
          exact Entries.unrepeated_addPairs Entries.unrepeated_nil (y.pairs _ _ _ _ inner) added
  · split at read
    · obtain ⟨_, -, same⟩ := Option.map_eq_some_iff.mp read
      obtain ⟨rfl, rfl⟩ := Prod.mk.inj same
      exact distinct_string _
    · obtain ⟨w, scalar, same⟩ := Option.map_eq_some_iff.mp read
      obtain ⟨rfl, rfl⟩ := Prod.mk.inj same
      exact distinct_of_scalar? scalar

private theorem items_succ (y : Yields fuel) {vs : List Value}
    (read : items? (fuel + 1) depth s = some (vs, r)) : ∀ v ∈ vs, Distinct v := by
  rw [items?.eq_def] at read
  simp only at read
  split at read
  · cases read
  · obtain ⟨rfl, rfl⟩ := Prod.mk.inj (Option.some.inj read)
    exact List.forall_mem_nil _
  · split at read
    · cases read
    · rename_i v r first
      have head := y.value _ _ _ _ first
      split at read
      · obtain ⟨⟨rest, r⟩, more, same⟩ := Option.map_eq_some_iff.mp read
        obtain ⟨rfl, rfl⟩ := Prod.mk.inj same
        exact List.forall_mem_cons.mpr ⟨head, y.items _ _ _ _ more⟩
      · obtain ⟨rfl, rfl⟩ := Prod.mk.inj (Option.some.inj read)
        exact List.forall_mem_singleton.mpr head
      · cases read

private theorem pairs_succ (y : Yields fuel) {ps : List ((List String × String) × Value)}
    (read : pairs? (fuel + 1) depth s = some (ps, r)) : ∀ p ∈ ps, Distinct p.2 := by
  rw [pairs?.eq_def] at read
  simp only at read
  split at read
  · cases read
  · rename_i p r first
    have head := y.pair _ _ _ _ first
    split at read
    · obtain ⟨⟨rest, r⟩, more, same⟩ := Option.map_eq_some_iff.mp read
      obtain ⟨rfl, rfl⟩ := Prod.mk.inj same
      exact List.forall_mem_cons.mpr ⟨head, y.pairs _ _ _ _ more⟩
    · obtain ⟨rfl, rfl⟩ := Prod.mk.inj (Option.some.inj read)
      exact List.forall_mem_singleton.mpr head
    · cases read

private theorem pair_succ (y : Yields fuel) {p : (List String × String) × Value}
    (read : pair? (fuel + 1) depth s = some (p, r)) : Distinct p.2 := by
  rw [pair?.eq_def] at read
  simp only at read
  split at read
  · obtain ⟨⟨v, r⟩, inner, same⟩ := Option.map_eq_some_iff.mp read
    obtain ⟨rfl, rfl⟩ := Prod.mk.inj same
    exact y.value _ _ _ _ inner
  · cases read

end Yields

private theorem yields (fuel : Nat) : Yields fuel := by
  induction fuel with
  | zero => constructor <;> intro depth s x r read <;> simp [value?, items?, pairs?, pair?] at read
  | succ fuel ih =>
    exact ⟨fun _ _ _ _ => ih.value_succ, fun _ _ _ _ => ih.items_succ,
      fun _ _ _ _ => ih.pairs_succ, fun _ _ _ _ => ih.pair_succ⟩

def Line.Distinct : Line → Prop
  | .pair _ v => Toml.Distinct v
  | .header _ _ => True

private theorem distinct_of_statement? {s r : List Char} {line : Line}
    (read : statement? s = some (line, r)) : line.Distinct := by
  unfold statement? at read
  split at read
  · unfold header? at read
    split at read
    · split at read
      · obtain ⟨rfl, rfl⟩ := Prod.mk.inj (Option.some.inj read)
        trivial
      · exact nomatch read
    · split at read
      · obtain ⟨rfl, rfl⟩ := Prod.mk.inj (Option.some.inj read)
        trivial
      · exact nomatch read
    · exact nomatch read
  · obtain ⟨p, pair, same⟩ := Option.map_eq_some_iff.mp read
    obtain ⟨rfl, rfl⟩ := Prod.mk.inj same
    exact (yields _).pair _ _ _ _ pair

private theorem distinct_of_linesFrom? {fuel : Nat} {s : List Char} {lines : List Line}
    (read : linesFrom? fuel s = some lines) : ∀ line ∈ lines, line.Distinct := by
  induction fuel generalizing s lines with
  | zero => exact nomatch read
  | succ fuel ih =>
    rw [linesFrom?] at read
    split at read
    · exact nomatch read
    · obtain rfl := Option.some.inj read
      exact nofun
    · split at read
      · exact nomatch read
      · rename_i line r first
        split at read
        · exact nomatch read
        · obtain ⟨rest, more, rfl⟩ := Option.map_eq_some_iff.mp read
          exact List.forall_mem_cons.mpr ⟨distinct_of_statement? first, ih more⟩

private theorem distinct_splitPairs {lines : List Line} (distinct : ∀ line ∈ lines, line.Distinct) :
    (∀ p ∈ (splitPairs lines).1, Toml.Distinct p.2) ∧
      ∀ line ∈ (splitPairs lines).2, line.Distinct := by
  induction lines with
  | nil => exact ⟨nofun, nofun⟩
  | cons line lines ih =>
    obtain ⟨first, rest⟩ := List.forall_mem_cons.mp distinct
    cases line with
    | pair key v =>
      obtain ⟨pairs, later⟩ := ih rest
      exact ⟨List.forall_mem_cons.mpr ⟨first, pairs⟩, later⟩
    | header item key => exact ⟨nofun, distinct⟩

private theorem unrepeated_addSections {fuel : Nat} {entries entries' : Entries} {lines : List Line}
    (before : entries.Unrepeated) (distinct : ∀ line ∈ lines, line.Distinct)
    (added : addSections fuel entries lines = some entries') : entries'.Unrepeated := by
  induction fuel generalizing entries lines with
  | zero =>
    cases lines with
    | nil =>
      obtain rfl := Option.some.inj added
      exact before
    | cons line lines => exact nomatch added
  | succ fuel ih =>
    cases lines with
    | nil =>
      obtain rfl := Option.some.inj added
      exact before
    | cons line lines =>
      cases line with
      | pair key v => exact nomatch added
      | header item key =>
        obtain ⟨-, rest⟩ := List.forall_mem_cons.mp distinct
        obtain ⟨pairs, later⟩ := distinct_splitPairs rest
        simp only [addSections] at added
        split at added
        · rename_i entries₁ one
          have here : entries₁.Unrepeated := by
            split at one
            · exact Entries.unrepeated_addTableItem before pairs one
            · exact Entries.unrepeated_addTable before pairs one
          exact ih here later added
        · exact nomatch added

theorem distinct_of_read? {text : String} {entries : List (String × Value)}
    (read : read? text = some entries) : Distinct (.table entries) := by
  unfold read? at read
  split at read
  · exact nomatch read
  · rename_i lines found
    have distinct : ∀ line ∈ lines, line.Distinct := by
      unfold lines? at found
      exact distinct_of_linesFrom? found
    obtain ⟨pairs, later⟩ := distinct_splitPairs distinct
    simp only at read
    split at read
    · exact nomatch read
    · rename_i root added
      have here := Entries.unrepeated_addPairs Entries.unrepeated_nil pairs added
      obtain ⟨whole, made, rfl⟩ := Option.map_eq_some_iff.mp read
      exact unrepeated_addSections here later made

end SchemaGate.Toml
