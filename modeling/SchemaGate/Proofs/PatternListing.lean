import Mathlib.Data.List.Infix
import SchemaGate.Proofs.Lookup
/-!
Databases listed by pattern. A server reads the string literal of a `SHOW DATABASES LIKE` statement,
takes its text as a pattern and gives a row for each database whose name matches. A name is escaped
twice on its way into that pattern. Main statement: on such a server the existence check finds a
database exactly if there is one of that very name, whatever wildcards the name contains.
-/

set_option autoImplicit false

namespace SchemaGate.MySql

def backslash : Char := '\x5c'

def quote : Char := '\x27'

namespace Literal

/-- What a backslash and the character after it stand for. An escaped wildcard keeps its backslash,
for it is the pattern that reads it. -/
def escaped : Char → List Char
  | '0' => ['\x00']
  | 'b' => ['\x08']
  | 't' => ['\t']
  | 'n' => ['\n']
  | 'r' => ['\r']
  | 'Z' => ['\x1a']
  | '%' => [backslash, '%']
  | '_' => [backslash, '_']
  | c => [c]

/-- Reads up to the first quote that is neither escaped nor paired; gives the text and what
follows. -/
def readBody : List Char → Option (List Char × List Char)
  | [] => none
  | c :: s =>
    if c = backslash then
      match s with
      | d :: r => (readBody r).map fun p => (escaped d ++ p.1, p.2)
      | [] => none
    else if c = quote then
      match s with
      | d :: r =>
        if d = quote then (readBody r).map fun p => (quote :: p.1, p.2) else some ([], s)
      | [] => some ([], [])
    else (readBody s).map fun p => (c :: p.1, p.2)

def read : List Char → Option (List Char × List Char)
  | [] => none
  | c :: s => if c = quote then readBody s else none

end Literal

/-- Whether a text matches a pattern: `%` stands for any text and `_` for any character, and a
backslash makes the character after it stand for itself. -/
def like : List Char → List Char → Bool
  | [], s => s.isEmpty
  | c :: p, s =>
    if c = '%' then s.tails.any fun t => like p t
    else if c = '_' then
      match s with
      | _ :: r => like p r
      | [] => false
    else if c = backslash then
      match p with
      | e :: q =>
        match s with
        | d :: r => d == e && like q r
        | [] => false
      | [] => s == [backslash]
    else
      match s with
      | d :: r => d == c && like p r
      | [] => false

/-- The pattern of a statement that lists databases and does nothing else. -/
def listedPattern? (sql : List Char) : Option (List Char) :=
  match (Text.after? "SHOW DATABASES LIKE ".toList sql).bind Literal.read with
  | some (pattern, []) => some pattern
  | _ => none

def listing (pattern : List Char) (database : String) : Row :=
  ⟨[("Database (" ++ String.ofList pattern ++ ")", .text database)]⟩

/-- A server with these databases; `other` answers what lists none. -/
def listingServer (other : String → Except Failure (List Row)) : Server (List String) where
  acquire _ databases := (.ok [], databases)
  answer sql databases :=
    match listedPattern? sql.toList with
    | some pattern =>
      (.ok ((databases.filter fun d => like pattern d.toList).map (listing pattern)), databases)
    | none => (other sql, databases)

open Gate (existsQuery patternChar)

namespace Literal

private theorem readBody_backslash (d : Char) (s : List Char) :
    readBody (backslash :: d :: s) = (readBody s).map fun p => (escaped d ++ p.1, p.2) := by
  rw [readBody.eq_def]
  rfl

private theorem readBody_pair (s : List Char) :
    readBody (quote :: quote :: s) = (readBody s).map fun p => (quote :: p.1, p.2) := by
  rw [readBody.eq_def]
  rfl

private theorem readBody_end {s : List Char} (alone : s.head? ≠ some quote) :
    readBody (quote :: s) = some ([], s) := by
  rw [readBody.eq_def]
  cases s with
  | nil => rfl
  | cons d r =>
    have other : d ≠ quote := by simpa using alone
    simp [backslash, quote] at other ⊢
    simp [other]

private theorem readBody_plain {c : Char} (s : List Char) (unescaped : c ≠ backslash)
    (unquoted : c ≠ quote) : readBody (c :: s) = (readBody s).map fun p => (c :: p.1, p.2) := by
  rw [readBody.eq_def]
  simp [unescaped, unquoted]

/-- A literal undoes half of the escaping of a name: each backslash is left twice. -/
private theorem readBody_patternChars (name : List Char) {rest : List Char}
    (alone : rest.head? ≠ some quote) :
    readBody (name.flatMap patternChar ++ quote :: rest) =
      some (Text.doubled backslash name, rest) := by
  induction name with
  | nil => exact readBody_end alone
  | cons c name ih =>
    rw [List.flatMap_cons, List.append_assoc, Text.doubled_cons]
    by_cases escape : c = backslash
    · subst escape
      change readBody (backslash :: backslash :: backslash :: backslash ::
        (name.flatMap patternChar ++ quote :: rest)) = _
      rw [readBody_backslash, readBody_backslash, ih]
      rfl
    by_cases quoted : c = quote
    · subst quoted
      change readBody (quote :: quote :: (name.flatMap patternChar ++ quote :: rest)) = _
      rw [readBody_pair, ih]
      rfl
    · have plain : patternChar c = [c] := (if_neg escape).trans (if_neg quoted)
      rw [plain, List.singleton_append, readBody_plain _ escape quoted, ih, if_neg escape]
      rfl

end Literal

private theorem like_wildcard (p s : List Char) :
    like ('%' :: p) s = s.tails.any fun t => like p t := by
  rw [like.eq_def]
  rfl

private theorem like_character (p : List Char) (c : Char) (s : List Char) :
    like ('_' :: p) (c :: s) = like p s := by
  rw [like.eq_def]
  rfl

private theorem like_escaped (c : Char) (p s : List Char) :
    like (backslash :: c :: p) (c :: s) = like p s := by
  rw [like.eq_def]
  change (c == c && like p s) = _
  rw [beq_self_eq_true, Bool.true_and]

private theorem like_plain {c : Char} (p s : List Char) (many : c ≠ '%') (one : c ≠ '_')
    (plain : c ≠ backslash) : like (c :: p) (c :: s) = like p s := by
  rw [like.eq_def]
  simp only [if_neg many, if_neg one, if_neg plain, beq_self_eq_true, Bool.true_and]

/-- A pattern undoes the other half: with its backslashes doubled, every text matches itself. -/
private theorem like_doubled (s : List Char) : like (Text.doubled backslash s) s = true := by
  induction s with
  | nil => rfl
  | cons c s ih =>
    rw [Text.doubled_cons]
    by_cases escape : c = backslash
    · subst escape
      rw [if_pos rfl, List.cons_append, List.singleton_append, like_escaped]
      exact ih
    rw [if_neg escape, List.singleton_append]
    by_cases many : c = '%'
    · -- the wildcard may stand for the one character that it is itself
      subst many
      rw [like_wildcard, List.any_eq_true]
      exact ⟨s, (List.mem_tails s _).mpr (List.suffix_cons _ s), ih⟩
    by_cases one : c = '_'
    · subst one
      rw [like_character]
      exact ih
    · rw [like_plain _ _ many one escape]
      exact ih

private theorem toList_existsQuery (name : String) :
    (existsQuery name).toList =
      "SHOW DATABASES LIKE ".toList ++ quote :: (name.toList.flatMap patternChar ++ [quote]) := by
  have opening : "SHOW DATABASES LIKE '".toList = "SHOW DATABASES LIKE ".toList ++ [quote] := by
    decide
  have closing : "'".toList = [quote] := by decide
  unfold existsQuery
  simp only [String.toList_append, String.toList_ofList, opening, closing, List.append_assoc,
    List.cons_append, List.nil_append]

theorem listedPattern?_existsQuery (name : String) :
    listedPattern? (existsQuery name).toList = some (Text.doubled backslash name.toList) := by
  have body := @Literal.readBody_patternChars name.toList [] (by simp)
  have whole : Literal.read (quote :: (name.toList.flatMap patternChar ++ [quote])) =
      some (Text.doubled backslash name.toList, []) := body
  simp only [listedPattern?, toList_existsQuery, Text.after?_append, Option.bind_some, whole]

private theorem answer_existsQuery (other : String → Except Failure (List Row))
    (databases : List String)
    (name : String) :
    (listingServer other).answer (existsQuery name) databases =
      (.ok ((databases.filter fun d => like (Text.doubled backslash name.toList) d.toList).map
        (listing (Text.doubled backslash name.toList))), databases) := by
  simp only [listingServer, listedPattern?_existsQuery]

private theorem listed_listing_iff (databases : List String) (name : String) :
    Gate.Listed name ((databases.filter fun d =>
        like (Text.doubled backslash name.toList) d.toList).map
        (listing (Text.doubled backslash name.toList))) ↔ name ∈ databases := by
  have first (d : String) : (listing (Text.doubled backslash name.toList) d).first? =
      some (.text d) := rfl
  constructor
  · rintro ⟨r, member, named⟩
    obtain ⟨d, matching, rfl⟩ := List.mem_map.mp member
    obtain rfl : d = name := by simpa [first] using named
    exact (List.mem_filter.mp matching).1
  · intro present
    refine ⟨listing _ name, List.mem_map_of_mem (List.mem_filter.mpr ⟨present, ?_⟩), first name⟩
    exact like_doubled name.toList

/-- On a server that lists databases by pattern, the literal of the existence query ends where the
statement ends, the pattern it denotes matches the name, and the check finds the database exactly
if there is one of that name. -/
theorem databaseExists_exact (other : String → Except Failure (List Row)) (databases : List String)
    (name : String) :
    ∃ pattern,
      (existsQuery name).toList = "SHOW DATABASES LIKE ".toList ++
        quote :: (name.toList.flatMap patternChar ++ [quote]) ∧
      Literal.read (quote :: (name.toList.flatMap patternChar ++ [quote])) = some (pattern, []) ∧
      like pattern name.toList = true ∧
      let r := Exchange.against (listingServer other) (Gate.databaseExists name) databases
      r.result = .ok (decide (name ∈ databases)) ∧ r.asked = [existsQuery name] ∧
        r.state = databases := by
  have read : Literal.read (quote :: (name.toList.flatMap patternChar ++ [quote])) =
      some (Text.doubled backslash name.toList, []) :=
    Literal.readBody_patternChars name.toList (by simp)
  refine ⟨_, toList_existsQuery name, read, like_doubled name.toList, ?_⟩
  have answer := answer_existsQuery other databases name
  simp only [Gate.against_databaseExists_ok answer]
  refine ⟨congrArg Except.ok ?_, trivial, trivial⟩
  rw [Bool.eq_iff_iff, Gate.lists_iff, decide_eq_true_iff]
  exact listed_listing_iff databases name

end SchemaGate.MySql
