import Mathlib.Data.List.Forall2
import SchemaGate.Proofs.TableStatements
/-!
Type keywords as they are read and written. A keyword is trimmed and looked up without regard to
case; one that is not known keeps its letters. Main statement: what is written for a keyword is read
as the same type again, blanks around it do not matter, and two keywords are written alike exactly
if they are the same known word or the same text.
-/

set_option autoImplicit false

namespace SchemaGate

namespace Text

section Trimming

def Blank (s : List Char) : Prop := ∀ c ∈ s, isBlank c = true

instance : DecidablePred Blank := fun s => List.decidableBAll (isBlank · = true) s

/-- A text that neither starts nor ends with a blank. -/
structure Solid (s : List Char) : Prop where
  first : ∀ c, s.head? = some c → isBlank c = false
  last : ∀ c, s.getLast? = some c → isBlank c = false

variable {before after s : List Char}

private theorem dropWhile_blank (blank : Blank before)
    (first : ∀ c, s.head? = some c → isBlank c = false) :
    (before ++ s).dropWhile isBlank = s := by
  rw [List.dropWhile_append_of_pos blank]
  cases s with
  | nil => rfl
  | cons c s => exact List.dropWhile_cons_of_neg (Bool.eq_false_iff.mp (first c rfl))

private theorem first_of_dropWhile (s : List Char) :
    ∀ c, (s.dropWhile isBlank).head? = some c → isBlank c = false := by
  intro c starts
  have head := List.head?_dropWhile_not isBlank s
  rw [starts] at head
  exact head

private theorem trim_of_solid (solid : Solid s) (blank : Blank before) (blank' : Blank after) :
    trim (before ++ s ++ after) = s := by
  have back : Blank after.reverse := fun c member => blank' c (List.mem_reverse.mp member)
  cases s with
  | nil =>
    have all : Blank (before ++ after) := List.forall_mem_append.mpr ⟨blank, blank'⟩
    have start : trimStart (before ++ [] ++ after) = [] := by
      rw [trimStart, List.append_nil, ← List.append_nil (before ++ after)]
      exact dropWhile_blank all (by simp)
    rw [trim, start]
    rfl
  | cons c s =>
    have start : trimStart (before ++ (c :: s) ++ after) = c :: s ++ after := by
      rw [trimStart, List.append_assoc]
      exact dropWhile_blank blank solid.first
    have ends : ∀ d, (c :: s).reverse.head? = some d → isBlank d = false := by
      rw [List.head?_reverse]
      exact solid.last
    rw [trim, start, trimEnd, List.reverse_append, dropWhile_blank back ends, List.reverse_reverse]

private theorem trim_parts (s : List Char) :
    ∃ before after, Blank before ∧ Blank after ∧ s = before ++ trim s ++ after ∧
      Solid (trim s) := by
  let start := trimStart s
  have parts : start = trim s ++ (start.reverse.takeWhile isBlank).reverse := by
    rw [trim, trimEnd, ← List.reverse_append, List.takeWhile_append_dropWhile,
      List.reverse_reverse]
  refine ⟨s.takeWhile isBlank, (start.reverse.takeWhile isBlank).reverse, ?_, ?_, ?_, ?_, ?_⟩
  · exact fun c member => List.mem_takeWhile_imp member
  · exact fun c member => List.mem_takeWhile_imp (List.mem_reverse.mp member)
  · rw [List.append_assoc, ← parts]
    exact List.takeWhile_append_dropWhile.symm
  · intro c starts
    apply first_of_dropWhile s c
    change start.head? = some c
    rw [parts, List.head?_append, starts, Option.some_or]
  · intro c ends
    apply first_of_dropWhile start.reverse c
    rw [← List.getLast?_reverse]
    exact ends

@[simp] private theorem trim_trim (s : List Char) : trim (trim s) = trim s := by
  obtain ⟨-, -, -, -, -, solid⟩ := trim_parts s
  have none : Blank [] := by simp [Blank]
  simpa using trim_of_solid solid none none

private theorem trim_around (s : List Char) (blank : Blank before) (blank' : Blank after) :
    trim (before ++ s ++ after) = trim s := by
  obtain ⟨front, back, ahead, behind, parts, solid⟩ := trim_parts s
  have outside : before ++ s ++ after = before ++ front ++ trim s ++ (back ++ after) := by
    rw [parts, trim_of_solid solid ahead behind]
    simp only [List.append_assoc]
  rw [outside]
  exact trim_of_solid solid (List.forall_mem_append.mpr ⟨blank, ahead⟩)
    (List.forall_mem_append.mpr ⟨behind, blank'⟩)

end Trimming

section Letters

/-- The same letter, in one case of ASCII or the other. -/
inductive SameLetter : Char → Char → Prop
  | same (c : Char) : SameLetter c c
  | small {c : Char} : c.isUpper = true → SameLetter c c.toLower
  | capital {c : Char} : c.isUpper = true → SameLetter c.toLower c

private theorem isUpper_iff {c : Char} :
    c.isUpper = true ↔ 65 ≤ c.toNat ∧ c.toNat ≤ 90 := by
  have range : c.isUpper = true ↔ 'A'.val ≤ c.val ∧ c.val ≤ 'Z'.val := decide_eq_true_iff
  rw [range, UInt32.le_iff_toNat_le, UInt32.le_iff_toNat_le]
  rfl

private theorem toNat_toLower (c : Char) :
    c.toLower.toNat = if c.isUpper = true then c.toNat + 32 else c.toNat := by
  by_cases upper : c.isUpper = true
  · have small : c.toLower = _ := dif_pos (of_decide_eq_true upper)
    have bound : c.toNat + 32 < UInt32.size := by
      have range := isUpper_iff.mp upper
      exact Nat.lt_trans (Nat.add_lt_add_right (Nat.lt_succ_of_le range.2) 32) (by decide)
    rw [if_pos upper, small]
    exact (UInt32.toNat_add ..).trans (Nat.mod_eq_of_lt bound)
  · have same : c.toLower = c := dif_neg fun range => upper (decide_eq_true range)
    rw [if_neg upper, same]

private theorem toLower_of_not_isUpper {c : Char} (other : ¬ c.isUpper = true) : c.toLower = c :=
  Char.toNat_inj.mp (by rw [toNat_toLower, if_neg other])

private theorem toLower_toLower (c : Char) : c.toLower.toLower = c.toLower := by
  apply toLower_of_not_isUpper
  have number := toNat_toLower c
  by_cases upper : c.isUpper = true
  · have range := isUpper_iff.mp upper
    rw [if_pos upper] at number
    rw [isUpper_iff]
    omega
  · rw [toLower_of_not_isUpper upper]
    exact upper

private theorem toLower_inj_of_isUpper {c d : Char} (hc : c.isUpper = true) (hd : d.isUpper = true)
    (h : c.toLower = d.toLower) : c = d := by
  have same := congrArg Char.toNat h
  rw [toNat_toLower, toNat_toLower, if_pos hc, if_pos hd] at same
  exact Char.toNat_inj.mp (Nat.add_right_cancel same)

private theorem sameLetter_iff {c d : Char} : SameLetter c d ↔ c.toLower = d.toLower := by
  constructor
  · rintro (_ | _ | _)
    · rfl
    · exact (toLower_toLower c).symm
    · exact toLower_toLower d
  · intro alike
    by_cases hc : c.isUpper = true <;> by_cases hd : d.isUpper = true
    · rw [toLower_inj_of_isUpper hc hd alike]
      exact .same d
    · rw [← toLower_of_not_isUpper hd, ← alike]
      exact .small hc
    · rw [← toLower_of_not_isUpper hc, alike]
      exact .capital hd
    · rw [toLower_of_not_isUpper hc, toLower_of_not_isUpper hd] at alike
      rw [alike]
      exact .same d

/-- Texts that differ in the case of ASCII letters at most. -/
def Alike (v w : List Char) : Prop := List.Forall₂ SameLetter v w

private theorem alike_iff {v w : List Char} :
    Alike v w ↔ v.map Char.toLower = w.map Char.toLower := by
  have letters : SameLetter = fun c d => c.toLower = d.toLower := by
    funext c d
    exact propext sameLetter_iff
  rw [Alike, letters, ← List.forall₂_eq_eq_eq, List.forall₂_map_left_iff,
    List.forall₂_map_right_iff]

end Letters

end Text

namespace Schema.SqlType

def known : List (String × SqlType) :=
  [("char", .char), ("varchar", .varchar), ("tinyint", .tinyInt), ("int", .int),
    ("integer", .int), ("bigint", .bigInt), ("text", .text), ("datetime", .dateTime)]

/-- A text is this word in some mixture of cases, with blanks around it. -/
def Spells (s word : String) : Prop := Text.Alike (Text.trim s.toList) word.toList

def IsKnown (s : String) : Prop := ∃ k ∈ known, Spells s k.1

/-- Two texts are the same word, where integer is int. -/
inductive SameWord (s t : String) : Prop
  | alike : Text.Alike (Text.trim s.toList) (Text.trim t.toList) → SameWord s t
  | short : Spells s "int" → Spells t "integer" → SameWord s t
  | long : Spells s "integer" → Spells t "int" → SameWord s t

section Words

variable {s t : String} {k : String × SqlType}

def lowered (s : String) : String := String.ofList ((Text.trim s.toList).map Char.toLower)

private theorem ofKeyword_eq (s : String) :
    ofKeyword s =
      (known.lookup (lowered s)).getD (.other (String.ofList (Text.trim s.toList))) := by
  have choose (w v : String) (t : SqlType) (rest : List (String × SqlType)) (d : SqlType) :
      (((v, t) :: rest).lookup w).getD d = if w = v then t else (rest.lookup w).getD d := by
    by_cases same : w = v
    · simp [same]
    · have other : (w == v) = false := beq_false_of_ne same
      simp [List.lookup_cons, other, same]
  simp only [known, choose, List.lookup_nil, Option.getD_none]
  rfl

private theorem ofKeyword_congr (same : Text.trim s.toList = Text.trim t.toList) :
    ofKeyword s = ofKeyword t := by
  rw [ofKeyword_eq, ofKeyword_eq, lowered, lowered, same]

private theorem spells_iff (member : k ∈ known) : Spells s k.1 ↔ lowered s = k.1 := by
  have small : ∀ k ∈ known, k.1.toList.map Char.toLower = k.1.toList := by decide
  rw [Spells, Text.alike_iff, small k member, lowered, ← String.toList_inj, String.toList_ofList]

private theorem ofKeyword_of_spells (member : k ∈ known) (spells : Spells s k.1) :
    ofKeyword s = k.2 := by
  have found : ∀ k ∈ known, known.lookup k.1 = some k.2 := by decide
  rw [ofKeyword_eq, (spells_iff member).mp spells, found k member, Option.getD_some]

private theorem ofKeyword_of_unknown (unknown : ¬ IsKnown s) :
    ofKeyword s = .other (String.ofList (Text.trim s.toList)) := by
  have missing : known.lookup (lowered s) = none := by
    rw [List.lookup_eq_none_iff]
    intro k member
    rw [bne_iff_ne]
    intro word
    exact unknown ⟨k, member, (spells_iff member).mpr word⟩
  rw [ofKeyword_eq, missing, Option.getD_none]

private theorem isBuiltIn_of_mem (member : k ∈ known) : k.2.IsBuiltIn := by
  intro keyword
  have all : ∀ k ∈ known, k.2 ≠ .other keyword := by simp [known]
  exact all k member

private theorem Spells.congr (alike : Text.Alike (Text.trim s.toList) (Text.trim t.toList))
    (word : String) :
    Spells s word ↔ Spells t word := by
  rw [Text.alike_iff] at alike
  rw [Spells, Spells, Text.alike_iff, Text.alike_iff, alike]

private theorem ofKeyword_of_sameWord (same : SameWord s t) (either : IsKnown s ∨ IsKnown t) :
    ofKeyword s = ofKeyword t := by
  have int : ("int", SqlType.int) ∈ known := by decide
  have integer : ("integer", SqlType.int) ∈ known := by decide
  cases same with
  | alike alike =>
    obtain ⟨k, member, spells⟩ : IsKnown s := by
      rcases either with first | ⟨k, member, spells⟩
      · exact first
      · exact ⟨k, member, (Spells.congr alike k.1).mpr spells⟩
    rw [ofKeyword_of_spells member spells,
      ofKeyword_of_spells member ((Spells.congr alike k.1).mp spells)]
  | short hs ht => rw [ofKeyword_of_spells int hs, ofKeyword_of_spells integer ht]
  | long hs ht => rw [ofKeyword_of_spells integer hs, ofKeyword_of_spells int ht]

private theorem sameWord_of_spells {l : String × SqlType} (hk : k ∈ known) (hl : l ∈ known)
    (hs : Spells s k.1) (ht : Spells t l.1) (same : k.2 = l.2) : SameWord s t := by
  have words : ∀ k ∈ known, ∀ l ∈ known, k.2 = l.2 → k.1 = l.1 ∨
      (k.1 = "int" ∧ l.1 = "integer") ∨ (k.1 = "integer" ∧ l.1 = "int") := by decide
  rcases words k hk l hl same with word | ⟨int, integer⟩ | ⟨integer, int⟩
  · rw [← word] at ht
    rw [Spells, Text.alike_iff] at hs ht
    exact .alike (Text.alike_iff.mpr (hs.trans ht.symm))
  · exact .short (int ▸ hs) (integer ▸ ht)
  · exact .long (integer ▸ hs) (int ▸ ht)

private theorem ofKeyword_eq_iff : ofKeyword s = ofKeyword t ↔
    SameWord s t ∧ (IsKnown s ∨ IsKnown t) ∨ Text.trim s.toList = Text.trim t.toList := by
  constructor
  · intro same
    by_cases hs : IsKnown s <;> by_cases ht : IsKnown t
    · obtain ⟨k, hk, spells⟩ := hs
      obtain ⟨l, hl, spells'⟩ := ht
      rw [ofKeyword_of_spells hk spells, ofKeyword_of_spells hl spells'] at same
      exact .inl ⟨sameWord_of_spells hk hl spells spells' same, .inl ⟨k, hk, spells⟩⟩
    · obtain ⟨k, hk, spells⟩ := hs
      rw [ofKeyword_of_spells hk spells, ofKeyword_of_unknown ht] at same
      exact absurd same (isBuiltIn_of_mem hk _)
    · obtain ⟨l, hl, spells⟩ := ht
      rw [ofKeyword_of_unknown hs, ofKeyword_of_spells hl spells] at same
      exact absurd same.symm (isBuiltIn_of_mem hl _)
    · rw [ofKeyword_of_unknown hs, ofKeyword_of_unknown ht] at same
      exact .inr (String.ofList_injective (SqlType.other.inj same))
  · rintro (⟨same, either⟩ | same)
    · exact ofKeyword_of_sameWord same either
    · exact ofKeyword_congr same

private theorem ofKeyword_keyword_ofKeyword (s : String) :
    ofKeyword (ofKeyword s).keyword = ofKeyword s := by
  by_cases spelled : IsKnown s
  · obtain ⟨k, member, spells⟩ := spelled
    rw [ofKeyword_of_spells member spells]
    exact ofKeyword_keyword (isBuiltIn_of_mem member)
  · have again : Text.trim (ofKeyword s).keyword.toList = Text.trim s.toList := by
      rw [ofKeyword_of_unknown spelled]
      simp [keyword]
    exact ofKeyword_congr again

private theorem render_ofKeyword_eq_iff (length : Option Nat) :
    (ofKeyword s).render length = (ofKeyword t).render length ↔ ofKeyword s = ofKeyword t := by
  constructor
  · intro same
    have chars := congrArg String.toList same
    rw [toList_render, toList_render] at chars
    have keywords := String.toList_injective (List.append_cancel_right chars)
    rw [← ofKeyword_keyword_ofKeyword s, keywords, ofKeyword_keyword_ofKeyword]
  · intro same
    rw [same]

end Words

/-- The type that a keyword names is named by what is written for it as well, and blanks of any kind
around a keyword change nothing. Two keywords are written alike, at any length, exactly if they are
the same known word up to the case of ASCII letters, where integer is int, or the same text between
their blanks; and a keyword that is not known is written as it stands between its blanks. -/
theorem keywords_normalised :
    (∀ s : String, ofKeyword (ofKeyword s).keyword = ofKeyword s) ∧
    (∀ (before after : List Char) (s : String), Text.Blank before → Text.Blank after →
      ofKeyword (String.ofList (before ++ s.toList ++ after)) = ofKeyword s) ∧
    (∀ (s t : String) (length : Option Nat),
      (ofKeyword s).render length = (ofKeyword t).render length ↔
        SameWord s t ∧ (IsKnown s ∨ IsKnown t) ∨ Text.trim s.toList = Text.trim t.toList) ∧
    ∀ s : String, ¬ IsKnown s → ∀ length : Option Nat,
      (ofKeyword s).render length = String.ofList (Text.trim s.toList ++ lengthText length) := by
  refine ⟨ofKeyword_keyword_ofKeyword, ?_, ?_, ?_⟩
  · intro before after s blank blank'
    apply ofKeyword_congr
    rw [String.toList_ofList, Text.trim_around s.toList blank blank']
  · intro s t length
    rw [render_ofKeyword_eq_iff, ofKeyword_eq_iff]
  · intro s unknown length
    apply String.toList_injective
    rw [toList_render, ofKeyword_of_unknown unknown, keyword, String.toList_ofList,
      String.toList_ofList]

/-- A wide blank and a line end around a known word in mixed case change nothing; an unknown word
keeps its case. -/
theorem keywords_of_mixed_case :
    let spaced := "\u2003Integer\n"
    let unusual := " MediumBlob\u00A0"
    Text.Blank ['\u2003'] ∧ Text.Blank ['\n'] ∧ ofKeyword spaced = ofKeyword "Integer" ∧
      SameWord spaced "iNT" ∧ IsKnown spaced ∧
      (ofKeyword spaced).render (some 11) = (ofKeyword "iNT").render (some 11) ∧
      ¬ IsKnown unusual ∧ (ofKeyword unusual).render none = "MediumBlob" := by
  intro spaced unusual
  obtain ⟨-, blanks, alike, unknown⟩ := keywords_normalised
  have wide : Text.Blank ['\u2003'] := by decide
  have line : Text.Blank ['\n'] := by decide
  have padded := blanks ['\u2003'] ['\n'] "Integer" wide line
  have long : Spells spaced "integer" := Text.alike_iff.mpr (by decide)
  have short : Spells "iNT" "int" := Text.alike_iff.mpr (by decide)
  have same : SameWord spaced "iNT" := .long long short
  have spelled : IsKnown spaced := ⟨("integer", .int), by decide, long⟩
  have foreign : ¬ IsKnown unusual := by
    rintro ⟨k, member, spells⟩
    have others : ∀ k ∈ known, lowered unusual ≠ k.1 := by decide
    exact others k member ((spells_iff member).mp spells)
  refine ⟨wide, line, padded, same, spelled,
    (alike spaced "iNT" (some 11)).mpr (.inl ⟨same, .inl spelled⟩), foreign, ?_⟩
  rw [unknown unusual foreign none]
  decide

end Schema.SqlType

end SchemaGate
