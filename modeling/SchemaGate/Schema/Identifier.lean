import SchemaGate.Text.Replace
/-!
Quoted identifiers. A name stands between backticks, and each backtick inside it is written twice,
so the first backtick that stands alone ends the name. Main statement: reading undoes quoting
whatever text follows, unless that text starts with a backtick.
-/

set_option autoImplicit false

namespace SchemaGate.Schema

def backtick : Char := '\x60'

namespace Identifier

def quoteChars (name : List Char) : List Char :=
  backtick :: Text.doubled backtick name ++ [backtick]

def quote (name : String) : String := String.ofList (quoteChars name.toList)

/-- Reads up to the first backtick that stands alone; gives the name and what follows. -/
def readBody : List Char → Option (List Char × List Char)
  | [] => none
  | c :: s =>
    if c = backtick then
      match s with
      | d :: r =>
        if d = backtick then (readBody r).map fun p => (backtick :: p.1, p.2) else some ([], s)
      | [] => some ([], [])
    else (readBody s).map fun p => (c :: p.1, p.2)

def read : List Char → Option (List Char × List Char)
  | [] => none
  | c :: s => if c = backtick then readBody s else none

theorem readBody_cons_of_ne {c : Char} (s : List Char) (h : c ≠ backtick) :
    readBody (c :: s) = (readBody s).map fun p => (c :: p.1, p.2) := by
  rw [readBody.eq_def]
  simp [h]

theorem readBody_doubled (name rest : List Char) (h : rest.head? ≠ some backtick) :
    readBody (Text.doubled backtick name ++ backtick :: rest) = some (name, rest) := by
  induction name with
  | nil =>
    cases rest with
    | nil => simp [readBody]
    | cons d r =>
      have hd : d ≠ backtick := by simpa using h
      simp [readBody, hd]
  | cons c name ih =>
    by_cases hc : c = backtick
    · subst hc
      simp [Text.doubled_cons, readBody, ih]
    · simp [Text.doubled_cons, readBody_cons_of_ne _ hc, hc, ih]

theorem read_quoteChars (name rest : List Char) (h : rest.head? ≠ some backtick) :
    read (quoteChars name ++ rest) = some (name, rest) := by
  simpa [read, quoteChars] using readBody_doubled name rest h

end Identifier

end SchemaGate.Schema
