import SchemaGate.Toml.Number
/-!
Quoted strings. Four kinds: in double or single quotes, on one line or on several between triple
quotes. Escapes stand only in double quotes. Text on several lines has line feeds for line ends,
loses a line end right after its opening, and may end in up to two quotes of its own.
-/

set_option autoImplicit false

namespace SchemaGate.Toml

structure Quotation where
  quote : Char
  multiline : Bool

namespace Quotation

def escaping (q : Quotation) : Bool := q.quote == '\x22'

inductive Mode where
  | text
  /-- After a backslash that is to be followed by blanks and a line end. -/
  | lineEnd
  /-- In the blanks and line ends that such a backslash removes. -/
  | gap
  /-- In a code point with that many digits to come. -/
  | code (left value : Nat)

def isPlain (c : Char) : Bool := c == '\t' || (' ' ≤ c && c != '\x7f')

def escape? (c : Char) : Option Char :=
  if c = 'b' then some '\x08'
  else if c = 't' then some '\t'
  else if c = 'n' then some '\n'
  else if c = 'f' then some '\x0c'
  else if c = 'r' then some '\r'
  else if c = '\x22' then some '\x22'
  else if c = '\x5c' then some '\x5c'
  else none

def charOfCode? (n : Nat) : Option Char :=
  if n < 0xD800 || (0xE000 ≤ n && n ≤ 0x10FFFF) then some (Char.ofNat n) else none

def emit (c : Char) (r : Option (List Char × List Char)) : Option (List Char × List Char) :=
  r.map fun p => (c :: p.1, p.2)

/-- Ends a string on several lines at a run of quotes, three of which close it. -/
def closeRun (q : Char) (s : List Char) : List Char × List Char :=
  match s with
  | a :: b :: r => if a = q && b = q then ([q, q], r) else if a = q then ([q], b :: r) else ([], s)
  | [a] => if a = q then ([q], []) else ([], s)
  | [] => ([], [])

/-- Reads the rest of a string; gives its text and what follows its closing quotes. -/
def body (q : Quotation) : Mode → List Char → Option (List Char × List Char)
  | _, [] => none
  | .code left value, c :: s =>
    if isHexDigit c then
      let value := 16 * value + hexDigitValue c
      if left ≤ 1 then
        match charOfCode? value with
        | some d => emit d (body q .text s)
        | none => none
      else body q (.code (left - 1) value) s
    else none
  | .lineEnd, c :: s =>
    if c = ' ' || c = '\t' || (c = '\r' && s.head? == some '\n') then body q .lineEnd s
    else if c = '\n' then body q .gap s
    else none
  | mode, c :: s =>
    let inGap := match mode with
      | .gap => true
      | _ => false
    if inGap && (c = ' ' || c = '\t' || c = '\n' || (c = '\r' && s.head? == some '\n')) then
      body q .gap s
    else if c = q.quote then
      if !q.multiline then some ([], s)
      else
        match s with
        | a :: b :: r =>
          if a = q.quote && b = q.quote then some (closeRun q.quote r)
          else emit c (body q .text s)
        | _ => none
    else if c = '\x5c' && q.escaping then
      match s with
      | [] => none
      | e :: r =>
        match escape? e with
        | some d => emit d (body q .text r)
        | none =>
          if e = 'u' then body q (.code 4 0) r
          else if e = 'U' then body q (.code 8 0) r
          else if q.multiline then body q .lineEnd (e :: r)
          else none
    else if q.multiline && c = '\r' && s.head? == some '\n' then body q .text s
    else if q.multiline && c = '\n' then emit c (body q .text s)
    else if isPlain c then emit c (body q .text s)
    else none

def dropLineEnd : List Char → List Char
  | '\n' :: s => s
  | '\r' :: '\n' :: s => s
  | s => s

def line? : List Char → Option (List Char × List Char)
  | c :: s => if c = '\x22' || c = '\x27' then body ⟨c, false⟩ .text s else none
  | [] => none

def string? (s : List Char) : Option (List Char × List Char) :=
  match s with
  | a :: b :: c :: r =>
    if a = b && b = c && (a = '\x22' || a = '\x27') then body ⟨a, true⟩ .text (dropLineEnd r)
    else line? s
  | _ => line? s

end Quotation

end SchemaGate.Toml
