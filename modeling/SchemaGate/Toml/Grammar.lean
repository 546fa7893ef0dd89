import SchemaGate.Toml.DateTime
import SchemaGate.Toml.Quotation
import SchemaGate.Toml.Tree
/-!
The grammar of keys and values. Each reader takes its part off the front of a text and gives what
follows, or nothing if the text does not start with it. Arrays may span lines and hold comments;
inline tables may not. Arrays and inline tables nest up to a limit.
-/

set_option autoImplicit false

namespace SchemaGate.Toml

/-- How many parts a dotted key may have, and how deep values may nest. -/
def nestingLimit : Nat := 79

def isLineBlank (c : Char) : Bool := c == ' ' || c == '\t'

def skipBlanks (s : List Char) : List Char := s.dropWhile isLineBlank

def isBare (c : Char) : Bool := c.isAlphanum || c == '-' || c == '_'

def keyPart? (s : List Char) : Option (String × List Char) :=
  let bare := s.takeWhile isBare
  if bare.isEmpty then (Quotation.line? s).map fun p => (String.ofList p.1, p.2)
  else some (String.ofList bare, s.dropWhile isBare)

/-- Reads the parts of a key, at most `n`, with blanks around each. -/
def keyParts? : Nat → List Char → Option (List String × List Char)
  | 0, _ => none
  | n + 1, s =>
    match keyPart? (skipBlanks s) with
    | none => none
    | some (part, r) =>
      match skipBlanks r with
      | '.' :: r => (keyParts? n r).map fun p => (part :: p.1, p.2)
      | r => some ([part], r)

/-- Reads a key; gives the path to its last part, and that part. -/
def key? (s : List Char) : Option ((List String × String) × List Char) :=
  match keyParts? nestingLimit s with
  | some (parts, r) => parts.getLast?.map fun last => ((parts.dropLast, last), r)
  | none => none

def isScalarChar (c : Char) : Bool :=
  c.isAlphanum || c == '+' || c == '-' || c == '.' || c == '_' || c == ':'

def scalar? (s : List Char) : Option Value :=
  if s == "true".toList then some (.boolean true)
  else if s == "false".toList then some (.boolean false)
  else if isDateTime s then some (.dateTime (String.ofList s))
  else ((float? s).map Value.float).or ((integer? s).map Value.integer)

/-- Cuts a scalar off the front of a text. A date may be followed by a space and a time. -/
def splitScalar (s : List Char) : List Char × List Char :=
  let front := s.takeWhile isScalarChar
  let rest := s.dropWhile isScalarChar
  match rest with
  | ' ' :: c :: r =>
    if c.isDigit && date? front == some [] then
      (front ++ ' ' :: (c :: r).takeWhile isScalarChar, (c :: r).dropWhile isScalarChar)
    else (front, rest)
  | _ => (front, rest)

def isCommentChar (c : Char) : Bool := Quotation.isPlain c

/-- Drops a line end at the front of a text; the end of the text is one too. -/
def lineEnd? : List Char → Option (List Char)
  | [] => some []
  | '\n' :: s => some s
  | '\r' :: '\n' :: s => some s
  | _ => none

def endOfLine? (s : List Char) : Option (List Char) :=
  match skipBlanks s with
  | '#' :: r => lineEnd? (r.dropWhile isCommentChar)
  | r => lineEnd? r

/-- Drops blanks, comments and line ends, on as many lines as the text has. -/
def skipTrivia : Nat → List Char → Option (List Char)
  | 0, s => some s
  | n + 1, s =>
    match skipBlanks s with
    | '#' :: r => (lineEnd? (r.dropWhile isCommentChar)).bind (skipTrivia n)
    | '\n' :: r => skipTrivia n r
    | '\r' :: r => (lineEnd? ('\r' :: r)).bind (skipTrivia n)
    | r => some r

def trivia? (s : List Char) : Option (List Char) := skipTrivia s.length s

mutual

/-- Reads a value. The fuel bounds the length of what is read, the depth how far it may nest. -/
def value? : Nat → Nat → List Char → Option (Value × List Char)
  | 0, _, _ => none
  | fuel + 1, depth, s =>
    match s with
    | [] => none
    | '[' :: r =>
      if depth = 0 then none
      else (items? fuel (depth - 1) r).map fun p => (.array p.1, p.2)
    | '\x7b' :: r =>
      if depth = 0 then none
      else
        match skipBlanks r with
        | '\x7d' :: r => some (.table [], r)
        | r =>
          match pairs? fuel (depth - 1) r with
          | none => none
          | some (pairs, r) =>
            (Entries.addPairs .header [] pairs).map fun e => (.table (entryValues e), r)
    | c :: _ =>
      if c = '\x22' || c = '\x27' then
        (Quotation.string? s).map fun p => (.string (String.ofList p.1), p.2)
      else
        let (front, rest) := splitScalar s
        (scalar? front).map fun v => (v, rest)

def items? : Nat → Nat → List Char → Option (List Value × List Char)
  | 0, _, _ => none
  | fuel + 1, depth, s =>
    match trivia? s with
    | none => none
    | some (']' :: r) => some ([], r)
    | some r =>
      match value? fuel depth r with
      | none => none
      | some (v, r) =>
        match trivia? r with
        | some (',' :: r) => (items? fuel depth r).map fun p => (v :: p.1, p.2)
        | some (']' :: r) => some ([v], r)
        | _ => none

def pairs? : Nat → Nat → List Char → Option (List ((List String × String) × Value) × List Char)
  | 0, _, _ => none
  | fuel + 1, depth, s =>
    match pair? fuel depth s with
    | none => none
    | some (p, r) =>
      match skipBlanks r with
      | ',' :: r => (pairs? fuel depth r).map fun ps => (p :: ps.1, ps.2)
      | '\x7d' :: r => some ([p], r)
      | _ => none

def pair? : Nat → Nat → List Char → Option (((List String × String) × Value) × List Char)
  | 0, _, _ => none
  | fuel + 1, depth, s =>
    match key? s with
    | some (key, '=' :: r) => (value? fuel depth (skipBlanks r)).map fun p => ((key, p.1), p.2)
    | _ => none

end

/-- Enough fuel to read anything in a text: each bracket takes three steps down. -/
def fuelFor (s : List Char) : Nat := 4 * s.length + 4

end SchemaGate.Toml
