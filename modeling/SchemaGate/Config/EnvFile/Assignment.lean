import SchemaGate.Config.Environment
import SchemaGate.Text.Alphanumeric
import SchemaGate.Text.Blank
/-!
Assignments in an environment file: a name, an equals sign, and a value. In a value, single quotes
keep everything as it is; double quotes keep blanks; a backslash escapes; and a dollar sign with a
name after it, perhaps in braces, stands for a variable. A blank outside of quotes ends the value,
and only a comment may follow.
-/

set_option autoImplicit false

namespace SchemaGate.Config.EnvFile

/-- Where a reader of a value stands; `inside` says that double quotes are open. -/
inductive ValueStance where
  | text (inside : Bool)
  | escape (inside : Bool)
  | single
  /-- In the name of a variable. -/
  | bare (inside : Bool) (name : List Char)
  /-- In the name of a variable in braces. -/
  | braced (inside : Bool) (name : List Char)
  | ended

def unescape? (c : Char) : Option Char :=
  if c = 'n' then some '\n'
  else if ['\x5c', '\x27', '\x22', '$', ' '].contains c then some c
  else none

/-- The value of a variable; nothing if it is not set. -/
def lookup (env : Environment) (name : List Char) : List Char :=
  ((env.get? (String.ofList name)).getD "").toList

/-- Whether a character separates the value from what follows it. -/
def isGap (c : Char) : Bool := c == ' ' || c == '\t'

/-- Reads a value. Every quotation and every brace must be closed. -/
def readValue (env : Environment) : ValueStance → List Char → Option (List Char)
  | .text inside, [] => if inside then none else some []
  | .text inside, c :: s =>
    if c = '$' then readValue env (.bare inside []) s
    else if c = '\x22' then readValue env (.text !inside) s
    else if c = '\x5c' then readValue env (.escape inside) s
    else if !inside && c = '\x27' then readValue env .single s
    else if !inside && isGap c then readValue env .ended s
    else (readValue env (.text inside) s).map (c :: ·)
  | .escape inside, [] => if inside then none else some []
  | .escape inside, c :: s =>
    match unescape? c with
    | some d => (readValue env (.text inside) s).map (d :: ·)
    | none => none
  | .single, [] => none
  | .single, c :: s =>
    if c = '\x27' then readValue env (.text false) s else (readValue env .single s).map (c :: ·)
  | .bare inside name, [] => if inside then none else some (lookup env name)
  | .bare inside name, c :: s =>
    if Text.isAlphanumeric c then readValue env (.bare inside (name ++ [c])) s
    else if c = '\x7b' ∧ name = [] then readValue env (.braced inside []) s
    else if c = '$' then (readValue env (.bare inside []) s).map (lookup env name ++ ·)
    else (readValue env (.text inside) s).map (lookup env name ++ c :: ·)
  | .braced _ _, [] => none
  | .braced inside name, c :: s =>
    if c = '\x7d' then (readValue env (.text inside) s).map (lookup env name ++ ·)
    else readValue env (.braced inside (name ++ [c])) s
  | .ended, [] => some []
  | .ended, c :: s =>
    if c = '#' then some [] else if isGap c then readValue env .ended s else none

def startsName (c : Char) : Bool := c.isAlpha || c == '_'

def inName (c : Char) : Bool := c.isAlphanum || c == '_' || c == '.'

/-- Reads a name and the blanks after it. -/
def readName (s : List Char) : Option (List Char × List Char) :=
  if s.head?.any startsName then some (s.takeWhile inName, Text.trimStart (s.dropWhile inName))
  else none

/-- Reads what stands in front of a value. The word `export` may stand before the name. -/
def readHead (s : List Char) : Option (List Char × List Char) :=
  match readName s with
  | some (name, '=' :: r) => some (name, Text.trimStart r)
  | some (name, r) =>
    if name = "export".toList then
      match readName r with
      | some (name, '=' :: r) => some (name, Text.trimStart r)
      | _ => none
    else none
  | none => none

/-- Whether nothing but a comment is left. -/
def isOver (s : List Char) : Bool := s.head?.all (· == '#')

inductive Line where
  | nothing
  | assignment (name value : String)
  | malformed
  deriving DecidableEq, Repr

def readLine (env : Environment) (line : List Char) : Line :=
  let s := Text.trim line
  if isOver s then .nothing
  else
    match readHead s with
    | none => .malformed
    | some (name, r) =>
      if isOver r then .assignment (String.ofList name) ""
      else
        match readValue env (.text false) r with
        | some value => .assignment (String.ofList name) (String.ofList value)
        | none => .malformed

end SchemaGate.Config.EnvFile
