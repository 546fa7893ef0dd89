import SchemaGate.Config.Environment
import SchemaGate.Text.Replace
/-!
Placeholders: a dollar sign and a variable's name in braces. The placeholders of a text are found
first; then, one after the other, each whose variable is set is replaced by the value wherever it
stands in the text so far. A placeholder of an unset variable stays as it is written.
-/

set_option autoImplicit false

namespace SchemaGate.Config

namespace Placeholder

def startsName (c : Char) : Bool := c.isUpper || c == '_'

def inName (c : Char) : Bool := startsName c || c.isDigit

def write (name : List Char) : List Char := '$' :: '\x7b' :: name ++ ['\x7d']

/-- The variable of the placeholder that a text starts with. -/
def read? (s : List Char) : Option (List Char) :=
  match s with
  | '$' :: '\x7b' :: r =>
    let name := r.takeWhile inName
    if (name.head?.any startsName) && (r.dropWhile inName).head? == some '\x7d' then some name
    else none
  | _ => none

/-- The variables of the placeholders of a text, in order. -/
def names : List Char → List (List Char)
  | [] => []
  | c :: s =>
    match read? (c :: s) with
    | some name => name :: names s
    | none => names s

/-- Replaces every placeholder of one variable by its value. -/
def fill (env : Environment) (s : List Char) (name : List Char) : List Char :=
  match env.get? (String.ofList name) with
  | some value => Text.replaceAll (write name) value.toList s
  | none => s

end Placeholder

def substitute (env : Environment) (text : String) : String :=
  String.ofList ((Placeholder.names text.toList).foldl (Placeholder.fill env) text.toList)

end SchemaGate.Config
