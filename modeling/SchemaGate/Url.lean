import SchemaGate.Text.Utf8
import SchemaGate.Text.Decimal
/-!
URLs with an authority, of schemes that give no part of it a special meaning. The authority holds an
optional user and password up to the last at-sign, a host, and an optional port; a path, a query and
a fragment follow. Tabs and line ends inside a URL do not count.
-/

set_option autoImplicit false

namespace SchemaGate

/-- The parts of a URL, still percent-encoded. -/
structure Url where
  username : List Char
  password : List Char
  host : List Char
  path : List (List Char)
  query : List Char
  deriving DecidableEq, Repr

namespace Url

inductive Fault where
  | emptyHost
  | invalidPort
  | invalidIpv6
  | invalidHostCharacter
  deriving DecidableEq, Repr

def Fault.message : Fault → String
  | emptyHost => "empty host"
  | invalidPort => "invalid port number"
  | invalidIpv6 => "invalid IPv6 address"
  | invalidHostCharacter => "invalid domain character"

def hexValue? (c : Char) : Option Nat :=
  if c.isDigit then some (c.toNat - '0'.toNat)
  else if 'a' ≤ c && c ≤ 'f' then some (c.toNat - 'a'.toNat + 10)
  else if 'A' ≤ c && c ≤ 'F' then some (c.toNat - 'A'.toNat + 10)
  else none

/-- The bytes of a text in which a percent sign and two hexadecimal digits stand for one byte. -/
def percentDecode : List Char → Text.Bytes
  | '%' :: a :: b :: s =>
    match hexValue? a, hexValue? b with
    | some h, some l => UInt8.ofNat (16 * h + l) :: percentDecode s
    | _, _ => Text.Utf8.encode ['%'] ++ percentDecode (a :: b :: s)
  | c :: s => Text.Utf8.encode [c] ++ percentDecode s
  | [] => []

/-- Whether a text is a number from 0 to 255 without leading zeros. -/
def isOctet (s : List Char) : Bool :=
  match Text.readNat? s with
  | some n => n ≤ 255 && (s.length == 1 || s.head? != some '0')
  | none => false

def isIpv4 (s : List Char) : Bool :=
  let parts := s.splitOn '.'
  parts.length == 4 && parts.all isOctet

def isGroup (s : List Char) : Bool :=
  1 ≤ s.length && s.length ≤ 4 && s.all fun c => (hexValue? c).isSome

/-- How many groups of 16 bits some texts are; the last may be an IPv4 address if `mixed`. -/
def groupCount? (mixed : Bool) : List (List Char) → Option Nat
  | [] => some 0
  | [s] => if isGroup s then some 1 else if mixed && isIpv4 s then some 2 else none
  | s :: rest => if isGroup s then (groupCount? mixed rest).map (· + 1) else none

/-- The groups between colons; no text has no groups. -/
def groups (s : List Char) : List (List Char) := if s.isEmpty then [] else s.splitOn ':'

def splitPair : List Char → Option (List Char × List Char)
  | ':' :: ':' :: s => some ([], s)
  | c :: s => (splitPair s).map fun p => (c :: p.1, p.2)
  | [] => none

/-- Whether a text is an IPv6 address. A pair of colons stands for at least one group of zeros. -/
def isIpv6 (s : List Char) : Bool :=
  match splitPair s with
  | none => groupCount? true (groups s) == some 8
  | some (left, right) =>
    match groupCount? false (groups left), groupCount? true (groups right) with
    | some m, some n => m + n ≤ 7
    | _, _ => false

def forbiddenInHost : List Char :=
  ['\x00', '\t', '\n', '\r', ' ', '#', '/', ':', '<', '>', '?', '@', '[', '\x5c', ']', '^', '|']

/-- Checks a host: an IPv6 address in brackets, or a name. -/
def checkHost (host : List Char) : Except Fault Unit :=
  if host.head? == some '[' then
    if host.getLast? == some ']' && isIpv6 (host.drop 1).dropLast then .ok ()
    else .error .invalidIpv6
  else if host.any forbiddenInHost.contains then .error .invalidHostCharacter
  else .ok ()

def endsAuthority (c : Char) : Bool := c == '/' || c == '?' || c == '#'

/-- Cuts at the last at-sign. -/
def splitUserinfo (authority : List Char) : Option (List Char × List Char) :=
  let back := authority.reverse
  if back.contains '@' then
    some ((back.dropWhile (· != '@')).drop 1 |>.reverse, (back.takeWhile (· != '@')).reverse)
  else none

/-- Cuts off the host, which ends at the first colon outside of brackets. -/
def splitHost : Bool → List Char → List Char × List Char
  | _, [] => ([], [])
  | inside, c :: s =>
    if c = ':' && !inside then ([], c :: s)
    else
      let inside := if c = '[' then true else if c = ']' then false else inside
      let (host, rest) := splitHost inside s
      (c :: host, rest)

/-- Cuts off the port after a colon. A backslash ends it and starts the path. -/
def splitPort : List Char → Except Fault (List Char)
  | ':' :: s =>
    let digits := s.takeWhile Char.isDigit
    let rest := s.dropWhile Char.isDigit
    if 65535 < Text.digitsValue 0 digits then .error .invalidPort
    else if rest.isEmpty || rest.head? == some '\x5c' then .ok rest
    else .error .invalidPort
  | s => .ok s

def isSingleDot (s : List Char) : Bool :=
  let lower := s.map Char.toLower
  lower == ['.'] || lower == ['%', '2', 'e']

def isDoubleDot (s : List Char) : Bool :=
  let lower := s.map Char.toLower
  lower == ['.', '.'] || lower == ['.', '%', '2', 'e'] || lower == ['%', '2', 'e', '.'] ||
    lower == ['%', '2', 'e', '%', '2', 'e']

/-- The segments of a path without dot segments, after the segments of `up`, last first. -/
def normalize (up : List (List Char)) : List (List Char) → List (List Char)
  | [] => up.reverse
  | [s] =>
    if isDoubleDot s then ([] :: up.drop 1).reverse
    else if isSingleDot s then ([] :: up).reverse
    else (s :: up).reverse
  | s :: rest =>
    if isDoubleDot s then normalize (up.drop 1) rest
    else if isSingleDot s then normalize up rest
    else normalize (s :: up) rest

/-- The segments of a path, which may lack its first slash. -/
def pathSegments (path : List Char) : List (List Char) :=
  match path with
  | [] => []
  | '/' :: s => normalize [] (s.splitOn '/')
  | s => normalize [] (s.splitOn '/')

def pathText (u : Url) : List Char := u.path.flatMap fun s => '/' :: s

/-- Reads what follows the two slashes of a URL. -/
def ofAuthority (text : List Char) : Except Fault Url := do
  let authority := text.takeWhile fun c => !endsAuthority c
  let rest := text.dropWhile fun c => !endsAuthority c
  let (userinfo, location) := (splitUserinfo authority).getD ([], authority)
  if splitUserinfo authority == some ([], []) && !rest.isEmpty then throw .emptyHost
  let username := userinfo.takeWhile (· != ':')
  let password := (userinfo.dropWhile (· != ':')).drop 1
  let (host, after) := splitHost false location
  checkHost host
  if host.isEmpty && !after.isEmpty then throw .emptyHost
  let extra ← splitPort after
  if host.isEmpty && !(username.isEmpty && password.isEmpty) then throw .emptyHost
  let path := extra ++ rest.takeWhile fun c => c != '?' && c != '#'
  let query := (rest.dropWhile fun c => c != '?' && c != '#').takeWhile (· != '#')
  return ⟨username, password, host, pathSegments path, query.drop 1⟩

/-- Drops what does not count in a URL: controls and spaces at the end, tabs and line ends. -/
def significant (text : List Char) : List Char :=
  ((text.reverse.dropWhile (· ≤ ' ')).reverse).filter fun c => c != '\t' && c != '\n' && c != '\r'

/-- A name or value of a query: a plus sign stands for a space. -/
def formDecode (s : List Char) : String :=
  Text.ofUtf8Lossy (percentDecode (s.map fun c => if c = '+' then ' ' else c))

/-- The names and values of a query, in order; empty pairs do not count. -/
def queryPairs (u : Url) : List (String × String) :=
  ((u.query.splitOn '&').filter (!·.isEmpty)).map fun pair =>
    (formDecode (pair.takeWhile (· != '=')), formDecode ((pair.dropWhile (· != '=')).drop 1))

end Url

end SchemaGate
