import SchemaGate.Text.Blank
import SchemaGate.Text.Utf8
/-!
Lines of an environment file. A line goes on over the line ends inside of its quotations. A number
sign right after a blank starts a comment, which ends the line. At most the blank itself may stand
between the comment and the text: of several blanks every second one counts as text. Lines are read
up to the first that is no text or does not end.
-/

set_option autoImplicit false

namespace SchemaGate.Config.EnvFile

inductive Mark where
  | single
  | double
  deriving DecidableEq, Repr

def Mark.char : Mark → Char
  | single => '\x27'
  | double => '\x22'

/-- Where a reader of characters stands. -/
inductive Stance where
  | plain
  | afterBlank
  /-- After a backslash, which may stand in a quotation. -/
  | escaped (inside : Option Mark)
  | quoted (inside : Mark)
  deriving DecidableEq, Repr

namespace Stance

/-- Where a character leads that is no blank in front of a comment. -/
def enter (c : Char) : Stance :=
  if c = '\x5c' then escaped none
  else if c = Mark.double.char then quoted .double
  else if c = Mark.single.char then quoted .single
  else plain

def step : Stance → Char → Stance
  | plain, c => if Text.isBlank c && c != '\n' && c != '\r' then afterBlank else enter c
  | afterBlank, c => enter c
  | escaped none, _ => plain
  | escaped (some m), _ => quoted m
  | quoted m, c => if c = '\x5c' then escaped (some m) else if c = m.char then plain else quoted m

end Stance

/-- How far a piece of a line reaches. -/
inductive Reach where
  | stop (stance : Stance)
  /-- A comment starts after so many bytes of the piece. -/
  | comment (offset : Nat)
  deriving DecidableEq, Repr

def reach : Stance → Nat → List Char → Reach
  | stance, _, [] => .stop stance
  | stance, offset, c :: s =>
    if stance = .afterBlank ∧ c = '#' then .comment offset
    else reach (stance.step c) (offset + c.utf8Size) s

def takeBytes : Nat → List Char → List Char
  | _, [] => []
  | n, c :: s => if c.utf8Size ≤ n then c :: takeBytes (n - c.utf8Size) s else []

/-- The pieces of a file, each with the line end it goes up to. -/
def pieces : Text.Bytes → List Text.Bytes
  | [] => []
  | b :: bs =>
    if b = 10 then [b] :: pieces bs
    else
      match pieces bs with
      | [] => [[b]]
      | piece :: rest => (b :: piece) :: rest

/-- The lines that pieces make up, if the first of them goes on where `start` left off. Only as much
of a line is kept as its last piece, up to its comment, has bytes. -/
def join : List Char → Stance → List Text.Bytes → List (List Char)
  | _, _, [] => []
  | start, stance, piece :: rest =>
    match Text.Utf8.decode? piece with
    | none => []
    | some s =>
      if (Text.trimStart (start ++ s)).head? = some '#' then join [] .plain rest
      else
        match reach stance 0 s with
        | .stop .plain => (start ++ s) :: join [] .plain rest
        | .stop stance => join (start ++ s) stance rest
        | .comment offset => takeBytes offset (start ++ s) :: join [] .plain rest

/-- The bytes that mark a file as text and are no part of it. -/
def byteOrderMark : Text.Bytes := [0xEF, 0xBB, 0xBF]

def withoutMark (content : Text.Bytes) : Text.Bytes :=
  if byteOrderMark.isPrefixOf content then content.drop byteOrderMark.length else content

def lines (content : Text.Bytes) : List (List Char) := join [] .plain (pieces (withoutMark content))

end SchemaGate.Config.EnvFile
