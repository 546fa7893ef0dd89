/-!
UTF-8. A byte text is cut into pieces: each is one encoded character, a run of bytes that no
character starts with although more bytes follow, or a character that the text ends inside of. A
strict reader wants characters only; a lenient one shows every other piece as U+FFFD.
-/

set_option autoImplicit false

namespace SchemaGate.Text

/-- A text whose encoding is not known to be valid. -/
abbrev Bytes := List UInt8

namespace Utf8

/-- What a first byte promises: how many bytes follow it, the range of the first of them, and the
bits it adds to the code point. -/
structure Lead where
  tails : Nat
  low : UInt8
  high : UInt8
  bits : Nat

/-- The promise of a first byte. Overlong forms, surrogates and code points above U+10FFFF are ruled
out by the range of the second byte. -/
def lead? (b : UInt8) : Option Lead :=
  let n := b.toNat
  if n < 0x80 then some ⟨0, 0x80, 0xBF, n⟩
  else if n < 0xC2 then none
  else if n < 0xE0 then some ⟨1, 0x80, 0xBF, n - 0xC0⟩
  else if n = 0xE0 then some ⟨2, 0xA0, 0xBF, 0⟩
  else if n = 0xED then some ⟨2, 0x80, 0x9F, 0xD⟩
  else if n < 0xF0 then some ⟨2, 0x80, 0xBF, n - 0xE0⟩
  else if n = 0xF0 then some ⟨3, 0x90, 0xBF, 0⟩
  else if n < 0xF4 then some ⟨3, 0x80, 0xBF, n - 0xF0⟩
  else if n = 0xF4 then some ⟨3, 0x80, 0x8F, 4⟩
  else none

/-- One piece of a byte text. A size counts the bytes of the piece. -/
inductive Piece where
  | char (c : Char) (size : Nat)
  | broken (size : Nat)
  | cut (size : Nat)
  deriving DecidableEq, Repr

def Piece.size : Piece → Nat
  | .char _ n => n
  | .broken n => n
  | .cut n => n

def Piece.shown : Piece → Char
  | .char c _ => c
  | _ => '\uFFFD'

def Piece.char? : Piece → Option Char
  | .char c _ => some c
  | _ => none

/-- Reads the bytes that a first byte promised; `size` counts the bytes read so far. -/
def tails (low high : UInt8) : Nat → Nat → Nat → Bytes → Piece
  | 0, code, size, _ => .char (Char.ofNat code) size
  | _ + 1, _, size, [] => .cut size
  | n + 1, code, size, b :: bs =>
    if low ≤ b && b ≤ high then tails 0x80 0xBF n (code * 64 + (b.toNat - 0x80)) (size + 1) bs
    else .broken size

def piece (b : UInt8) (bs : Bytes) : Piece :=
  match lead? b with
  | none => .broken 1
  | some l => tails l.low l.high l.tails l.bits 1 bs

/-- The pieces of a text, after as many bytes as the piece before them still takes. -/
def piecesFrom : Nat → Bytes → List Piece
  | _, [] => []
  | n + 1, _ :: bs => piecesFrom n bs
  | 0, b :: bs => piece b bs :: piecesFrom ((piece b bs).size - 1) bs

def pieces (bs : Bytes) : List Piece := piecesFrom 0 bs

def decode? (bs : Bytes) : Option (List Char) := (pieces bs).mapM Piece.char?

/-- The text with each piece that is no character shown as U+FFFD. -/
def decodeLossy (bs : Bytes) : List Char := (pieces bs).map Piece.shown

def encode (s : List Char) : Bytes := s.flatMap String.utf8EncodeChar

inductive Fault where
  | invalid (size offset : Nat)
  | incomplete (offset : Nat)
  deriving DecidableEq, Repr

/-- The first piece that is no character, after `offset` bytes of valid text. -/
def faultFrom? : Nat → List Piece → Option Fault
  | _, [] => none
  | offset, .char _ n :: ps => faultFrom? (offset + n) ps
  | offset, .broken n :: _ => some (.invalid n offset)
  | offset, .cut _ :: _ => some (.incomplete offset)

def fault? (bs : Bytes) : Option Fault := faultFrom? 0 (pieces bs)

end Utf8

def ofUtf8? (bs : Bytes) : Option String := (Utf8.decode? bs).map String.ofList

/-- A byte text as a string, its faults shown as U+FFFD. -/
def ofUtf8Lossy (bs : Bytes) : String := String.ofList (Utf8.decodeLossy bs)

def utf8 (s : String) : Bytes := Utf8.encode s.toList

end SchemaGate.Text
