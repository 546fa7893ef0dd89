import SchemaGate.Text.Printable
import SchemaGate.Text.GraphemeExtend
/-!
Quoted text for people: double quotes around it, short escapes for the quote, the backslash and the
common controls, and the code point in hexadecimal for whatever could not be seen.
-/

set_option autoImplicit false

namespace SchemaGate.Text

def hexDigits (n : Nat) : List Char := Nat.toDigits 16 n

def quotedChar (c : Char) : List Char :=
  if c = '\x00' then ['\x5c', '0']
  else if c = '\t' then ['\x5c', 't']
  else if c = '\r' then ['\x5c', 'r']
  else if c = '\n' then ['\x5c', 'n']
  else if c = '\x5c' then ['\x5c', '\x5c']
  else if c = '\x22' then ['\x5c', '\x22']
  else if isGraphemeExtend c || !isPrintable c then
    ['\x5c', 'u', '\x7b'] ++ hexDigits c.toNat ++ ['\x7d']
  else [c]

def quoted (s : String) : String :=
  String.ofList ('\x22' :: s.toList.flatMap quotedChar ++ ['\x22'])

end SchemaGate.Text
