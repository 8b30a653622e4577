/-
Dispatch/Text/Quoted.lean

Texts shown between quotes, so that every character can be seen: the usual escapes, and code
points in hexadecimal for characters that show nothing.
-/
import Dispatch.Text.HiddenRanges

namespace Dispatch.Quoted

/-- Whether a character has to be shown by its code point. -/
def isHidden (c : Char) : Bool :=
  if c.toNat < 0x80 then c.toNat < 0x20 || c.toNat = 0x7F
  else hiddenRanges.any fun r => r.1 ≤ c.toNat && c.toNat ≤ r.2

/-- One character between quotes. -/
def char (c : Char) : List Char :=
  if c = '\x00' then ['\\', '0']
  else if c = '\t' then ['\\', 't']
  else if c = '\n' then ['\\', 'n']
  else if c = '\r' then ['\\', 'r']
  else if c = '\\' then ['\\', '\\']
  else if c = '\x22' then ['\\', '\x22']
  else if isHidden c then
    '\\' :: 'u' :: '\x7b' :: Nat.toDigits 16 c.toNat ++ ['\x7d']
  else [c]

/-- A text between quotes. -/
def text (s : String) : String := String.ofList ('\x22' :: s.toList.flatMap char ++ ['\x22'])

/-- A list of texts. -/
def list (l : List String) : String := "[" ++ ", ".intercalate (l.map text) ++ "]"

end Dispatch.Quoted
