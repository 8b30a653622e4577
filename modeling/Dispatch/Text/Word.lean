/-
Dispatch/Text/Word.lean

Words: which characters they are made of, and where they start and end.

A word starts where a word character follows none, and ends where none follows.  Below U+0080
the word characters are letters, digits and the underscore; above, a table lists them.
-/
import Dispatch.Text.WordRanges

namespace Dispatch

/-- Letters, digits and the underscore. -/
def isAsciiWordChar (c : Char) : Bool := c.isAlphanum || c = '_'

/-- Whether words are made of this character. -/
def isWordChar (c : Char) : Bool :=
  if c.toNat < 0x80 then isAsciiWordChar c
  else wordRanges.any fun r => r.1 ≤ c.toNat && c.toNat ≤ r.2

/-- Whether a text starts inside a word. -/
def startsInWord : List Char → Bool
  | [] => false
  | c :: _ => isWordChar c

/-- The lower-case letter that a letter counts as when case does not matter: the long s counts
as `s` and the Kelvin sign as `k`.  Letters outside ASCII stand for themselves otherwise. -/
def foldCase (c : Char) : Char :=
  if c = 'ſ' then 's' else if c = '\u212a' then 'k' else c.toLower

end Dispatch
